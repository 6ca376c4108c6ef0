import BoxOffice.Quantity
import BoxOffice.Table

/-!
Lines: so many tickets of one class. A request lists lines in any order and may name a class
more than once; merged, there is one line for each class, in the order of the classes.
-/

namespace BoxOffice

structure Line where
  ticketClass : Uuid
  quantity : Quantity
  deriving DecidableEq

instance : Keyed Line := ⟨Line.ticketClass⟩

/-- The quantity wanted of each class. -/
abbrev Lines := Table Line

namespace Lines

/-- The quantity of a class that is not listed is zero. -/
def quantity (lines : Lines) (id : Uuid) : Quantity :=
  match lines.find? id with
  | some line => line.quantity
  | none => 0

def add (lines : Lines) (line : Line) : Lines :=
  lines.insert ⟨line.ticketClass, lines.quantity line.ticketClass + line.quantity⟩

/-- One more line, merged with the one of its class, if the sum is in range. -/
def add? (lines : Lines) (line : Line) : Option Lines :=
  (Quantity.plus? (lines.quantity line.ticketClass) line.quantity).map fun sum =>
    lines.insert ⟨line.ticketClass, sum⟩

end Lines

end BoxOffice
