import BoxOffice.Decimal
import BoxOffice.Instant
import BoxOffice.Quantity
import BoxOffice.Table
import BoxOffice.UnknownStatus

/-!
Ticket classes: the tickets of one event that are sold at one price. A class counts the tickets
that are reserved and those that are sold; the number still available follows from the counts
and is not kept.
-/

namespace BoxOffice

inductive TicketClass.Status
  | active
  | inactive
  deriving DecidableEq

namespace TicketClass.Status

def all : List Status := [.active, .inactive]

def name : Status → String
  | .active => "ACTIVE"
  | .inactive => "INACTIVE"

def ofName? (value : String) : Except UnknownStatus Status :=
  findNamed "ticket class" all name value

end TicketClass.Status

structure TicketClass where
  id : Uuid
  event : Uuid
  name : String
  price : Decimal
  currency : String
  total : Quantity
  reserved : Quantity
  sold : Quantity
  saleStart : Option Instant
  saleEnd : Option Instant
  status : TicketClass.Status
  createdAt : Instant
  updatedAt : Instant
  deriving DecidableEq

namespace TicketClass

instance : Keyed TicketClass := ⟨TicketClass.id⟩

def available (c : TicketClass) : Quantity := c.total - c.reserved - c.sold

/-- An active class is on sale within its window, the ends included; an absent end is no
bound. -/
def isOnSale (c : TicketClass) (now : Instant) : Bool :=
  c.status = .active && c.saleStart.all (· ≤ now) && c.saleEnd.all (now ≤ ·)

structure OnSale (c : TicketClass) (now : Instant) : Prop where
  active : c.status = .active
  started : ∀ start ∈ c.saleStart, start ≤ now
  notEnded : ∀ last ∈ c.saleEnd, now ≤ last

theorem isOnSale_iff {c : TicketClass} {now : Instant} :
    c.isOnSale now = true ↔ c.OnSale now := by
  simp only [isOnSale, Bool.and_eq_true, decide_eq_true_eq, Option.all_eq_true]
  exact ⟨fun ⟨⟨active, started⟩, notEnded⟩ => ⟨active, started, notEnded⟩,
    fun onSale => ⟨⟨onSale.active, onSale.started⟩, onSale.notEnded⟩⟩

theorem isOnSale_eq_false_iff {c : TicketClass} {now : Instant} :
    c.isOnSale now = false ↔ ¬c.OnSale now := by
  rw [← isOnSale_iff, Bool.not_eq_true]

/-- What a listing asks for: the classes of an event, if one is given, and those with the given
identifiers, if there are any. -/
structure Filter where
  event : Option Uuid
  ids : List Uuid
  deriving DecidableEq

def Filter.admits (f : Filter) (c : TicketClass) : Bool :=
  f.event.all (· = c.event) && (f.ids.isEmpty || f.ids.contains c.id)

end TicketClass

end BoxOffice
