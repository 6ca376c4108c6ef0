import BoxOffice.Store

/-!
Availability: whether classes have the tickets that a list of lines asks for. The answer holds
for the moment only; nothing is reserved.
-/

namespace BoxOffice

/-- Lines merged as far as they can be read: up to a quantity that is not positive, which is
refused, or a sum out of range, which no class can have. -/
inductive Wanted
  | lines (lines : Lines)
  | tooMany
  deriving DecidableEq

def Wanted.ofItems (lines : Lines) : List Line → Except Invalid Wanted
  | [] => .ok (.lines lines)
  | line :: rest =>
    if line.quantity ≤ 0 then .error (.quantityNotPositive line.ticketClass)
    else
      match lines.add? line with
      | some lines => ofItems lines rest
      | none => .ok .tooMany

def Store.canServe (s : Store) (wanted : Lines) : Bool :=
  let found := s.list ⟨none, wanted.rows.map (·.ticketClass)⟩
  found.length = wanted.rows.length && found.all fun c => wanted.quantity c.id ≤ c.available

end BoxOffice
