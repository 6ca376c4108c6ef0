import BoxOffice.Uuid

/-!
The supply of new identifiers: a source that is drawn from one after the other.
-/

namespace BoxOffice

structure IdSupply where
  source : Nat → Uuid
  drawn : Nat

namespace IdSupply

def draw (ids : IdSupply) : Uuid × IdSupply :=
  (ids.source ids.drawn, { ids with drawn := ids.drawn + 1 })

/-- The identifier that a source without a list of its own gives at a place: a fixed pattern of
version 4 with the place, counted from one, as its last group. -/
def numbered (place : Nat) : Uuid :=
  Uuid.ofNat (0x00000000000040008000000000000000 + (place + 1) % Nat.pow 2 48)

/-- Identifiers from a list, and numbered ones after its end. -/
def ofList (ids : List Uuid) : IdSupply := ⟨fun place => ids.getD place (numbered place), 0⟩

end IdSupply

end BoxOffice
