import BoxOffice.Refusal
import BoxOffice.Text.Form
import BoxOffice.TicketClass

/-!
Listings: the query that selects ticket classes by event, by a list of identifiers between
commas, or by both. A query that names neither is refused, since its filter would admit every
class.
-/

namespace BoxOffice.Http

structure Listing where
  event : Option Uuid
  ids : Option String
  deriving DecidableEq

namespace Listing

/-- The value that pairs give to a name; `none` when they give more than one. -/
def single? (name : String) (pairs : List (String × String)) : Option (Option String) :=
  match (pairs.filter (·.1 = name)).map (·.2) with
  | [] => some none
  | [value] => some (some value)
  | _ => none

/-- Reads a query; one with a name given twice, or with an event that is no identifier, cannot
be read. -/
def ofQuery? (query : List Char) : Option Listing := do
  let pairs := Text.formPairs query
  let event ← single? "event_id" pairs
  let ids ← single? "ids" pairs
  match event with
  | none => return ⟨none, ids⟩
  | some text => return ⟨some (← Uuid.ofText? text), ids⟩

/-- The pieces of a list of identifiers, without blanks around them; blank pieces do not
count. -/
def idPieces (list : String) : List (List Char) :=
  ((Text.pieces ',' list.toList).map Text.trimChars).filter (· ≠ [])

def readIds : List (List Char) → Except Invalid (List Uuid)
  | [] => .ok []
  | piece :: rest =>
    match Uuid.ofChars? piece with
    | some id => (readIds rest).map (id :: ·)
    | none => .error (.noTicketClassId (String.ofList piece))

def filter (l : Listing) : Except Invalid TicketClass.Filter := do
  let ids ← readIds ((l.ids.map idPieces).getD [])
  if l.event.isNone && ids.isEmpty then throw .filterMissing
  return ⟨l.event, ids⟩

end Listing

end BoxOffice.Http
