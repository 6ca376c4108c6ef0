import BoxOffice.Availability
import BoxOffice.Booking
import BoxOffice.Event
import BoxOffice.TicketClass.Changes
import BoxOffice.TicketClass.Draft

/-!
The desk: what serves requests. It has a store, unless that cannot be reached, a clock that is
only moved by hand, a supply of identifiers and a publisher of events.

Every service gives its result and the desk after it. What is wrong with a request by itself is
found before the store is asked for. Only a result that is no refusal changes the store, and
the event that tells of it is published after that; whether publishing fails makes no
difference.
-/

namespace BoxOffice

structure Desk where
  /-- Absent when the store cannot be reached. -/
  store : Option Store
  now : Instant
  ids : IdSupply
  publisher : Publisher

namespace Desk

def reach (d : Desk) : Except Refusal Store :=
  match d.store with
  | some s => .ok s
  | none => .error .noStore

def look {α : Type} (d : Desk) (answer : Store → Except Refusal α) : Except Refusal α × Desk :=
  (d.reach >>= answer, d)

def change {α : Type} (d : Desk) (answer : Store → Except Refusal (α × Store)) :
    Except Refusal α × Desk :=
  match d.reach >>= answer with
  | .ok (a, s) => (.ok a, { d with store := some s })
  | .error refusal => (.error refusal, d)

def publish (d : Desk) (e : Event) : Desk :=
  { d with publisher := (d.publisher.publish e).2 }

/-- A service that is refused before the store is asked for. -/
def refuse {α : Type} (d : Desk) (reason : Invalid) : Except Refusal α × Desk :=
  (.error (.invalid reason), d)

def create (d : Desk) (draft : TicketClass.Draft) : Except Refusal TicketClass × Desk :=
  match draft.validate with
  | .error reason => d.refuse reason
  | .ok () =>
    let (id, ids) := d.ids.draw
    let c := draft.ticketClass id d.now
    { d with ids := ids }.change fun s => (s.insertTicketClass c).map fun s => (c, s)

def update (d : Desk) (id : Uuid) (changes : TicketClass.Changes) :
    Except Refusal TicketClass × Desk :=
  match changes.validate with
  | .error reason => d.refuse reason
  | .ok () =>
    d.change fun s => do
      let c ← s.ticketClass id
      let c ← changes.apply c d.now
      let s ← s.updateTicketClass c
      return (c, s)

def get (d : Desk) (id : Uuid) : Except Refusal TicketClass × Desk :=
  d.look fun s => s.ticketClass id

def list (d : Desk) (f : TicketClass.Filter) : Except Refusal (List TicketClass) × Desk :=
  d.look fun s => .ok (s.list f)

/-- Deletes a ticket class; deleting one that does not exist succeeds. -/
def delete (d : Desk) (id : Uuid) : Except Refusal Unit × Desk :=
  d.change fun s => (s.deleteTicketClass id).map fun (_, s) => ((), s)

def reserve (d : Desk) (order : Uuid) (items : List Line) (expiresAt : Instant) :
    Except Refusal (List Reservation) × Desk :=
  match Lines.ofOrder order items with
  | .error reason => d.refuse reason
  | .ok lines =>
    if expiresAt ≤ d.now then d.refuse .deadlineNotAhead
    else
      match d.store with
      | none => (.error .noStore, d)
      | some s =>
        match s.reserve d.ids order lines expiresAt d.now with
        | (.error refusal, ids) => (.error refusal, { d with ids := ids })
        | (.ok (rows, s), ids) =>
          let told := Event.reserved order (rows.map (·.id)) lines expiresAt
          (.ok rows, { d with store := some s, ids := ids }.publish told)

def resolve (d : Desk) (how : Store.Resolution) (order : Uuid)
    (told : List Uuid → Lines → Event) : Except Refusal (List Reservation) × Desk :=
  match d.change fun s => s.resolve how order d.now with
  | (.error refusal, d) => (.error refusal, d)
  | (.ok (rows, lines), d) => (.ok rows, d.publish (told (rows.map (·.id)) lines))

def confirm (d : Desk) (order : Uuid) : Except Refusal (List Reservation) × Desk :=
  d.resolve .confirm order fun ids lines => .confirmed order ids lines d.now

def release (d : Desk) (order : Uuid) : Except Refusal (List Reservation) × Desk :=
  d.resolve .release order fun ids lines => .released order ids lines d.now

def expire (d : Desk) (size : Int) : Except Refusal Nat × Desk :=
  match d.change fun s => s.expire (sweepLimit size) d.now with
  | (.error refusal, d) => (.error refusal, d)
  | (.ok ([], _), d) => (.ok 0, d)
  | (.ok (ids, lines), d) => (.ok ids.length, d.publish (.expired ids lines d.now))

def sweep (d : Desk) (size : Int) : Nat × Desk :=
  match d.expire size with
  | (.ok count, d) => (count, d)
  | (.error _, d) => (0, d)

def history (d : Desk) (order : Uuid) : Except Refusal (List Reservation) × Desk :=
  d.look fun s =>
    let rows := s.history order
    if rows.isEmpty then .error (.noOrder order) else .ok rows

def purge (d : Desk) (order : Uuid) : Except Refusal Nat × Desk := d.change fun s => s.purge order

def available (d : Desk) (id : Uuid) : Except Refusal Quantity × Desk :=
  d.look fun s => (s.ticketClass id).map (·.available)

/-- Whether all listed classes have the listed quantities available. Nothing is always
available, and more than any class can have never is. -/
def check (d : Desk) (items : List Line) : Except Refusal Bool × Desk :=
  match Wanted.ofItems .empty items with
  | .error reason => d.refuse reason
  | .ok .tooMany => (.ok false, d)
  | .ok (.lines lines) =>
    if lines.rows.isEmpty then (.ok true, d) else d.look fun s => .ok (s.canServe lines)

end Desk

end BoxOffice
