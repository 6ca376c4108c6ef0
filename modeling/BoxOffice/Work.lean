import BoxOffice.Operation

/-!
Work in place. A store that is written to at once has no older version to fall back on: a booking
that is refused half-way leaves what it has written so far. Here the bookings are set out in this
way, step by step in a transaction, and it is left to the transaction to put the store back.
-/

namespace BoxOffice

/-- What is at hand while a booking is made. -/
structure Workplace where
  transaction : Store.Transaction
  ids : IdSupply

/-- Something to be done in a transaction. A refusal ends it, and does not undo what was done. -/
abbrev Work := ExceptT Refusal (StateM Workplace)

namespace Work

variable {α : Type}

def write (step : Store → Except Refusal (α × Store)) : Work α := fun w =>
  match step w.transaction.store with
  | .ok (a, s) => (.ok a, { w with transaction := { w.transaction with store := s } })
  | .error refusal => (.error refusal, w)

def look (answer : Store → Except Refusal α) : Work α :=
  write fun s => (answer s).map fun a => (a, s)

def change (step : Store → Except Refusal Store) : Work Unit :=
  write fun s => (step s).map fun s => ((), s)

def draw : Work Uuid := fun w => (.ok w.ids.draw.1, { w with ids := w.ids.draw.2 })

def commit : Work Unit := fun w => (.ok (), { w with transaction := w.transaction.commit })

def update (id : Uuid) (changes : TicketClass.Changes) (now : Instant) : Work TicketClass := do
  let c ← look (·.ticketClass id)
  let c ← (changes.apply c now : Except Refusal TicketClass)
  change fun s => s.updateTicketClass c
  commit
  return c

def claimLine (line : Line) (now : Instant) : Work Unit := do
  let c ← look (·.ticketClass line.ticketClass)
  if !c.isOnSale now then throw (.invalid (.notOnSale line.ticketClass))
  change (·.claim c line.quantity)

def reserveLines (order : Uuid) (expiresAt now : Instant) : List Line → Work (List Reservation)
  | [] => return []
  | line :: lines => do
    claimLine line now
    let id ← draw
    let row := Reservation.hold id order line expiresAt now
    change (·.insertReservation row)
    return row :: (← reserveLines order expiresAt now lines)

def reserve (order : Uuid) (lines : Lines) (expiresAt now : Instant) : Work (List Reservation) := do
  let rows ← reserveLines order expiresAt now lines.rows
  commit
  return rows

def changeAll (step : Store → Line → Except Refusal Store) : List Line → Work Unit
  | [] => return ()
  | line :: lines => do
    change (step · line)
    changeAll step lines

def transition (ids : List Uuid) (status : Reservation.Status) (now : Instant) : Work Unit := do
  let marked ← write fun s => .ok (s.mark status now ids)
  if marked ≠ ids.length then throw (.obstructed (.markedTooFew ids.length status marked))

def resolve (how : Store.Resolution) (order : Uuid) (now : Instant) :
    Work (List Reservation × Lines) := do
  let rows ← look fun s => .ok (s.reservationsOf order)
  if rows.isEmpty then throw (.noOrder order)
  if let some obstacle := rows.findSome? (how.obstacle? now) then throw (.obstructed obstacle)
  let lines := Reservation.lines rows
  changeAll (Store.resolveLine how) lines.rows
  transition (rows.map (·.id)) how.status now
  commit
  return (rows.map (·.marked how.status now), lines)

def expireRows (rows : List Reservation) (now : Instant) : Work (List Uuid × Lines) := do
  let lines := Reservation.lines rows
  changeAll Store.giveBackLine lines.rows
  transition (rows.map (·.id)) .expired now
  commit
  return (rows.map (·.id), lines)

/-- Expires overdue reservations. When there are none, the transaction is given up. -/
def expire (limit : Int) (now : Instant) : Work (List Uuid × Lines) := do
  let rows ← look fun s => .ok (s.firstOverdue now limit)
  if rows.isEmpty then return ([], .empty) else expireRows rows now

def purge (order : Uuid) : Work Nat := do
  let rows ← look fun s => .ok (s.reservationsOf order)
  if rows.isEmpty then throw (.noOrder order)
  if let some r := rows.find? (·.isActive) then throw (.obstructed (.stillActive r.id))
  let deleted ← write fun s => .ok (s.deleteReservationsOf order)
  commit
  return deleted

def carryOut (work : Work α) (s : Store) (ids : IdSupply) : Except Refusal α × Store × IdSupply :=
  let (result, w) := work ⟨.start s, ids⟩
  (result, w.transaction.finish, w.ids)

end Work

namespace Desk

/-- A service that does work in a transaction, and tells of it if there is something to tell. -/
def carryOut {α : Type} (d : Desk) (work : Work α) (told : α → Option Event) :
    Except Refusal α × Desk :=
  match d.store with
  | none => (.error .noStore, d)
  | some s =>
    match work.carryOut s d.ids with
    | (.error refusal, s, ids) => (.error refusal, { d with store := some s, ids := ids })
    | (.ok a, s, ids) =>
      let d := { d with store := some s, ids := ids }
      (.ok a, ((told a).map d.publish).getD d)

def enactUpdate (d : Desk) (id : Uuid) (changes : TicketClass.Changes) :
    Except Refusal TicketClass × Desk :=
  match changes.validate with
  | .error reason => d.refuse reason
  | .ok () => d.carryOut (Work.update id changes d.now) fun _ => none

def enactReserve (d : Desk) (order : Uuid) (items : List Line) (expiresAt : Instant) :
    Except Refusal (List Reservation) × Desk :=
  match Lines.ofOrder order items with
  | .error reason => d.refuse reason
  | .ok lines =>
    if expiresAt ≤ d.now then d.refuse .deadlineNotAhead
    else
      d.carryOut (Work.reserve order lines expiresAt d.now) fun rows =>
        some (.reserved order (rows.map (·.id)) lines expiresAt)

def enactResolve (d : Desk) (how : Store.Resolution) (order : Uuid)
    (told : List Uuid → Lines → Event) : Except Refusal (List Reservation × Lines) × Desk :=
  d.carryOut (Work.resolve how order d.now) fun (rows, lines) => some (told (rows.map (·.id)) lines)

def enactExpire (d : Desk) (size : Int) : Except Refusal (List Uuid × Lines) × Desk :=
  d.carryOut (Work.expire (sweepLimit size) d.now) fun (ids, lines) =>
    if ids.isEmpty then none else some (.expired ids lines d.now)

def enactPurge (d : Desk) (order : Uuid) : Except Refusal Nat × Desk :=
  d.carryOut (Work.purge order) fun _ => none

end Desk

namespace Operation

/-- An operation carried out in place. To set up or to delete a class is a single write to the
store, and what only looks needs no transaction. -/
def enact (d : Desk) : Operation → Except Refusal Answer × Desk
  | .update id changes => answered (.ticketClass ∘ some) (d.enactUpdate id changes)
  | .reserve order items expiresAt =>
    answered .reservations (d.enactReserve order items expiresAt)
  | .confirm order =>
    answered (fun resolved => .reservations resolved.1)
      (d.enactResolve .confirm order fun ids lines => .confirmed order ids lines d.now)
  | .release order =>
    answered (fun resolved => .reservations resolved.1)
      (d.enactResolve .release order fun ids lines => .released order ids lines d.now)
  | .purge order => answered .count (d.enactPurge order)
  | .expire size => answered (fun expired => .count expired.1.length) (d.enactExpire size)
  | .sweep size =>
    match d.enactExpire size with
    | (.ok (ids, _), d) => (.ok (.count ids.length), d)
    | (.error _, d) => (.ok (.count 0), d)
  | op => op.run d

end Operation

end BoxOffice
