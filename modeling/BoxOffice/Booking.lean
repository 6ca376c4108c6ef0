import BoxOffice.IdSupply
import BoxOffice.Store.Capacity

/-!
Booking: how the orders of a store are reserved, resolved, expired and purged. Each function
gives either a refusal or a result with the store after it, so a step that fails half-way
leaves nothing behind. Identifiers that were drawn stay drawn in any case.
-/

namespace BoxOffice

/-- The wanted lines of an order, merged. The first line that breaks a rule is refused. -/
def Lines.ofRequest (lines : Lines) : List Line → Except Invalid Lines
  | [] => .ok lines
  | line :: rest =>
    if line.ticketClass.isNil then .error .ticketClassMissing
    else if line.quantity ≤ 0 then .error (.quantityNotPositive line.ticketClass)
    else
      match lines.add? line with
      | some lines => ofRequest lines rest
      | none => .error .quantityTooLarge

def Lines.ofOrder (order : Uuid) (items : List Line) : Except Invalid Lines :=
  if order.isNil then .error .orderMissing
  else if items.isEmpty then .error .itemsMissing
  else Lines.ofRequest .empty items

namespace Store

def claimLine (s : Store) (line : Line) (now : Instant) : Except Refusal Store := do
  let c ← s.ticketClass line.ticketClass
  if c.isOnSale now then s.claim c line.quantity
  else throw (.invalid (.notOnSale line.ticketClass))

def reserveLines (order : Uuid) (expiresAt now : Instant) :
    List Line → Store → IdSupply → Except Refusal (List Reservation × Store) × IdSupply
  | [], s, ids => (.ok ([], s), ids)
  | line :: lines, s, ids =>
    match s.claimLine line now with
    | .error refusal => (.error refusal, ids)
    | .ok s =>
      let (id, ids) := ids.draw
      let row := Reservation.hold id order line expiresAt now
      match s.insertReservation row with
      | .error refusal => (.error refusal, ids)
      | .ok s =>
        match reserveLines order expiresAt now lines s ids with
        | (.error refusal, ids) => (.error refusal, ids)
        | (.ok (rows, s), ids) => (.ok (row :: rows, s), ids)

/-- Reserves every line of an order, in the order of the classes, or none. -/
def reserve (s : Store) (ids : IdSupply) (order : Uuid) (lines : Lines)
    (expiresAt now : Instant) : Except Refusal (List Reservation × Store) × IdSupply :=
  reserveLines order expiresAt now lines.rows s ids

def transition (s : Store) (ids : List Uuid) (status : Reservation.Status) (now : Instant) :
    Except Refusal Store :=
  let (count, s) := s.mark status now ids
  if count = ids.length then .ok s
  else .error (.obstructed (.markedTooFew ids.length status count))

def giveBackLine (s : Store) (line : Line) : Except Refusal Store :=
  s.giveBack line.ticketClass line.quantity

def settleLine (s : Store) (line : Line) : Except Refusal Store :=
  s.settle line.ticketClass line.quantity

/-- How an order is resolved: its reservations are confirmed, or they are released. -/
inductive Resolution
  | confirm
  | release
  deriving DecidableEq

def Resolution.status : Resolution → Reservation.Status
  | .confirm => .confirmed
  | .release => .cancelled

/-- What stands against resolving a reservation: it is not active, or it is to be confirmed and
its deadline has passed. -/
def Resolution.obstacle? (how : Resolution) (now : Instant) (r : Reservation) : Option Obstacle :=
  if !r.status.canBecome how.status then some (.statusFinal r.id r.status)
  else if how = .confirm ∧ r.isPastDeadline now then some (.deadlinePassed r.id r.expiresAt)
  else none

def resolveLine (how : Resolution) (s : Store) (line : Line) : Except Refusal Store :=
  match how with
  | .confirm => s.settleLine line
  | .release => s.giveBackLine line

def resolve (s : Store) (how : Resolution) (order : Uuid) (now : Instant) :
    Except Refusal ((List Reservation × Lines) × Store) := do
  let rows := s.reservationsOf order
  if rows.isEmpty then throw (.noOrder order)
  if let some obstacle := rows.findSome? (how.obstacle? now) then throw (.obstructed obstacle)
  let lines := Reservation.lines rows
  let s ← lines.rows.foldlM (resolveLine how) s
  let s ← s.transition (rows.map (·.id)) how.status now
  return ((rows.map (·.marked how.status now), lines), s)

def expire (s : Store) (limit : Int) (now : Instant) :
    Except Refusal ((List Uuid × Lines) × Store) := do
  let rows := s.firstOverdue now limit
  let lines := Reservation.lines rows
  let s ← lines.rows.foldlM giveBackLine s
  let s ← s.transition (rows.map (·.id)) .expired now
  return ((rows.map (·.id), lines), s)

/-- Deletes the reservations of an order, none of which may be active, and counts them. -/
def purge (s : Store) (order : Uuid) : Except Refusal (Nat × Store) :=
  let rows := s.reservationsOf order
  if rows.isEmpty then .error (.noOrder order)
  else
    match rows.find? (·.isActive) with
    | some r => .error (.obstructed (.stillActive r.id))
    | none => .ok (s.deleteReservationsOf order)

end Store

/-- How many reservations one sweep expires: the size asked for, unless it is out of bounds. -/
def sweepLimit (size : Int) : Int := if 1 ≤ size ∧ size ≤ 1000 then size else 500

end BoxOffice
