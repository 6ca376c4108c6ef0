import BoxOffice.Refusal
import BoxOffice.TicketClass

/-!
The store: ticket classes and reservations, each kept by its identifier. No two classes of one
event share a name, no two reservations of one order are for the same class, and a class with
reservations is not deleted. Every step that could break this is refused and then changes
nothing.
-/

namespace BoxOffice

structure Store where
  ticketClasses : Table TicketClass
  reservations : Table Reservation
  deriving DecidableEq

namespace Store

def empty : Store := ⟨.empty, .empty⟩

def ticketClass? (s : Store) (id : Uuid) : Option TicketClass := s.ticketClasses.find? id

/-- The class with an identifier, which must exist. -/
def ticketClass (s : Store) (id : Uuid) : Except Refusal TicketClass :=
  match s.ticketClass? id with
  | some c => .ok c
  | none => .error (.noTicketClass id)

def putTicketClass (s : Store) (c : TicketClass) : Store :=
  { s with ticketClasses := s.ticketClasses.insert c }

def putReservation (s : Store) (r : Reservation) : Store :=
  { s with reservations := s.reservations.insert r }

def nameIsTaken (s : Store) (c : TicketClass) : Bool :=
  s.ticketClasses.rows.any fun other =>
    other.id ≠ c.id && other.event = c.event && other.name = c.name

def checkName (s : Store) (c : TicketClass) : Except Refusal Unit :=
  if s.nameIsTaken c then .error (.duplicate .className) else .ok ()

/-- Adds a class. One with its identifier is replaced. -/
def insertTicketClass (s : Store) (c : TicketClass) : Except Refusal Store := do
  s.checkName c
  return s.putTicketClass c

/-- Deletes a class to which no reservation refers, and tells whether there was one. -/
def deleteTicketClass (s : Store) (id : Uuid) : Except Refusal (Bool × Store) :=
  if s.reservations.rows.any (·.ticketClass = id) then .error (.obstructed .stillReferenced)
  else
    .ok ((s.ticketClass? id).isSome, { s with ticketClasses := s.ticketClasses.erase id })

/-- Writes the fields of a class that are not counters, if its counters allow the total. -/
def updateTicketClass (s : Store) (c : TicketClass) : Except Refusal Store := do
  s.checkName c
  let current ← s.ticketClass c.id
  if c.total < current.reserved + current.sold then
    throw (.obstructed (.totalBelowCounters c.id c.total))
  return s.putTicketClass
    { current with
      name := c.name
      price := c.price
      currency := c.currency
      total := c.total
      saleStart := c.saleStart
      saleEnd := c.saleEnd
      status := c.status
      updatedAt := c.updatedAt }

def hasLine (s : Store) (order ticketClass : Uuid) : Bool :=
  s.reservations.rows.any fun r => r.order = order && r.ticketClass = ticketClass

/-- Adds a reservation of a class that exists. One with its identifier is replaced. -/
def insertReservation (s : Store) (r : Reservation) : Except Refusal Store := do
  let _ ← s.ticketClass r.ticketClass
  if s.hasLine r.order r.ticketClass then throw (.duplicate .orderLine)
  return s.putReservation r

def reservationsOf (s : Store) (order : Uuid) : List Reservation :=
  s.reservations.rows.filter (·.order = order)

def isOverdue (now : Instant) (r : Reservation) : Bool := r.isActive && r.isPastDeadline now

/-- Reservations are taken up by deadline, and by identifier within one deadline. -/
def expiresBefore (a b : Reservation) : Bool :=
  a.expiresAt < b.expiresAt || (a.expiresAt = b.expiresAt && a.id ≤ b.id)

def overdue (s : Store) (now : Instant) : List Reservation :=
  (s.reservations.rows.filter (isOverdue now)).mergeSort expiresBefore

/-- The first overdue reservations; a limit below zero admits none. -/
def firstOverdue (s : Store) (now : Instant) (limit : Int) : List Reservation :=
  (s.overdue now).take limit.toNat

def mark (s : Store) (status : Reservation.Status) (now : Instant) : List Uuid → Nat × Store
  | [] => (0, s)
  | id :: ids =>
    match s.reservations.find? id with
    | some r =>
      if r.status.canBecome status then
        let (count, s) := mark (s.putReservation (r.marked status now)) status now ids
        (count + 1, s)
      else mark s status now ids
    | none => mark s status now ids

def deleteReservationsOf (s : Store) (order : Uuid) : Nat × Store :=
  ((s.reservationsOf order).length,
    { s with reservations := s.reservations.filter (·.order ≠ order) })

/-- Rows in the order in which they were created, and of identifiers within one moment. -/
def createdBefore (aTime : Instant) (aId : Uuid) (bTime : Instant) (bId : Uuid) : Bool :=
  aTime < bTime || (aTime = bTime && aId ≤ bId)

def list (s : Store) (f : TicketClass.Filter) : List TicketClass :=
  (s.ticketClasses.rows.filter f.admits).mergeSort fun a b =>
    createdBefore a.createdAt a.id b.createdAt b.id

def history (s : Store) (order : Uuid) : List Reservation :=
  (s.reservationsOf order).mergeSort fun a b => createdBefore a.createdAt a.id b.createdAt b.id

end Store

end BoxOffice
