import BoxOffice.Instant
import BoxOffice.Line
import BoxOffice.UnknownStatus

/-!
Reservations: lines of an order that hold tickets of a class until a deadline. A reservation
starts active. Once it is confirmed, cancelled or expired it stays so.
-/

namespace BoxOffice

inductive Reservation.Status
  | active
  | confirmed
  | cancelled
  | expired
  deriving DecidableEq

namespace Reservation.Status

def all : List Status := [.active, .confirmed, .cancelled, .expired]

def name : Status → String
  | .active => "ACTIVE"
  | .confirmed => "CONFIRMED"
  | .cancelled => "CANCELLED"
  | .expired => "EXPIRED"

def ofName? (value : String) : Except UnknownStatus Status :=
  findNamed "reservation" all name value

/-- A status that is never left. -/
def isFinal (s : Status) : Bool := s ≠ .active

def canBecome (s next : Status) : Bool := s = .active && next.isFinal

def successors (s : Status) : List Status := all.filter s.canBecome

end Reservation.Status

structure Reservation where
  id : Uuid
  order : Uuid
  ticketClass : Uuid
  quantity : Quantity
  expiresAt : Instant
  status : Reservation.Status
  createdAt : Instant
  updatedAt : Instant
  deriving DecidableEq

namespace Reservation

instance : Keyed Reservation := ⟨Reservation.id⟩

/-- The reservation that holds a line of an order from now on. -/
def hold (id order : Uuid) (line : Line) (expiresAt now : Instant) : Reservation where
  id := id
  order := order
  ticketClass := line.ticketClass
  quantity := line.quantity
  expiresAt := expiresAt
  status := .active
  createdAt := now
  updatedAt := now

def isActive (r : Reservation) : Bool := r.status = .active

/-- The deadline itself is still in time. -/
def isPastDeadline (r : Reservation) (now : Instant) : Bool := r.expiresAt < now

/-- The reservation with another status from now on. -/
def marked (r : Reservation) (status : Status) (now : Instant) : Reservation :=
  { r with status := status, updatedAt := now }

def line (r : Reservation) : Line := ⟨r.ticketClass, r.quantity⟩

def lines (rows : List Reservation) : Lines := rows.foldl (fun lines r => lines.add r.line) .empty

end Reservation

end BoxOffice
