import BoxOffice.Instant
import BoxOffice.Line

/-!
Events: what is told to others about reservations after it has happened. An event names the
reservations and sums their quantities for each class.
-/

namespace BoxOffice

inductive Event
  | reserved (order : Uuid) (reservations : List Uuid) (quantities : Lines) (expiresAt : Instant)
  | confirmed (order : Uuid) (reservations : List Uuid) (quantities : Lines) (time : Instant)
  | released (order : Uuid) (reservations : List Uuid) (quantities : Lines) (time : Instant)
  | expired (reservations : List Uuid) (quantities : Lines) (time : Instant)
  deriving DecidableEq

namespace Event

def name : Event → String
  | .reserved .. => "reservation.reserved"
  | .confirmed .. => "reservation.confirmed"
  | .released .. => "reservation.cancelled"
  | .expired .. => "reservation.expired"

def reservations : Event → List Uuid
  | .reserved _ ids _ _ | .confirmed _ ids _ _ | .released _ ids _ _ | .expired ids _ _ => ids

def quantities : Event → Lines
  | .reserved _ _ lines _ | .confirmed _ _ lines _ | .released _ _ lines _ | .expired _ lines _ =>
    lines

structure PublishFailure where
  event : String
  reason : String
  deriving DecidableEq

def PublishFailure.message (f : PublishFailure) : String :=
  "failed to publish " ++ f.event ++ ": " ++ f.reason

end Event

/-- Keeps every event that it is given, oldest first, and then may fail. -/
structure Publisher where
  fails : Bool
  published : List Event

namespace Publisher

def publish (p : Publisher) (e : Event) : Except Event.PublishFailure Unit × Publisher :=
  (if p.fails then .error ⟨e.name, "publisher is down"⟩ else .ok (),
    { p with published := p.published ++ [e] })

end Publisher

end BoxOffice
