import BoxOffice.Json.Value
import BoxOffice.Refusal

/-!
Faults: how refusals, and what a database reports, are told to clients. A fault has a code, a
status and a body. What is known of the two kinds that are not the client's concern is kept to
the house.
-/

namespace BoxOffice

open Json

inductive Fault
  | validation (message : String)
  | notFound (message : String)
  | insufficientStock (ticketClass : Uuid) (requested available : Quantity)
  | invalidState (message : String)
  | alreadyExists (message : String)
  | database
  | internal (message : String)
  deriving DecidableEq

namespace Fault

def message : Fault → String
  | .validation message => "Validation error: " ++ message
  | .notFound message => "Resource not found: " ++ message
  | .insufficientStock id requested available =>
    "Insufficient stock for ticket class " ++ id.text ++ ": requested " ++ requested.text ++
      ", available " ++ available.text
  | .invalidState message => "Invalid state: " ++ message
  | .alreadyExists message => "Already exists: " ++ message
  | .database => "Database error"
  | .internal _ => "Internal server error"

def code : Fault → String
  | .validation _ => "VALIDATION_ERROR"
  | .notFound _ => "NOT_FOUND"
  | .insufficientStock .. => "INSUFFICIENT_STOCK"
  | .invalidState _ => "INVALID_STATE"
  | .alreadyExists _ => "ALREADY_EXISTS"
  | .database => "DATABASE_ERROR"
  | .internal _ => "INTERNAL_SERVER_ERROR"

def status : Fault → Nat
  | .validation _ => 400
  | .notFound _ => 404
  | .insufficientStock .. | .invalidState _ | .alreadyExists _ => 409
  | .database | .internal _ => 500

/-- An outcome that clients have to expect, as opposed to an incident. -/
def isExpected : Fault → Bool
  | .database | .internal _ => false
  | _ => true

def publicMessage : Fault → String
  | .validation message | .notFound message | .invalidState message | .alreadyExists message =>
    message
  | .insufficientStock .. => "Insufficient stock"
  | .database => "A database error occurred"
  | .internal _ => "An internal error occurred"

def details : Fault → Value
  | .insufficientStock id requested available =>
    .object
      [("ticket_class_id", .text id.text), ("requested", .number requested.toInt),
        ("available", .number available.toInt)]
  | _ => .null

def body (f : Fault) : Value :=
  .object
    [("success", .bool false),
      ("error", .object
        [("code", .text f.code), ("message", .text f.publicMessage), ("details", f.details)])]

def missing (what id : String) : Fault := .notFound (what ++ " '" ++ id ++ "' was not found")

end Fault

def Refusal.fault : Refusal → Fault
  | .invalid reason => .validation reason.message
  | .noTicketClass id => .missing "ticket class" id.text
  | .noOrder id => .missing "order" id.text
  | .insufficientStock id requested available => .insufficientStock id requested available
  | .obstructed obstacle => .invalidState obstacle.message
  | .duplicate key => .alreadyExists key.name
  | .noStore => .database

/-- What a database reports. A constraint may come without its name. -/
inductive DatabaseReport
  | uniqueViolation (constraint : Option String)
  | foreignKeyViolation
  | otherViolation
  | rowNotFound
  | poolTimedOut
  | poolClosed
  deriving DecidableEq

def DatabaseReport.fault : DatabaseReport → Fault
  | .uniqueViolation constraint => .alreadyExists (constraint.getD "unique constraint")
  | .foreignKeyViolation => .invalidState Obstacle.stillReferenced.message
  | _ => .database

end BoxOffice
