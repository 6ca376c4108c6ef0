import BoxOffice.Instant.Text
import BoxOffice.Reservation

/-!
Why a request is refused. Each cause carries what its message mentions.
-/

namespace BoxOffice

/-- What is wrong with the contents of a request. -/
inductive Invalid
  | eventMissing
  | nameMissing
  | nameBlank
  | nameTooLong
  | priceNegative
  | priceTooLarge
  | priceTooFine
  | currencyMissing
  | currencyBlank
  | currencyNoCode (code : String)
  | totalNotPositive
  | windowInverted
  | orderMissing
  | itemsMissing
  | ticketClassMissing
  | quantityNotPositive (ticketClass : Uuid)
  | quantityTooLarge
  | deadlineNotAhead
  | notOnSale (ticketClass : Uuid)
  | filterMissing
  | noTicketClassId (piece : String)
  deriving DecidableEq

/-- What in the present state stands against a request. -/
inductive Obstacle
  | totalBelowTaken (total taken : Quantity)
  | totalBelowCounters (ticketClass : Uuid) (total : Quantity)
  | statusFinal (reservation : Uuid) (status : Reservation.Status)
  | deadlinePassed (reservation : Uuid) (deadline : Instant)
  | stillActive (reservation : Uuid)
  | reservedTooFew (ticketClass : Uuid) (quantity : Quantity)
  | markedTooFew (expected : Nat) (status : Reservation.Status) (marked : Nat)
  | stillReferenced
  deriving DecidableEq

/-- What must not occur twice: the name of a class within its event, and a class within an
order. -/
inductive UniqueKey
  | className
  | orderLine
  deriving DecidableEq

inductive Refusal
  | invalid (reason : Invalid)
  | noTicketClass (id : Uuid)
  | noOrder (id : Uuid)
  | insufficientStock (ticketClass : Uuid) (requested available : Quantity)
  | obstructed (obstacle : Obstacle)
  | duplicate (key : UniqueKey)
  /-- The store cannot be reached. -/
  | noStore
  deriving DecidableEq

def Invalid.message : Invalid → String
  | .eventMissing => "event_id is required"
  | .nameMissing => "name is required"
  | .nameBlank => "name must not be blank"
  | .nameTooLong => "name must be at most 255 characters"
  | .priceNegative => "price must not be negative"
  | .priceTooLarge => "price is too large"
  | .priceTooFine => "price must have at most two decimal places"
  | .currencyMissing => "currency is required"
  | .currencyBlank => "currency must not be blank"
  | .currencyNoCode code => "currency '" ++ code ++ "' must be a three-letter ISO 4217 code"
  | .totalNotPositive => "total must be positive"
  | .windowInverted => "sale_start_at must not be after sale_end_at"
  | .orderMissing => "order_id is required"
  | .itemsMissing => "items must not be empty"
  | .ticketClassMissing => "ticket_class_id is required"
  | .quantityNotPositive id => "qty for ticket class '" ++ id.text ++ "' must be positive"
  | .quantityTooLarge => "qty is too large"
  | .deadlineNotAhead => "expires_at must be in the future"
  | .notOnSale id => "ticket class '" ++ id.text ++ "' is not on sale"
  | .filterMissing => "either event_id or ids is required"
  | .noTicketClassId piece => "'" ++ piece ++ "' is not a valid ticket class id"

def Obstacle.message : Obstacle → String
  | .totalBelowTaken total taken =>
    "total " ++ total.text ++ " is below reserved + sold (" ++ taken.text ++ ")"
  | .totalBelowCounters id total =>
    "ticket class '" ++ id.text ++ "' cannot be updated to total " ++ total.text
  | .statusFinal id status => "reservation '" ++ id.text ++ "' is " ++ status.name
  | .deadlinePassed id deadline =>
    "reservation '" ++ id.text ++ "' expired at " ++ deadline.displayText
  | .stillActive id => "reservation '" ++ id.text ++ "' is still ACTIVE"
  | .reservedTooFew id quantity =>
    "ticket class '" ++ id.text ++ "' has fewer than " ++ quantity.text ++ " reserved tickets"
  | .markedTooFew expected status marked =>
    "expected to mark " ++ Text.decimalText expected ++ " reservations " ++ status.name ++
      ", marked " ++ Text.decimalText marked
  | .stillReferenced => "row is still referenced by reservations"

def UniqueKey.name : UniqueKey → String
  | .className => "ticket_classes_event_id_name_key"
  | .orderLine => "reservations_order_id_ticket_class_id_key"

end BoxOffice
