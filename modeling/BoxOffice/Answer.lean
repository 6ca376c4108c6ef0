import BoxOffice.Reservation
import BoxOffice.TicketClass

/-!
What a service or a step of a transaction answers when it does not refuse.
-/

namespace BoxOffice

inductive Answer
  | done
  | flag (b : Bool)
  | count (n : Nat)
  | quantity (q : Quantity)
  | moment (t : Instant)
  | ticketClass (found : Option TicketClass)
  | ticketClasses (rows : List TicketClass)
  | reservations (rows : List Reservation)
  deriving DecidableEq

end BoxOffice
