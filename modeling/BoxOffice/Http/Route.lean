import BoxOffice.Text.Blank

/-!
Routes: the addresses that are served and the methods each of them knows. The segments of a
path are compared as they are written; a segment that holds an identifier is kept as it is
written and is not empty when it is the last.
-/

namespace BoxOffice.Http

inductive Method
  | get
  | post
  | patch
  | delete
  deriving DecidableEq

/-- Requests for the head of a response are served as those for the whole. -/
def Method.ofName? : String → Option Method
  | "GET" | "HEAD" => some .get
  | "POST" => some .post
  | "PATCH" => some .patch
  | "DELETE" => some .delete
  | _ => none

def Method.listed : Method → String
  | .get => "GET,HEAD"
  | .post => "POST"
  | .patch => "PATCH"
  | .delete => "DELETE"

inductive Route
  | health
  | ticketClasses
  | ticketClass (id : List Char)
  | availability (id : List Char)
  | check
  | reservations
  | orderReservations (order : List Char)
  | confirmation (order : List Char)
  | withdrawal (order : List Char)
  deriving DecidableEq

namespace Route

def ofPath? (path : List Char) : Option Route :=
  match (Text.pieces '/' path).map String.ofList with
  | ["", "health"] => some .health
  | ["", "ticket-classes"] => some .ticketClasses
  | ["", "ticket-classes", id] => if id = "" then none else some (.ticketClass id.toList)
  | ["", "ticket-classes", id, "availability"] => some (.availability id.toList)
  | ["", "availability", "check"] => some .check
  | ["", "reservations"] => some .reservations
  | ["", "orders", order, "reservations"] => some (.orderReservations order.toList)
  | ["", "orders", order, "confirm"] => some (.confirmation order.toList)
  | ["", "orders", order, "release"] => some (.withdrawal order.toList)
  | _ => none

def methods : Route → List Method
  | .health => [.get]
  | .ticketClasses => [.post, .get]
  | .ticketClass _ => [.get, .patch, .delete]
  | .availability _ => [.get]
  | .check => [.post]
  | .reservations => [.post]
  | .orderReservations _ => [.get, .delete]
  | .confirmation _ => [.post]
  | .withdrawal _ => [.post]

def allow (r : Route) : String × String :=
  ("allow", String.intercalate "," (r.methods.map Method.listed))

end Route

end BoxOffice.Http
