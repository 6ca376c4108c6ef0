import BoxOffice.Proofs.Addresses

/-!
Requests and the services that they call. The interface is set out service by service: by which
method and at which address a service is called, where in the request its arguments stand, and how
its answer is told. The plan for a request asks for exactly the operation that is called in this
way. All other requests have a reply of their own, which never tells of a failure of the server.
-/

namespace BoxOffice.Http

/-- A segment of a path that denotes an identifier. -/
structure Denotes (segment : List Char) (id : Uuid) : Prop where
  whole : '/' ∉ segment
  decoded : segmentId? segment = some id

def Request.Gets (r : Request) : Prop := r.method = "GET" ∨ r.method = "HEAD"

def success (message : String) (data : Json.Value) : Json.Value :=
  .object [("success", .bool true), ("data", data), ("message", .text message)]

def failure (code message : String) (details : Json.Value) : Json.Value :=
  .object
    [("success", .bool false),
      ("error", .object [("code", .text code), ("message", .text message), ("details", details)])]

/-- The operation that a request calls, and how its answer is told: by a status, a message and the
data. -/
inductive Request.Calls (r : Request) :
    Operation → Nat → String → (Json.Value → Json.Value) → Prop
  | create {draft : TicketClass.Draft} (method : r.method = "POST")
    (path : r.path = "/ticket-classes".toList) (body : r.read Wire.draft = .ok draft) :
    r.Calls (.create draft) 201 "Ticket class created" id
  | list {listing : Listing} {f : TicketClass.Filter} (method : r.Gets)
    (path : r.path = "/ticket-classes".toList)
    (query : Listing.ofQuery? r.query = some listing) (asked : listing.filter = .ok f) :
    r.Calls (.list f) 200 "Ticket classes retrieved" id
  | get {segment : List Char} {c : Uuid} (method : r.Gets)
    (path : r.path = "/ticket-classes/".toList ++ segment) (denotes : Denotes segment c) :
    r.Calls (.get c) 200 "Ticket class retrieved" id
  | update {segment : List Char} {c : Uuid} {changes : TicketClass.Changes}
    (method : r.method = "PATCH") (path : r.path = "/ticket-classes/".toList ++ segment)
    (denotes : Denotes segment c) (body : r.read Wire.changes = .ok changes) :
    r.Calls (.update c changes) 200 "Ticket class updated" id
  | delete {segment : List Char} {c : Uuid} (method : r.method = "DELETE")
    (path : r.path = "/ticket-classes/".toList ++ segment) (denotes : Denotes segment c) :
    r.Calls (.delete c) 200 "Ticket class deleted" id
  | available {segment : List Char} {c : Uuid} (method : r.Gets)
    (path : r.path = "/ticket-classes/".toList ++ segment ++ "/availability".toList)
    (denotes : Denotes segment c) :
    r.Calls (.available c) 200 "Availability retrieved" fun v =>
      .object [("ticket_class_id", Wire.uuid.write c), ("available", v)]
  | check {items : List Line} (method : r.method = "POST")
    (path : r.path = "/availability/check".toList) (body : r.read checkRequest = .ok items)
    (given : items ≠ []) :
    r.Calls (.check items) 200 "Availability checked" fun v => .object [("available", v)]
  | reserve {o : Wire.OrderRequest} (method : r.method = "POST")
    (path : r.path = "/reservations".toList) (body : r.read Wire.orderRequest = .ok o) :
    r.Calls (.reserve o.order o.items o.expiresAt) 201 "Tickets reserved" id
  | history {segment : List Char} {order : Uuid} (method : r.Gets)
    (path : r.path = "/orders/".toList ++ segment ++ "/reservations".toList)
    (denotes : Denotes segment order) :
    r.Calls (.history order) 200 "Reservations retrieved" id
  | purge {segment : List Char} {order : Uuid} (method : r.method = "DELETE")
    (path : r.path = "/orders/".toList ++ segment ++ "/reservations".toList)
    (denotes : Denotes segment order) :
    r.Calls (.purge order) 200 "Reservations deleted" fun v =>
      .object [("order_id", Wire.uuid.write order), ("deleted", v)]
  | confirm {segment : List Char} {order : Uuid} (method : r.method = "POST")
    (path : r.path = "/orders/".toList ++ segment ++ "/confirm".toList)
    (denotes : Denotes segment order) :
    r.Calls (.confirm order) 200 "Reservations confirmed" id
  | release {segment : List Char} {order : Uuid} (method : r.method = "POST")
    (path : r.path = "/orders/".toList ++ segment ++ "/release".toList)
    (denotes : Denotes segment order) :
    r.Calls (.release order) 200 "Reservations released" id

variable {r : Request}

/-! ### Methods and segments -/

theorem Method.name_of_ofName? {name : String} {method : Method}
    (known : ofName? name = some method) :
    match method with
    | .get => name = "GET" ∨ name = "HEAD"
    | .post => name = "POST"
    | .patch => name = "PATCH"
    | .delete => name = "DELETE" := by
  unfold ofName? at known
  split at known <;> cases known <;> simp

theorem Request.Gets.ofName?_eq (gets : r.Gets) : Method.ofName? r.method = some .get := by
  rcases gets with same | same <;> rw [same] <;> rfl

theorem Denotes.ne_nil {segment : List Char} {id : Uuid} (denotes : Denotes segment id) :
    segment ≠ [] := by
  rintro rfl
  have none : segmentId? [] = none := rfl
  rw [denotes.decoded] at none
  cases none

/-! ### Responses without an operation -/

/-- The responses for which no operation is asked: they are described by their bodies and do not
tell of a failure of the server, or they list the methods of a route. -/
inductive Response.Prompt : Response → Prop
  | ofBody {status : Nat} {body : Body} (fine : status < 500) : Prompt (.ofBody status body)
  | otherMethod (route : Route) : Prompt ((Response.ofBody 405 .empty).withHeaders [route.allow])

theorem Response.Prompt.status_lt {response : Response} (prompt : response.Prompt) :
    response.status < 500 := by
  cases prompt with
  | ofBody fine => exact fine
  | otherMethod => exact (by decide : 405 < 500)

namespace Plan

variable {α : Type} {codec : Json.Codec α} {segment : List Char} {op : Operation} {status : Nat}
  {message : String} {data : Json.Value → Json.Value}

/-! ### What is asked for -/

theorem ofBody_of_read {plan : α → Plan} {a : α} (body : r.read codec = .ok a) :
    ofBody r codec plan = plan a := by
  rw [ofBody, body]

theorem ofSegment_of_denotes {plan : Uuid → Plan} {i : Uuid} (denotes : Denotes segment i) :
    ofSegment segment plan = plan i := by
  rw [ofSegment, denotes.decoded]

theorem read_of_ofBody {plan : α → Plan}
    (asks : ofBody r codec plan = .ask op status message data) :
    ∃ a, r.read codec = .ok a ∧ plan a = .ask op status message data := by
  unfold ofBody at asks
  split at asks
  next a body => exact ⟨a, body, asks⟩
  next => cases asks

theorem denotes_of_ofSegment {plan : Uuid → Plan} (whole : '/' ∉ segment)
    (asks : ofSegment segment plan = .ask op status message data) :
    ∃ i, Denotes segment i ∧ plan i = .ask op status message data := by
  unfold ofSegment at asks
  split at asks
  next i decoded => exact ⟨i, ⟨whole, decoded⟩, asks⟩
  next => cases asks

theorem ofRequest_of_route {path : List Char} {route : Route} {method : Method}
    (known : Method.ofName? r.method = some method) (address : r.path = path)
    (addresses : route.Addresses path) : ofRequest r = ofRoute r route method := by
  rw [ofRequest, address, Route.ofPath?_eq_some_iff.2 addresses]
  simp only
  rw [known]

theorem route_of_ofRequest (asks : ofRequest r = .ask op status message data) :
    ∃ route method, route.Addresses r.path ∧ Method.ofName? r.method = some method ∧
      ofRoute r route method = .ask op status message data := by
  unfold ofRequest at asks
  split at asks
  next => cases asks
  next route found =>
    split at asks
    next method known => exact ⟨route, method, Route.ofPath?_eq_some_iff.1 found, known, asks⟩
    next => cases asks

theorem ofRequest_of_calls (calls : r.Calls op status message data) :
    ofRequest r = .ask op status message data := by
  have post (named : r.method = "POST") : Method.ofName? r.method = some .post := by
    rw [named]
    rfl
  have patch (named : r.method = "PATCH") : Method.ofName? r.method = some .patch := by
    rw [named]
    rfl
  have delete (named : r.method = "DELETE") : Method.ofName? r.method = some .delete := by
    rw [named]
    rfl
  cases calls with
  | create method path body =>
    rw [ofRequest_of_route (post method) path .ticketClasses]
    exact ofBody_of_read body
  | list method path query asked =>
    rw [ofRequest_of_route method.ofName?_eq path .ticketClasses]
    show list r = _
    simp only [list, query, asked]
  | get method path denotes =>
    rw [ofRequest_of_route method.ofName?_eq path (.ticketClass denotes.ne_nil denotes.whole)]
    exact ofSegment_of_denotes denotes
  | update method path denotes body =>
    rw [ofRequest_of_route (patch method) path (.ticketClass denotes.ne_nil denotes.whole)]
    exact (ofSegment_of_denotes denotes).trans (ofBody_of_read body)
  | delete method path denotes =>
    rw [ofRequest_of_route (delete method) path (.ticketClass denotes.ne_nil denotes.whole)]
    exact ofSegment_of_denotes denotes
  | available method path denotes =>
    rw [ofRequest_of_route method.ofName?_eq path (.availability denotes.whole)]
    exact ofSegment_of_denotes denotes
  | check method path body given =>
    rw [ofRequest_of_route (post method) path .check]
    refine (ofBody_of_read body).trans (if_neg ?_)
    simpa using given
  | reserve method path body =>
    rw [ofRequest_of_route (post method) path .reservations]
    exact ofBody_of_read body
  | history method path denotes =>
    rw [ofRequest_of_route method.ofName?_eq path (.orderReservations denotes.whole)]
    exact ofSegment_of_denotes denotes
  | purge method path denotes =>
    rw [ofRequest_of_route (delete method) path (.orderReservations denotes.whole)]
    exact ofSegment_of_denotes denotes
  | confirm method path denotes =>
    rw [ofRequest_of_route (post method) path (.confirmation denotes.whole)]
    exact ofSegment_of_denotes denotes
  | release method path denotes =>
    rw [ofRequest_of_route (post method) path (.withdrawal denotes.whole)]
    exact ofSegment_of_denotes denotes

theorem calls_of_ofRequest (asks : ofRequest r = .ask op status message data) :
    r.Calls op status message data := by
  obtain ⟨route, method, addresses, known, asks⟩ := route_of_ofRequest asks
  have named := Method.name_of_ofName? known
  generalize address : r.path = path at addresses
  -- One case for each address and method that the plan knows. In each of them the path is of the
  -- form that belongs to the route, and the method has the name that belongs to it.
  unfold ofRoute at asks
  split at asks
  case h_1 => cases asks
  case h_2 =>
    cases addresses
    obtain ⟨_, body, ⟨⟩⟩ := read_of_ofBody asks
    exact .create named address body
  case h_3 =>
    cases addresses
    unfold list at asks
    split at asks
    next => cases asks
    next query =>
      split at asks
      next asked =>
        cases asks
        exact .list named address query asked
      next => cases asks
  case h_4 =>
    cases addresses with | ticketClass _ whole
    obtain ⟨_, denotes, ⟨⟩⟩ := denotes_of_ofSegment whole asks
    exact .get named address denotes
  case h_5 =>
    cases addresses with | ticketClass _ whole
    obtain ⟨_, denotes, asks⟩ := denotes_of_ofSegment whole asks
    obtain ⟨_, body, ⟨⟩⟩ := read_of_ofBody asks
    exact .update named address denotes body
  case h_6 =>
    cases addresses with | ticketClass _ whole
    obtain ⟨_, denotes, ⟨⟩⟩ := denotes_of_ofSegment whole asks
    exact .delete named address denotes
  case h_7 =>
    cases addresses with | availability whole
    obtain ⟨_, denotes, ⟨⟩⟩ := denotes_of_ofSegment whole asks
    exact .available named address denotes
  case h_8 =>
    cases addresses
    obtain ⟨items, body, asks⟩ := read_of_ofBody asks
    split at asks
    next => cases asks
    next given =>
      cases asks
      exact .check named address body (by simpa using given)
  case h_9 =>
    cases addresses
    obtain ⟨_, body, ⟨⟩⟩ := read_of_ofBody asks
    exact .reserve named address body
  case h_10 =>
    cases addresses with | orderReservations whole
    obtain ⟨_, denotes, ⟨⟩⟩ := denotes_of_ofSegment whole asks
    exact .history named address denotes
  case h_11 =>
    cases addresses with | orderReservations whole
    obtain ⟨_, denotes, ⟨⟩⟩ := denotes_of_ofSegment whole asks
    exact .purge named address denotes
  case h_12 =>
    cases addresses with | confirmation whole
    obtain ⟨_, denotes, ⟨⟩⟩ := denotes_of_ofSegment whole asks
    exact .confirm named address denotes
  case h_13 =>
    cases addresses with | withdrawal whole
    obtain ⟨_, denotes, ⟨⟩⟩ := denotes_of_ofSegment whole asks
    exact .release named address denotes
  case h_14 => cases asks

/-- The plan for a request asks for what the request calls. -/
theorem ofRequest_eq_ask_iff :
    ofRequest r = .ask op status message data ↔ r.Calls op status message data :=
  ⟨calls_of_ofRequest, ofRequest_of_calls⟩

/-! ### Replies -/

def Prompt (plan : Plan) : Prop := ∀ response, plan = .reply response → response.Prompt

def Unfailing (plan : Plan) : Prop := ∀ response, plan = .reply response → response.status < 500

theorem prompt_ask : (ask op status message data).Prompt := fun _ reply => by cases reply

theorem prompt_reply {response : Response} (prompt : response.Prompt) : (reply response).Prompt :=
  fun _ same => reply.inj same ▸ prompt

theorem Prompt.ofBody {plan : α → Plan} (prompt : ∀ a, (plan a).Prompt) :
    (ofBody r codec plan).Prompt := by
  unfold Plan.ofBody
  split
  · exact prompt _
  · exact prompt_reply (.ofBody (by decide : 400 < 500))

theorem Prompt.ofSegment {plan : Uuid → Plan} (prompt : ∀ i, (plan i).Prompt) :
    (ofSegment segment plan).Prompt := by
  unfold Plan.ofSegment
  split
  · exact prompt _
  · exact prompt_reply (.ofBody (by decide : 400 < 500))

theorem prompt_refuse (reason : Invalid) : (refuse reason).Prompt :=
  prompt_reply (.ofBody (by decide : 400 < 500))

theorem prompt_list (r : Request) : (list r).Prompt := by
  unfold list
  split
  · exact prompt_reply (.ofBody (by decide : 400 < 500))
  · split
    · exact prompt_ask
    · exact prompt_refuse _

theorem prompt_ofRoute (r : Request) (route : Route) (method : Method) :
    (ofRoute r route method).Prompt := by
  unfold ofRoute
  split
  case h_1 => exact prompt_reply (.ofBody (by decide : 200 < 500))
  case h_2 | h_9 => exact .ofBody fun _ => prompt_ask
  case h_3 => exact prompt_list r
  case h_5 => exact .ofSegment fun _ => .ofBody fun _ => prompt_ask
  case h_4 | h_6 | h_7 | h_10 | h_11 | h_12 | h_13 => exact .ofSegment fun _ => prompt_ask
  case h_8 =>
    refine .ofBody fun _ => ?_
    split
    · exact prompt_refuse _
    · exact prompt_ask
  case h_14 => exact prompt_reply (.otherMethod _)

theorem prompt_ofRequest (r : Request) : (ofRequest r).Prompt := by
  unfold ofRequest
  split
  · exact prompt_reply (.ofBody (by decide : 404 < 500))
  · split
    · exact prompt_ofRoute r _ _
    · exact prompt_reply (.otherMethod _)

theorem unfailing_ofRequest (r : Request) : (ofRequest r).Unfailing :=
  fun response same => (prompt_ofRequest r response same).status_lt

end Plan

end BoxOffice.Http
