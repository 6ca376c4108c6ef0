import BoxOffice.Fault
import BoxOffice.Http.Listing
import BoxOffice.Http.MediaType
import BoxOffice.Http.Message
import BoxOffice.Http.Origins
import BoxOffice.Http.Route
import BoxOffice.Operation
import BoxOffice.Wire

/-!
The site: how requests are served at a desk. A request is first brought to a plan, which either
is a response already or asks one operation of the desk; the desk's answer is then told in the
body of the response. Every response carries the headers that the site adds.
-/

namespace BoxOffice.Http

open Json

structure Site where
  /-- Whether clients are told to use encrypted connections only. -/
  production : Bool
  origins : Origins

inductive Plan
  | reply (r : Response)
  /-- An operation, and how its answer is told: by a status, a message and the data. -/
  | ask (op : Operation) (status : Nat) (message : String) (data : Value → Value)

def envelope (message : String) (data : Value) : Value :=
  .object [("success", .bool true), ("data", data), ("message", .text message)]

def Response.ofFault (f : Fault) : Response := .ofBody f.status (.json f.body)

inductive BodyFlaw
  | otherType
  | tooLong
  | malformed
  | mismatched
  deriving DecidableEq

def BodyFlaw.message : BodyFlaw → String
  | .otherType => "Expected request with `Content-Type: application/json`"
  | .tooLong => "Failed to buffer the request body: length limit exceeded"
  | .malformed => "Failed to parse the request body as JSON"
  | .mismatched => "Failed to deserialize the JSON body into the target type"

def BodyFlaw.ofFlaw : Flaw → BodyFlaw
  | .malformed => .malformed
  | .mismatched => .mismatched

/-- The longest body that is read, in bytes: two mebibytes. -/
def longestBody : Nat := 2 * 1024 * 1024

/-- Reads the body of a request. What follows the first value is not looked at. -/
def Request.read {α : Type} (r : Request) (codec : Codec α) : Except BodyFlaw α :=
  if !((r.header? "content-type").map MediaType.isJson).getD false then .error .otherType
  else if longestBody < r.body.length then .error .tooLong
  else (readFront codec (Text.glyphs r.body)).mapError BodyFlaw.ofFlaw

def Plan.ofBody {α : Type} (r : Request) (codec : Codec α) (plan : α → Plan) : Plan :=
  match r.read codec with
  | .ok a => plan a
  | .error flaw => .reply (.ofFault (.validation flaw.message))

def segmentId? (segment : List Char) : Option Uuid :=
  (Text.decodeUtf8? (Text.percentDecode (Text.encodeUtf8 segment))).bind Uuid.ofChars?

def Plan.ofSegment (segment : List Char) (plan : Uuid → Plan) : Plan :=
  match segmentId? segment with
  | some id => plan id
  | none => .reply (.ofBody 400 (.text "Invalid URL"))

def checkRequest : Codec (List Line) :=
  (Fields.cons (.required "items" Wire.item.list) .nil).codec.convert (·.1) (·, ())

namespace Plan

def refuse (reason : Invalid) : Plan := .reply (.ofFault (Refusal.invalid reason).fault)

def health : Plan :=
  .reply (.ofBody 200 (.json (envelope "Health check successful"
    (.object [("status", .text "ok"), ("service", .text "inventory-api")]))))

def list (r : Request) : Plan :=
  match Listing.ofQuery? r.query with
  | none => .reply (.ofFault (.validation "Failed to deserialize query string"))
  | some listing =>
    match listing.filter with
    | .ok f => .ask (.list f) 200 "Ticket classes retrieved" id
    | .error reason => refuse reason

def check (r : Request) : Plan :=
  .ofBody r checkRequest fun items =>
    if items.isEmpty then refuse .itemsMissing
    else .ask (.check items) 200 "Availability checked" fun v => .object [("available", v)]

def reserve (r : Request) : Plan :=
  .ofBody r Wire.orderRequest fun o =>
    .ask (.reserve o.order o.items o.expiresAt) 201 "Tickets reserved" id

def ofRoute (r : Request) : Route → Method → Plan
  | .health, .get => health
  | .ticketClasses, .post =>
    .ofBody r Wire.draft fun draft => .ask (.create draft) 201 "Ticket class created" id
  | .ticketClasses, .get => list r
  | .ticketClass segment, .get =>
    .ofSegment segment fun i => .ask (.get i) 200 "Ticket class retrieved" id
  | .ticketClass segment, .patch =>
    .ofSegment segment fun i =>
      .ofBody r Wire.changes fun changes => .ask (.update i changes) 200 "Ticket class updated" id
  | .ticketClass segment, .delete =>
    .ofSegment segment fun i => .ask (.delete i) 200 "Ticket class deleted" id
  | .availability segment, .get =>
    .ofSegment segment fun i =>
      .ask (.available i) 200 "Availability retrieved" fun v =>
        .object [("ticket_class_id", Wire.uuid.write i), ("available", v)]
  | .check, .post => check r
  | .reservations, .post => reserve r
  | .orderReservations segment, .get =>
    .ofSegment segment fun i => .ask (.history i) 200 "Reservations retrieved" id
  | .orderReservations segment, .delete =>
    .ofSegment segment fun i =>
      .ask (.purge i) 200 "Reservations deleted" fun v =>
        .object [("order_id", Wire.uuid.write i), ("deleted", v)]
  | .confirmation segment, .post =>
    .ofSegment segment fun i => .ask (.confirm i) 200 "Reservations confirmed" id
  | .withdrawal segment, .post =>
    .ofSegment segment fun i => .ask (.release i) 200 "Reservations released" id
  | route, _ => .reply ((Response.ofBody 405 .empty).withHeaders [route.allow])

def ofRequest (r : Request) : Plan :=
  match Route.ofPath? r.path with
  | none => .reply (.ofBody 404 .empty)
  | some route =>
    match Method.ofName? r.method with
    | some method => ofRoute r route method
    | none => .reply ((Response.ofBody 405 .empty).withHeaders [route.allow])

def run (d : Desk) : Plan → Response × Desk
  | .reply r => (r, d)
  | .ask op status message data =>
    match op.run d with
    | (.ok answer, d) =>
      (.ofBody status (.json (envelope message (data (Wire.writeAnswer answer)))), d)
    | (.error refusal, d) => (.ofFault refusal.fault, d)

end Plan

namespace Site

def build? (production : Bool) (allowedOrigins : Option String) : Option Site :=
  (Origins.ofList? (allowedOrigins.getD Origins.localList)).map (⟨production, ·⟩)

def securityHeaders (production : Bool) : List (String × String) :=
  [("x-content-type-options", "nosniff"),
    ("x-frame-options", "DENY"),
    ("content-security-policy", "default-src 'none'; frame-ancestors 'none'"),
    ("referrer-policy", "strict-origin-when-cross-origin")] ++
  if production then [("strict-transport-security", "max-age=31536000; includeSubDomains")]
  else []

/-- The headers on which an answer to another origin may depend. -/
def vary : String × String :=
  ("vary", "origin, access-control-request-method, access-control-request-headers")

/-- The response to a browser that asks what another origin may do; nothing else is looked
at. -/
def preflight (site : Site) (r : Request) : Response :=
  let allow := match Route.ofPath? r.path with
    | some route => [route.allow]
    | none => []
  (Response.ofBody 200 .empty).withHeaders
    (site.origins.grant (r.header? "origin") ++
      [vary, ("access-control-allow-methods", "GET,POST,PATCH,DELETE,OPTIONS"),
        ("access-control-allow-headers", "content-type,authorization,accept,x-request-id"),
        ("access-control-max-age", "86400")] ++ allow)

/-- The headers by which browsers let other origins read a response. -/
def sharedHeaders (site : Site) (r : Request) : List (String × String) :=
  site.origins.grant (r.header? "origin") ++
    [vary, ("access-control-expose-headers", "content-type,x-request-id")]

def addedHeaders (site : Site) (r : Request) : List (String × String) :=
  securityHeaders site.production ++ site.sharedHeaders r

def serve (site : Site) (d : Desk) (r : Request) : Response × Desk :=
  if r.method = "OPTIONS" then (site.preflight r, d)
  else
    let (response, d) := (Plan.ofRequest r).run d
    let response := if r.method = "HEAD" then response.withoutBody else response
    (response.withHeaders (site.addedHeaders r), d)

end Site

end BoxOffice.Http
