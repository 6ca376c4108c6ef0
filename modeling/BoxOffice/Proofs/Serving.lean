import BoxOffice.Proofs.Incidents
import BoxOffice.Proofs.Requests
import BoxOffice.Proofs.Rereading
import BoxOffice.Proofs.Rollback

/-!
Serving. What a request does to a desk is done by the one operation that it calls, if it calls one,
and the response tells the outcome of that operation: its data are read as the answer, or its error
is that of the refusal. A request that is turned down leaves no trace.
-/

namespace BoxOffice

/-- The status and the code by which clients know a refusal of each kind. -/
inductive Refusal.ToldAs : Refusal → Nat → String → Prop
  | invalid (reason : Invalid) : ToldAs (.invalid reason) 400 "VALIDATION_ERROR"
  | noTicketClass (id : Uuid) : ToldAs (.noTicketClass id) 404 "NOT_FOUND"
  | noOrder (id : Uuid) : ToldAs (.noOrder id) 404 "NOT_FOUND"
  | insufficientStock (ticketClass : Uuid) (requested available : Quantity) :
    ToldAs (.insufficientStock ticketClass requested available) 409 "INSUFFICIENT_STOCK"
  | obstructed (obstacle : Obstacle) : ToldAs (.obstructed obstacle) 409 "INVALID_STATE"
  | duplicate (key : UniqueKey) : ToldAs (.duplicate key) 409 "ALREADY_EXISTS"
  | noStore : ToldAs .noStore 500 "DATABASE_ERROR"

theorem Refusal.toldAs (refusal : Refusal) :
    refusal.ToldAs refusal.fault.status refusal.fault.code := by
  cases refusal <;> constructor

theorem Refusal.ToldAs.status_eq {refusal : Refusal} {status : Nat} {code : String}
    (told : refusal.ToldAs status code) : status = refusal.fault.status := by
  cases told <;> rfl

def Operation.mutates : Operation → Bool
  | .create _ | .update .. | .delete _ | .reserve .. | .confirm _ | .release _ | .purge _ => true
  | _ => false

/-- The second desk has the store and the publisher of the first. -/
def Desk.Untouched (d d' : Desk) : Prop := d'.store = d.store ∧ d'.publisher = d.publisher

theorem Desk.untouched_of_eq {d d' : Desk} (same : d' = d) : d.Untouched d' := same ▸ ⟨rfl, rfl⟩

theorem Operation.untouched_of_refused {d : Desk} {op : Operation} {refusal : Refusal}
    (refused : (op.run d).1 = .error refusal) : d.Untouched (op.run d).2 := by
  obtain ⟨ids, same⟩ := run_of_refused refused
  rw [same]
  exact ⟨rfl, rfl⟩

namespace Http

open Json

/-- What is shown of a body: nothing when only the head of the response is asked for. -/
def Request.shown (r : Request) (body : Body) : Body := if r.method = "HEAD" then .empty else body

/-- The response tells the outcome of a call. What it tells of an answer is read as the answer. -/
def Response.Tells (response : Response) (r : Request) (status : Nat) (message : String)
    (data : Value → Value) : Except Refusal Answer → Prop
  | .ok answer =>
    response.status = status ∧ ∃ v, Wire.Carries v answer ∧
      response.body = r.shown (.json (success message (data v)))
  | .error refusal =>
    ∃ code, refusal.ToldAs response.status code ∧
      response.body =
        r.shown (.json (failure code refusal.fault.publicMessage refusal.fault.details))

variable {r : Request} {op op' : Operation} {status status' : Nat} {message message' : String}
  {data data' : Value → Value} {d : Desk} {response : Response}

/-! ### Calls -/

namespace Request.Calls

theorem method_ne (calls : r.Calls op status message data) : r.method ≠ "OPTIONS" := by
  intro options
  cases calls with
  | list method | get method | available method | history method =>
    rcases method with method | method <;> exact absurd (method.symm.trans options) (by decide)
  | create method | update method | delete method | check method | reserve method | purge method
  | confirm method | release method =>
    exact absurd (method.symm.trans options) (by decide)

theorem status_eq (calls : r.Calls op status message data) : status = 200 ∨ status = 201 := by
  cases calls <;> simp

theorem unique (calls : r.Calls op status message data)
    (calls' : r.Calls op' status' message' data') :
    op' = op ∧ status' = status ∧ message' = message ∧ data' = data := by
  have same := (Plan.ofRequest_eq_ask_iff.2 calls').symm.trans (Plan.ofRequest_eq_ask_iff.2 calls)
  injection same with ops statuses messages datas
  exact ⟨ops, statuses, messages, datas⟩

/-- What changes the store is called by one of three methods; every other call only looks. -/
theorem mutates_or (calls : r.Calls op status message data) :
    (op.mutates = true ∧ (r.method = "POST" ∨ r.method = "PATCH" ∨ r.method = "DELETE")) ∨
      ∀ d, (op.run d).2 = d := by
  cases calls with
  | create method | reserve method | confirm method | release method =>
    exact .inl ⟨rfl, .inl method⟩
  | update method => exact .inl ⟨rfl, .inr (.inl method)⟩
  | delete method | purge method => exact .inl ⟨rfl, .inr (.inr method)⟩
  | list | get | available | history => exact .inr fun _ => rfl
  | @check items => exact .inr fun d => Operation.check_desk d items

end Request.Calls

namespace Site

/-- Serving carries the plan out; on the way to the client only headers are added and, where it is
not asked for, the body is left out. -/
theorem serve_eq (site : Site) (d : Desk) (notPreflight : r.method ≠ "OPTIONS") :
    (site.serve d r).2 = ((Plan.ofRequest r).run d).2 ∧
      (site.serve d r).1.status = ((Plan.ofRequest r).run d).1.status ∧
      (site.serve d r).1.body = r.shown ((Plan.ofRequest r).run d).1.body := by
  rw [serve, if_neg notPreflight]
  refine ⟨rfl, ?_⟩
  unfold Request.shown
  by_cases head : r.method = "HEAD"
  · simp only [if_pos head]
    exact ⟨rfl, rfl⟩
  · simp only [if_neg head]
    exact ⟨rfl, rfl⟩

theorem serve_of_calls (site : Site) (d : Desk) (calls : r.Calls op status message data) :
    (site.serve d r).2 = (op.run d).2 ∧
      (site.serve d r).1.Tells r status message data (op.run d).1 := by
  obtain ⟨led, status_eq, body_eq⟩ := site.serve_eq d calls.method_ne
  rw [Plan.ofRequest_eq_ask_iff.2 calls, Plan.run] at led status_eq body_eq
  unfold Response.Tells
  rcases ran : op.run d with ⟨refusal | answer, d'⟩
  · rw [ran] at led status_eq body_eq
    exact ⟨led, refusal.fault.code, status_eq ▸ refusal.toldAs, body_eq⟩
  · rw [ran] at led status_eq body_eq
    exact ⟨led, status_eq, _, Wire.carries_writeAnswer answer, body_eq⟩

theorem serve_of_not_calls (site : Site) (d : Desk)
    (none : ∀ op status message data, ¬ r.Calls op status message data) :
    (site.serve d r).2 = d ∧ (site.serve d r).1.status < 500 := by
  by_cases preflight : r.method = "OPTIONS"
  · rw [serve, if_pos preflight]
    exact ⟨rfl, (by decide : 200 < 500)⟩
  · obtain ⟨led, status_eq, -⟩ := site.serve_eq d preflight
    cases plan : Plan.ofRequest r with
    | ask op status message data =>
      exact absurd (Plan.ofRequest_eq_ask_iff.1 plan) (none op status message data)
    | reply response =>
      rw [plan] at led status_eq
      exact ⟨led, status_eq ▸ Plan.unfailing_ofRequest r response plan⟩

/-! ### Any number of requests -/

def serveAll (site : Site) (d : Desk) : List Request → List Response × Desk
  | [] => ([], d)
  | r :: rs =>
    let (response, d) := site.serve d r
    let (responses, d) := serveAll site d rs
    (response :: responses, d)

/-- A request takes a desk at most one operation further. -/
theorem exists_after_serve (site : Site) (d : Desk) (r : Request) :
    ∃ op : Option Operation, (site.serve d r).2 = d.after op.toList := by
  by_cases called : ∃ op status message data, r.Calls op status message data
  · obtain ⟨op, _, _, _, calls⟩ := called
    exact ⟨some op, (site.serve_of_calls d calls).1⟩
  · push Not at called
    exact ⟨none, (site.serve_of_not_calls d called).1⟩

theorem exists_after_serveAll (site : Site) (d : Desk) (rs : List Request) :
    ∃ ops, (site.serveAll d rs).2 = d.after ops := by
  induction rs generalizing d with
  | nil => exact ⟨[], rfl⟩
  | cons r rs ih =>
    obtain ⟨op, first⟩ := site.exists_after_serve d r
    obtain ⟨ops, rest⟩ := ih (site.serve d r).2
    refine ⟨op.toList ++ ops, ?_⟩
    rw [Desk.after_append, ← first]
    exact rest

end Site

/-! ### Refinement -/

namespace Response.Tells

variable {result : Except Refusal Answer}

theorem status_lt (tells : response.Tells r status message data result)
    (called : status = 200 ∨ status = 201) (expected : Expected result) :
    response.status < 500 := by
  cases result with
  | error refusal =>
    obtain ⟨code, told, -⟩ := tells
    rw [told.status_eq]
    exact Fault.status_lt_iff.2 (expected refusal rfl)
  | ok answer =>
    have told : response.status = status := tells.1
    omega

/-- Only refusals are told as errors. -/
theorem refused (tells : response.Tells r status message data result)
    (called : status = 200 ∨ status = 201) (error : 400 ≤ response.status) :
    ∃ refusal, result = .error refusal := by
  cases result with
  | error refusal => exact ⟨refusal, rfl⟩
  | ok answer =>
    have told : response.status = status := tells.1
    omega

end Response.Tells

/-- What it means that the services alone are at work when a request is served at a desk, with the
response and the desk after it. -/
structure Request.Refines (r : Request) (d : Desk) (response : Response) (d' : Desk) : Prop where
  /-- What is stored or published changes by nothing but one call, which succeeds. -/
  effect : d.Untouched d' ∨
    ∃ op status message data answer,
      r.Calls op status message data ∧ op.mutates = true ∧
      (r.method = "POST" ∨ r.method = "PATCH" ∨ r.method = "DELETE") ∧
      op.run d = (.ok answer, d') ∧ (status = 200 ∨ status = 201) ∧ response.status = status ∧
      ∃ v, Wire.Carries v answer ∧ response.body = .json (success message (data v))
  /-- What a call leaves is left, and its outcome is told. -/
  called : ∀ op status message data, r.Calls op status message data →
    d' = (op.run d).2 ∧ response.Tells r status message data (op.run d).1
  /-- There is no more than one call. -/
  single : ∀ op status message data op' status' message' data',
    r.Calls op status message data → r.Calls op' status' message' data' →
      op' = op ∧ status' = status ∧ message' = message ∧ data' = data
  uncalled : (∀ op status message data, ¬ r.Calls op status message data) → d' = d
  /-- An answer that tells of an error comes without any effect. -/
  refused : 400 ≤ response.status → d.Untouched d'
  /-- No answer tells of a failure of the server. -/
  unfailing : response.status < 500

theorem Request.Calls.effect (calls : r.Calls op status message data)
    (tells : response.Tells r status message data (op.run d).1) :
    d.Untouched (op.run d).2 ∨
      ∃ answer, op.mutates = true ∧
        (r.method = "POST" ∨ r.method = "PATCH" ∨ r.method = "DELETE") ∧
        op.run d = (.ok answer, (op.run d).2) ∧ response.status = status ∧
        ∃ v, Wire.Carries v answer ∧ response.body = .json (success message (data v)) := by
  rcases ran : op.run d with ⟨refusal | answer, d'⟩
  · have untouched := Operation.untouched_of_refused (congrArg Prod.fst ran)
    rw [ran] at untouched
    exact .inl untouched
  · rw [ran] at tells
    rcases calls.mutates_or with ⟨mutates, method⟩ | looks
    · obtain ⟨told, v, carries, body⟩ := tells
      have notHead : r.method ≠ "HEAD" := by
        rcases method with method | method | method <;> rw [method] <;> decide
      rw [shown, if_neg notHead] at body
      exact .inr ⟨answer, mutates, method, rfl, told, v, carries, body⟩
    · have same := looks d
      rw [ran] at same
      exact .inl (Desk.untouched_of_eq same)

theorem Site.refines_serve (site : Site) {s : Store} (stored : d.store = some s) (r : Request) :
    r.Refines d (site.serve d r).1 (site.serve d r).2 := by
  by_cases called : ∃ op status message data, r.Calls op status message data
  · obtain ⟨op, status, message, data, calls⟩ := called
    obtain ⟨led, tells⟩ := site.serve_of_calls d calls
    rw [led]
    constructor
    case effect =>
      rcases calls.effect tells with untouched | ⟨answer, mutates, method, ran, told, body⟩
      · exact .inl untouched
      · exact .inr ⟨op, status, message, data, answer, calls, mutates, method, ran, calls.status_eq,
          told, body⟩
    case called =>
      intro op' status' message' data' calls'
      obtain ⟨rfl, rfl, rfl, rfl⟩ := calls.unique calls'
      exact ⟨rfl, tells⟩
    case single => exact fun _ _ _ _ _ _ _ _ calls calls' => calls.unique calls'
    case uncalled => exact fun none => absurd calls (none _ _ _ _)
    case refused =>
      intro error
      obtain ⟨refusal, refused⟩ := tells.refused calls.status_eq error
      exact Operation.untouched_of_refused refused
    case unfailing => exact tells.status_lt calls.status_eq (Operation.expected_run stored op)
  · push Not at called
    obtain ⟨same, fine⟩ := site.serve_of_not_calls d called
    constructor
    case effect => exact .inl (Desk.untouched_of_eq same)
    case called => exact fun _ _ _ _ calls => absurd calls (called _ _ _ _)
    case single => exact fun _ _ _ _ _ _ _ _ calls calls' => calls.unique calls'
    case uncalled => exact fun _ => same
    case refused => exact fun _ => Desk.untouched_of_eq same
    case unfailing => exact fine

theorem Origins.exists_ofList? {list : String} (noAsterisk : "*" ∉ entries list) :
    ∃ origins, ofList? list = some origins := by
  unfold ofList?
  split
  · exact ⟨.any, rfl⟩
  · exact ⟨_, if_neg (by simpa using noAsterisk)⟩

/-- The interface does what the services do, and nothing else. Whatever origins are configured, if
any, as long as there is no asterisk among them, there is a site. Whatever is stored and whatever
the clock shows, a request is served there by the one operation that it calls, or by none; an answer
that tells of an error leaves store and events as they were, and no request meets a failure of the
server. -/
theorem Site.serve_refines_services (production : Bool) (allowed : Option String)
    (noAsterisk : "*" ∉ Origins.entries (allowed.getD Origins.localList)) :
    ∃ origins, Origins.ofList? (allowed.getD Origins.localList) = some origins ∧
      ∀ (d : Desk) (s : Store) (r : Request), d.store = some s →
        r.Refines d (serve ⟨production, origins⟩ d r).1 (serve ⟨production, origins⟩ d r).2 := by
  obtain ⟨origins, admitted⟩ := Origins.exists_ofList? noAsterisk
  exact ⟨origins, admitted, fun d s r stored => refines_serve _ stored r⟩

end Http

def Concert.confirmation : Http.Request where
  method := "POST"
  target := "/orders/00000000-0000-0000-0000-000000000009/confirm"
  headers := [("origin", "http://localhost:3000")]
  body := []

/-- At a site with the origins for local development, an order is confirmed by a request: two
tickets are sold, and the confirmed reservation is told. -/
theorem Http.Site.serve_refines_services_concert :
    "*" ∉ Origins.entries (Option.getD none Origins.localList) ∧
      ∃ origins rows v, Origins.ofList? Origins.localList = some origins ∧
        (serve ⟨true, origins⟩ Concert.pending Concert.confirmation).1.status = 200 ∧
        (serve ⟨true, origins⟩ Concert.pending Concert.confirmation).1.body =
          .json (success "Reservations confirmed" v) ∧
        Wire.Carries v (.reservations rows) ∧ rows.map (·.status) = [.confirmed] ∧
        ((serve ⟨true, origins⟩ Concert.pending Concert.confirmation).2.store.map fun s =>
          s.ticketClasses.rows.map (·.sold)) = some [2, 0] ∧
        (serve ⟨true, origins⟩ Concert.pending Concert.confirmation).2.publisher.published =
          [.reserved Concert.order [IdSupply.numbered 2] (.insert .empty ⟨IdSupply.numbered 0, 2⟩)
              Concert.oneOClock,
            .confirmed Concert.order [IdSupply.numbered 2]
              (.insert .empty ⟨IdSupply.numbered 0, 2⟩) Concert.noon] := by
  have noAsterisk : "*" ∉ Origins.entries (Option.getD none Origins.localList) := by decide
  obtain ⟨origins, admitted, refines⟩ := serve_refines_services true none noAsterisk
  have calls : Concert.confirmation.Calls (.confirm Concert.order) 200 "Reservations confirmed"
      id := .confirm rfl (by decide : _ = "/orders/".toList ++ Concert.order.text.toList ++ _)
      ⟨by decide, by decide⟩
  obtain ⟨led, told⟩ := (refines Concert.pending _ Concert.confirmation rfl).called _ _ _ _ calls
  obtain ⟨status, v, carries, body⟩ := told
  refine ⟨noAsterisk, origins, _, v, admitted, status, body, carries, rfl, ?_, ?_⟩
  · rw [led]
    rfl
  · rw [led]
    rfl

end BoxOffice
