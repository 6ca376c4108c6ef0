import BoxOffice.Proofs.Serving

/-!
Answers without a store. Some answers are given before the store is asked for: that a draft, an
order or a list of items is not in order by itself, and what can be said of a list of items at once.
`Operation.settled?` says which, and they leave nothing behind in a store and tell no event.

Every other operation asks for the store first of all, and where there is none it is refused for
just that. So two desks of which one cannot reach its store are alike to a client who is not told of
a failure of the server; only a sweep keeps the refusal to itself.
-/

namespace BoxOffice

namespace Operation

/-- The answer to an operation that does not need the store, if it does not. -/
def settled? (now : Instant) : Operation → Option (Except Refusal Answer)
  | .create draft =>
    match draft.validate with
    | .error reason => some (.error (.invalid reason))
    | .ok () => none
  | .update _ changes =>
    match changes.validate with
    | .error reason => some (.error (.invalid reason))
    | .ok () => none
  | .reserve order items expiresAt =>
    match Lines.ofOrder order items with
    | .error reason => some (.error (.invalid reason))
    | .ok _ => if expiresAt ≤ now then some (.error (.invalid .deadlineNotAhead)) else none
  | .check items =>
    match Wanted.ofItems .empty items with
    | .error reason => some (.error (.invalid reason))
    | .ok .tooMany => some (.ok (.flag false))
    | .ok (.lines lines) => if lines.rows.isEmpty then some (.ok (.flag true)) else none
  | .setClock t => some (.ok (.moment t))
  | .setPublisher _ => some (.ok .done)
  | .get _ | .list _ | .delete _ | .confirm _ | .release _ | .history _ | .purge _ | .expire _
  | .sweep _ | .available _ => none

/-- The desk that an operation leaves that does not need the store. -/
def settle (d : Desk) : Operation → Desk
  | .setClock t => { d with now := t }
  | .setPublisher fails => { d with publisher := { d.publisher with fails := fails } }
  | _ => d

def sweeps : Operation → Bool
  | .sweep _ => true
  | _ => false

end Operation

/-- What is stored and what was told is the same at both desks. -/
def Desk.Still (d d' : Desk) : Prop :=
  d'.store = d.store ∧ d'.publisher.published = d.publisher.published

namespace Desk

variable {d d' d'' : Desk}

theorem Still.refl (d : Desk) : d.Still d := ⟨rfl, rfl⟩

theorem Still.trans (first : d.Still d') (second : d'.Still d'') : d.Still d'' :=
  ⟨second.1.trans first.1, second.2.trans first.2⟩

theorem Untouched.still (untouched : d.Untouched d') : d.Still d' :=
  ⟨untouched.1, congrArg Publisher.published untouched.2⟩

theorem reach_of_unreachable (unreachable : d.store = none) : d.reach = .error .noStore := by
  rw [reach, unreachable]

theorem look_of_unreachable {α : Type} (unreachable : d.store = none)
    (answer : Store → Except Refusal α) : (d.look answer).1 = .error .noStore := by
  rw [look, reach_of_unreachable unreachable]
  rfl

theorem change_of_unreachable {α : Type} (unreachable : d.store = none)
    (answer : Store → Except Refusal (α × Store)) : d.change answer = (.error .noStore, d) := by
  rw [change, reach_of_unreachable unreachable]
  rfl

theorem resolve_of_unreachable (unreachable : d.store = none) (how : Store.Resolution)
    (order : Uuid) (told : List Uuid → Lines → Event) :
    d.resolve how order told = (.error .noStore, d) := by
  rw [resolve, change_of_unreachable unreachable]

theorem expire_of_unreachable (unreachable : d.store = none) (size : Int) :
    d.expire size = (.error .noStore, d) := by
  rw [expire, change_of_unreachable unreachable]

end Desk

namespace Operation

variable {d d' : Desk} {op : Operation} {answer : Except Refusal Answer}

theorem still_settle (op : Operation) (d : Desk) : d.Still (op.settle d) := by
  cases op <;> exact ⟨rfl, rfl⟩

/-! ### One operation -/

/-- The operation asks for the store last: if it does not need the store it has its one answer at
the desk, and otherwise it is refused where the store cannot be reached. -/
structure AsksLast (op : Operation) (d : Desk) : Prop where
  settled : ∀ answer, op.settled? d.now = some answer → op.run d = (answer, op.settle d)
  needed : op.settled? d.now = none → op.sweeps = false → d.store = none →
    (op.run d).1 = .error .noStore

theorem asksLast_of_settled (answer : Except Refusal Answer)
    (settled : op.settled? d.now = some answer) (run_eq : op.run d = (answer, op.settle d)) :
    op.AsksLast d where
  settled answer' settled' := by
    obtain rfl := Option.some.inj (settled.symm.trans settled')
    exact run_eq
  needed none := nomatch none.symm.trans settled

theorem asksLast_of_needed (none : op.settled? d.now = none)
    (refused : d.store = .none → (op.run d).1 = .error .noStore) : op.AsksLast d where
  settled _ settled := nomatch none.symm.trans settled
  needed _ _ := refused

theorem answered_of_error {α : Type} {toAnswer : α → Answer} {result : Except Refusal α × Desk}
    {refusal : Refusal} (refused : result.1 = .error refusal) :
    (answered toAnswer result).1 = .error refusal := by
  rw [answered, refused]
  rfl

/-- The services look for what is wrong with a request by itself before they ask for the store. -/
theorem asksLast (op : Operation) (d : Desk) : op.AsksLast d := by
  cases op with
  | create draft =>
    cases valid : draft.validate with
    | error reason =>
      refine asksLast_of_settled (.error (.invalid reason)) (by simp only [settled?, valid]) ?_
      simp only [run, Desk.create, valid]
      rfl
    | ok =>
      refine asksLast_of_needed (by simp only [settled?, valid]) fun unreachable => ?_
      have unreachable' : ({ d with ids := d.ids.draw.2 } : Desk).store = none := unreachable
      refine answered_of_error ?_
      simp only [Desk.create, valid, Desk.change_of_unreachable unreachable']
  | update id changes =>
    cases valid : changes.validate with
    | error reason =>
      refine asksLast_of_settled (.error (.invalid reason)) (by simp only [settled?, valid]) ?_
      simp only [run, Desk.update, valid]
      rfl
    | ok =>
      refine asksLast_of_needed (by simp only [settled?, valid]) fun unreachable => ?_
      refine answered_of_error ?_
      simp only [Desk.update, valid, Desk.change_of_unreachable unreachable]
  | reserve order items expiresAt =>
    cases accepted : Lines.ofOrder order items with
    | error reason =>
      refine asksLast_of_settled (.error (.invalid reason)) (by simp only [settled?, accepted]) ?_
      simp only [run, Desk.reserve, accepted]
      rfl
    | ok lines =>
      by_cases late : expiresAt ≤ d.now
      · refine asksLast_of_settled (.error (.invalid .deadlineNotAhead))
          (by simp only [settled?, accepted, if_pos late]) ?_
        simp only [run, Desk.reserve, accepted, if_pos late]
        rfl
      · refine asksLast_of_needed (by simp only [settled?, accepted, if_neg late])
          fun unreachable => answered_of_error ?_
        simp only [Desk.reserve, accepted, if_neg late, unreachable]
  | check items =>
    cases merged : Wanted.ofItems .empty items with
    | error reason =>
      refine asksLast_of_settled (.error (.invalid reason)) (by simp only [settled?, merged]) ?_
      simp only [run, Desk.check, merged]
      rfl
    | ok wanted =>
      cases wanted with
      | tooMany =>
        refine asksLast_of_settled (.ok (.flag false)) (by simp only [settled?, merged]) ?_
        simp only [run, Desk.check, merged]
        rfl
      | lines lines =>
        by_cases empty : lines.rows.isEmpty = true
        · refine asksLast_of_settled (.ok (.flag true))
            (by simp only [settled?, merged, if_pos empty]) ?_
          simp only [run, Desk.check, merged, if_pos empty]
          rfl
        · refine asksLast_of_needed (by simp only [settled?, merged, if_neg empty])
            fun unreachable => answered_of_error ?_
          simp only [Desk.check, merged, if_neg empty, Desk.look_of_unreachable unreachable]
  | setClock | setPublisher => exact asksLast_of_settled _ rfl rfl
  | get | list | history | available =>
    exact asksLast_of_needed rfl fun unreachable =>
      answered_of_error (Desk.look_of_unreachable unreachable _)
  | delete | purge =>
    exact asksLast_of_needed rfl fun unreachable =>
      answered_of_error (congrArg Prod.fst (Desk.change_of_unreachable unreachable _))
  | confirm | release =>
    exact asksLast_of_needed rfl fun unreachable =>
      answered_of_error (congrArg Prod.fst (Desk.resolve_of_unreachable unreachable ..))
  | expire size =>
    exact asksLast_of_needed rfl fun unreachable =>
      answered_of_error (congrArg Prod.fst (Desk.expire_of_unreachable unreachable size))
  | sweep size =>
    constructor
    case settled =>
      intro answer settled
      cases settled
    case needed =>
      intro _ notSweep
      cases notSweep

/-- Without a store nothing is stored and nothing told. -/
theorem still_run_of_unreachable (unreachable : d.store = none) (op : Operation) :
    d.Still (op.run d).2 := by
  cases settled : op.settled? d.now with
  | some answer =>
    rw [(op.asksLast d).settled answer settled]
    exact op.still_settle d
  | none =>
    cases notSweep : op.sweeps with
    | false =>
      exact (untouched_of_refused ((op.asksLast d).needed settled notSweep unreachable)).still
    | true =>
      cases op with
      | sweep size =>
        show d.Still (d.sweep size).2
        rw [sweep_desk, Desk.expire_of_unreachable unreachable]
        exact .refl d
      | _ => cases notSweep

/-- Where the store cannot be reached, only that is ever said of it. -/
theorem settled_of_answered (unreachable : d.store = none) (notSweep : op.sweeps = false)
    (answered : (op.run d).1 ≠ .error .noStore) : op.settled? d.now = some (op.run d).1 := by
  cases settled : op.settled? d.now with
  | some answer => rw [(op.asksLast d).settled answer settled]
  | none => exact absurd ((op.asksLast d).needed settled notSweep unreachable) answered

/-- An answer that was given without a store is given at every desk with the same time. -/
theorem run_alike (unreachable : d.store = none) (notSweep : op.sweeps = false)
    (answered : (op.run d).1 ≠ .error .noStore) (sameTime : d'.now = d.now) :
    (op.run d').1 = (op.run d).1 ∧ (op.run d').2 = op.settle d' := by
  have settled := settled_of_answered unreachable notSweep answered
  rw [← sameTime] at settled
  have alike := (op.asksLast d').settled _ settled
  exact ⟨by rw [alike], by rw [alike]⟩

/-! ### Any number of operations -/

theorem still_after_of_unreachable (unreachable : d.store = none) (ops : List Operation) :
    d.Still (d.after ops) := by
  induction ops generalizing d with
  | nil => exact .refl d
  | cons op ops ih =>
    have first := still_run_of_unreachable unreachable op
    exact first.trans (ih (first.1.trans unreachable))

end Operation

/-! ### Requests -/

namespace Http

variable {r : Request} {op : Operation} {status : Nat} {message : String}
  {data : Json.Value → Json.Value} {d d' : Desk}

theorem Request.Calls.sweeps_eq (calls : r.Calls op status message data) : op.sweeps = false := by
  cases calls <;> rfl

/-- The response to a call depends on the answer alone. -/
theorem Plan.run_ask_congr (same : (op.run d').1 = (op.run d).1) :
    ((ask op status message data).run d').1 = ((ask op status message data).run d).1 := by
  rw [run, run]
  rcases ran : op.run d with ⟨refusal | answer, left⟩ <;>
    rcases ran' : op.run d' with ⟨refusal' | answer', left'⟩ <;> rw [ran, ran'] at same
  · rw [Except.error.inj same]
  · cases same
  · cases same
  · rw [Except.ok.inj same]

namespace Site

/-- What is added to a response does not depend on the desk. -/
theorem serve_congr (site : Site)
    (same : ((Plan.ofRequest r).run d').1 = ((Plan.ofRequest r).run d).1) :
    (site.serve d' r).1 = (site.serve d r).1 := by
  by_cases preflight : r.method = "OPTIONS"
  · rw [serve, serve, if_pos preflight, if_pos preflight]
  · rw [serve, serve, if_neg preflight, if_neg preflight]
    simp only [same]

/-- A client is told of a store that cannot be reached by status 500. -/
theorem status_of_noStore (site : Site) (calls : r.Calls op status message data)
    (refused : (op.run d).1 = .error .noStore) : (site.serve d r).1.status = 500 := by
  have tells := (site.serve_of_calls d calls).2
  rw [refused] at tells
  obtain ⟨code, told, -⟩ := tells
  exact told.status_eq

theorem serve_of_not_calls_eq (site : Site)
    (none : ∀ op status message data, ¬r.Calls op status message data) (d d' : Desk) :
    (site.serve d' r).1 = (site.serve d r).1 := by
  refine site.serve_congr ?_
  cases plan : Plan.ofRequest r with
  | reply response => rfl
  | ask op status message data =>
    exact absurd (Plan.ofRequest_eq_ask_iff.1 plan) (none op status message data)

/-- A response that was given without a store is given at every desk with the same time. -/
theorem serve_alike (site : Site) (unreachable : d.store = none)
    (told : (site.serve d r).1.status ≠ 500) (sameTime : d'.now = d.now) :
    (site.serve d' r).1 = (site.serve d r).1 ∧ d'.Still (site.serve d' r).2 := by
  by_cases called : ∃ op status message data, r.Calls op status message data
  · obtain ⟨op, status, message, data, calls⟩ := called
    have answered : (op.run d).1 ≠ .error .noStore := fun refused =>
      told (site.status_of_noStore calls refused)
    obtain ⟨same, left⟩ :=
      Operation.run_alike unreachable calls.sweeps_eq answered sameTime
    constructor
    · refine site.serve_congr ?_
      rw [Plan.ofRequest_eq_ask_iff.2 calls]
      exact Plan.run_ask_congr same
    · rw [(site.serve_of_calls d' calls).1, left]
      exact op.still_settle d'
  · push Not at called
    refine ⟨site.serve_of_not_calls_eq called d d', ?_⟩
    rw [(site.serve_of_not_calls d' called).1]
    exact .refl d'

theorem still_serveAll_of_unreachable (site : Site) (unreachable : d.store = none)
    (rs : List Request) : d.Still (site.serveAll d rs).2 := by
  obtain ⟨ops, led⟩ := site.exists_after_serveAll d rs
  rw [led]
  exact Operation.still_after_of_unreachable unreachable ops

end Site

end Http

namespace Desk

/-- Answers that are given without a store do not depend on one. Where the store cannot be reached,
an operation other than a sweep that is not refused for that, and a request that is not answered by
status 500, is answered alike at every desk with the same time, whatever is stored there, and leaves
what is stored and what was told as it was. Nothing at all is told where the store cannot be
reached, whatever is asked and however often. -/
theorem stateless_answers_alike {d : Desk} (unreachable : d.store = none) :
    (∀ op : Operation, op.sweeps = false → (op.run d).1 ≠ .error .noStore →
      ∀ d' : Desk, d'.now = d.now → (op.run d').1 = (op.run d).1 ∧ d'.Still (op.run d').2) ∧
    (∀ (site : Http.Site) (r : Http.Request), (site.serve d r).1.status ≠ 500 →
      ∀ d' : Desk, d'.now = d.now →
        (site.serve d' r).1 = (site.serve d r).1 ∧ d'.Still (site.serve d' r).2) ∧
    (∀ ops, d.Still (d.after ops)) ∧
    ∀ (site : Http.Site) (rs : List Http.Request), d.Still (site.serveAll d rs).2 := by
  refine ⟨fun op notSweep answered d' sameTime => ?_, fun site r told d' sameTime => ?_,
    fun ops => ?_, fun site rs => ?_⟩
  · obtain ⟨same, left⟩ := Operation.run_alike unreachable notSweep answered sameTime
    exact ⟨same, left ▸ op.still_settle d'⟩
  · exact site.serve_alike unreachable told sameTime
  · exact Operation.still_after_of_unreachable unreachable ops
  · exact site.still_serveAll_of_unreachable unreachable rs

end Desk

def Concert.shut : Desk := { pending with store := none }

def Concert.untyped : Http.Request where
  method := "POST"
  target := "/reservations"
  headers := []
  body := []

/-- Where the store cannot be reached, a check of no items is answered, and so is a request that
cannot be read; both are answered alike while an order is pending. What needs the store is refused
at the one desk and done at the other. -/
theorem Desk.stateless_answers_alike_concert :
    let site : Http.Site := ⟨true, .any⟩
    Concert.shut.store = none ∧
      ((Operation.check []).run Concert.pending).1 = .ok (.flag true) ∧
      (site.serve Concert.shut Concert.untyped).1.status = 400 ∧
      (site.serve Concert.pending Concert.untyped).1 =
        (site.serve Concert.shut Concert.untyped).1 ∧
      ((Operation.confirm Concert.order).run Concert.shut).1 = .error .noStore ∧
      (((Operation.confirm Concert.order).run Concert.pending).1.toOption).isSome = true := by
  intro site
  obtain ⟨operations, requests, -⟩ := stateless_answers_alike (d := Concert.shut) rfl
  have checked := (operations (.check []) rfl (by decide) Concert.pending rfl).1
  have told : (site.serve Concert.shut Concert.untyped).1.status = 400 := rfl
  have same := (requests site Concert.untyped (by rw [told]; decide) Concert.pending rfl).1
  exact ⟨rfl, checked, told, same, rfl, rfl⟩

end BoxOffice
