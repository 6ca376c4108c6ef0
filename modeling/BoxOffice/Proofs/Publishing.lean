import BoxOffice.Proofs.Runs

/-!
Failing publishers. Whether the publisher fails can be set at any time of a run, so every pattern
of failures is a run of its own. Runs that differ in nothing else go through the same stores,
publish the same events and give the same answers.
-/

namespace BoxOffice

def Operation.setsPublisher : Operation → Bool
  | .setPublisher _ => true
  | _ => false

def Operation.services (ops : List Operation) : List Operation := ops.filter (!·.setsPublisher)

namespace Desk

def answers (d : Desk) (ops : List Operation) : List (Operation × Except Refusal Answer) :=
  (ops.zip (Operation.runAll d ops).1).filter (!·.1.setsPublisher)

def withFails (d : Desk) (fails : Bool) : Desk :=
  { d with publisher := { d.publisher with fails := fails } }

variable {d : Desk} {fails : Bool}

def resultWithFails {α : Type} (fails : Bool) (result : α × Desk) : α × Desk :=
  (result.1, result.2.withFails fails)

theorem change_withFails {α : Type} (answer : Store → Except Refusal (α × Store)) :
    (d.withFails fails).change answer = resultWithFails fails (d.change answer) := by
  have same : (d.withFails fails).reach = d.reach := rfl
  unfold change
  rw [same]
  cases d.reach >>= answer <;> rfl

theorem resolve_withFails (how : Store.Resolution) (order : Uuid)
    (told : List Uuid → Lines → Event) :
    (d.withFails fails).resolve how order told =
      resultWithFails fails (d.resolve how order told) := by
  have same : (d.withFails fails).now = d.now := rfl
  unfold resolve
  rw [change_withFails, same]
  rcases d.change fun s => s.resolve how order d.now with ⟨_ | ⟨_, _⟩, _⟩ <;> rfl

theorem expire_withFails (size : Int) :
    (d.withFails fails).expire size = resultWithFails fails (d.expire size) := by
  have same : (d.withFails fails).now = d.now := rfl
  unfold expire
  rw [change_withFails, same]
  rcases d.change fun s => s.expire (sweepLimit size) d.now with ⟨_ | ⟨_ | ⟨_, _⟩, _⟩, _⟩ <;> rfl

theorem reserve_withFails (order : Uuid) (items : List Line) (expiresAt : Instant) :
    (d.withFails fails).reserve order items expiresAt =
      resultWithFails fails (d.reserve order items expiresAt) := by
  obtain ⟨store, now, ids, publisher⟩ := d
  unfold reserve
  cases Lines.ofOrder order items with
  | error reason => rfl
  | ok lines =>
    by_cases late : expiresAt ≤ now
    · simp only [withFails, late, if_true]
      rfl
    · cases store with
      | none =>
        simp only [withFails, late, if_false]
        rfl
      | some s =>
        simp only [withFails, late, if_false]
        rcases s.reserve ids order lines expiresAt now with ⟨_ | ⟨_, _⟩, _⟩ <;> rfl

theorem create_withFails (draft : TicketClass.Draft) :
    (d.withFails fails).create draft = resultWithFails fails (d.create draft) := by
  unfold create
  cases draft.validate with
  | error reason => rfl
  | ok => exact change_withFails (d := { d with ids := d.ids.draw.2 }) _

theorem update_withFails (id : Uuid) (changes : TicketClass.Changes) :
    (d.withFails fails).update id changes = resultWithFails fails (d.update id changes) := by
  unfold update
  cases changes.validate with
  | error reason => rfl
  | ok => exact change_withFails _

theorem check_withFails (items : List Line) :
    (d.withFails fails).check items = resultWithFails fails (d.check items) := by
  unfold check
  split
  · rfl
  · rfl
  · split <;> rfl

theorem sweep_withFails (size : Int) :
    (d.withFails fails).sweep size = resultWithFails fails (d.sweep size) := by
  unfold sweep
  rw [expire_withFails]
  rcases d.expire size with ⟨_ | _, _⟩ <;> rfl

/-- Whether the publisher fails makes no difference to any other operation. -/
theorem run_withFails {op : Operation} (service : op.setsPublisher = false) (d : Desk)
    (fails : Bool) : op.run (d.withFails fails) = resultWithFails fails (op.run d) := by
  have answered_withFails {α : Type} {toAnswer : α → Answer}
      {result result' : Except Refusal α × Desk}
      (same : result' = resultWithFails fails result) :
      answered toAnswer result' = resultWithFails fails (answered toAnswer result) := by
    rw [same]
    rfl
  cases op with
  | create draft => exact answered_withFails (create_withFails draft)
  | update id changes => exact answered_withFails (update_withFails id changes)
  | delete id => exact answered_withFails (change_withFails _)
  | reserve order items expiresAt =>
    exact answered_withFails (reserve_withFails order items expiresAt)
  | confirm order => exact answered_withFails (resolve_withFails .confirm order _)
  | release order => exact answered_withFails (resolve_withFails .release order _)
  | purge order => exact answered_withFails (change_withFails _)
  | expire size => exact answered_withFails (expire_withFails size)
  | sweep size =>
    simp only [Operation.run, sweep_withFails]
    rfl
  | check items => exact answered_withFails (check_withFails items)
  | get | list | history | available | setClock => rfl
  | setPublisher => cases service

theorem withFails_run {op : Operation} (sets : op.setsPublisher = true) (d : Desk) (fails : Bool) :
    (op.run d).2.withFails fails = d.withFails fails := by
  cases op with
  | setPublisher => rfl
  | create | update | delete | reserve | confirm | release | purge | expire | sweep | get | list
  | history | available | check | setClock => cases sets

theorem services_cons (op : Operation) (ops : List Operation) :
    Operation.services (op :: ops) =
      if op.setsPublisher then Operation.services ops else op :: Operation.services ops := by
  cases sets : op.setsPublisher <;> simp [Operation.services, sets]

theorem answers_cons (d : Desk) (op : Operation) (ops : List Operation) :
    d.answers (op :: ops) =
      if op.setsPublisher then (op.run d).2.answers ops
      else (op, (op.run d).1) :: (op.run d).2.answers ops := by
  cases sets : op.setsPublisher <;> simp [answers, Operation.runAll, sets]

/-- The desk after operations is that after the services among them, but for whether the publisher
fails at last. -/
theorem after_services (d : Desk) (ops : List Operation) (fails : Bool) :
    (d.after ops).withFails fails = (d.withFails fails).after (Operation.services ops) := by
  induction ops generalizing d with
  | nil => rfl
  | cons op ops ih =>
    rw [services_cons, after_cons, ih]
    cases sets : op.setsPublisher with
    | true => rw [withFails_run sets, if_pos rfl]
    | false =>
      rw [if_neg (by decide), after_cons, run_withFails sets]
      rfl

theorem answers_services (d : Desk) (ops : List Operation) (fails : Bool) :
    d.answers ops = (d.withFails fails).answers (Operation.services ops) := by
  induction ops generalizing d with
  | nil => rfl
  | cons op ops ih =>
    rw [services_cons, answers_cons, ih]
    cases sets : op.setsPublisher with
    | true => rw [withFails_run sets, if_pos rfl, if_pos rfl]
    | false =>
      rw [if_neg (by decide), if_neg (by decide), answers_cons, sets, if_neg (by decide),
        run_withFails sets]
      rfl

/-- Runs with the same services lead to the same desk, but for the publisher's failing, and to the
same answers, whatever the publisher does in them. -/
theorem run_indifferent (now : Instant) (source : Nat → Uuid) {ops ops' : List Operation}
    (same : Operation.services ops' = Operation.services ops) (fails fails' : Bool) :
    ((opened now source fails').after ops').withFails false =
        ((opened now source fails).after ops).withFails false ∧
      (opened now source fails').answers ops' = (opened now source fails).answers ops := by
  constructor
  · rw [after_services, after_services, same]
    rfl
  · rw [answers_services _ _ false, answers_services (opened now source fails) ops false, same]
    rfl

end Desk

end BoxOffice
