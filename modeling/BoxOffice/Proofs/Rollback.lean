import BoxOffice.Proofs.InPlace
import BoxOffice.Proofs.Runs

/-!
Refusals leave no trace. A service that is refused changes at most which identifiers are left, and
a transaction that is given up ends with the store that it was started with.
-/

namespace BoxOffice

/-! ### Transactions -/

namespace Store.Transaction

theorem before_take (t : Transaction) (step : Step) : (t.take step).2.before = t.before := rfl

/-- Steps never touch the store that was put by. -/
theorem before_takeAll (t : Transaction) (steps : List Step) :
    (t.takeAll steps).2.before = t.before := by
  induction steps generalizing t with
  | nil => rfl
  | cons step steps ih => exact (ih (t.take step).2).trans (t.before_take step)

/-- A transaction that is given up ends with the store that it was started with. -/
theorem finish_takeAll (s : Store) (steps : List Step) :
    ((start s).takeAll steps).2.finish = s := by
  rw [finish, before_takeAll]
  rfl

end Store.Transaction

namespace Operation

/-! ### Refusals -/

theorem change_of_refused {α : Type} {d : Desk} {answer : Store → Except Refusal (α × Store)}
    {refusal : Refusal} (refused : (d.change answer).1 = .error refusal) :
    (d.change answer).2 = d := by
  unfold Desk.change at refused ⊢
  split at refused
  · cases refused
  · rfl

theorem refused_of_answered {α : Type} {toAnswer : α → Answer} {result : Except Refusal α × Desk}
    {refusal : Refusal} (refused : (answered toAnswer result).1 = .error refusal) :
    result.1 = .error refusal := by
  obtain ⟨_ | _, _⟩ := result
  · exact congrArg _ (Except.error.inj refused)
  · cases refused

theorem create_of_refused {d : Desk} {draft : TicketClass.Draft} {refusal : Refusal}
    (refused : (d.create draft).1 = .error refusal) :
    ∃ ids, (d.create draft).2 = { d with ids := ids } := by
  unfold Desk.create at refused ⊢
  split
  · exact ⟨d.ids, rfl⟩
  next valid =>
    rw [valid] at refused
    exact ⟨d.ids.draw.2, change_of_refused refused⟩

theorem update_of_refused {d : Desk} {id : Uuid} {changes : TicketClass.Changes}
    {refusal : Refusal} (refused : (d.update id changes).1 = .error refusal) :
    (d.update id changes).2 = d := by
  unfold Desk.update at refused ⊢
  split
  · rfl
  next valid =>
    rw [valid] at refused
    exact change_of_refused refused

theorem reserve_of_refused {d : Desk} {order : Uuid} {items : List Line} {expiresAt : Instant}
    {refusal : Refusal} (refused : (d.reserve order items expiresAt).1 = .error refusal) :
    ∃ ids, (d.reserve order items expiresAt).2 = { d with ids := ids } := by
  obtain ⟨store, now, ids, publisher⟩ := d
  revert refused
  unfold Desk.reserve
  cases Lines.ofOrder order items with
  | error reason => exact fun _ => ⟨ids, rfl⟩
  | ok lines =>
    by_cases late : expiresAt ≤ now
    · simp only [if_pos late]
      exact fun _ => ⟨ids, rfl⟩
    · simp only [if_neg late]
      cases store with
      | none => exact fun _ => ⟨ids, rfl⟩
      | some s =>
        simp only
        rcases s.reserve ids order lines expiresAt now with ⟨_ | _, ids'⟩
        · exact fun _ => ⟨ids', rfl⟩
        · intro refused
          cases refused

theorem resolve_of_refused {d : Desk} {how : Store.Resolution} {order : Uuid}
    {told : List Uuid → Lines → Event} {refusal : Refusal}
    (refused : (d.resolve how order told).1 = .error refusal) :
    (d.resolve how order told).2 = d := by
  unfold Desk.resolve at refused ⊢
  split
  next result =>
    have unchanged := change_of_refused (congrArg Prod.fst result)
    rwa [result] at unchanged
  next result =>
    rw [result] at refused
    cases refused

theorem expire_of_refused {d : Desk} {size : Int} {refusal : Refusal}
    (refused : (d.expire size).1 = .error refusal) : (d.expire size).2 = d := by
  unfold Desk.expire at refused ⊢
  rcases result : d.change fun s => s.expire (sweepLimit size) d.now with
    ⟨_ | ⟨_ | _, _⟩, d'⟩
  · have unchanged := change_of_refused (congrArg Prod.fst result)
    rwa [result] at unchanged
  · rw [result] at refused
    cases refused
  · rw [result] at refused
    cases refused

/-- After a refusal at most some identifiers are used up. -/
theorem run_of_refused {d : Desk} {op : Operation} {refusal : Refusal}
    (refused : (op.run d).1 = .error refusal) : ∃ ids, (op.run d).2 = { d with ids := ids } := by
  cases op with
  | create draft => exact create_of_refused (refused_of_answered refused)
  | update id changes => exact ⟨d.ids, update_of_refused (refused_of_answered refused)⟩
  | delete id => exact ⟨d.ids, change_of_refused (refused_of_answered refused)⟩
  | reserve order items expiresAt => exact reserve_of_refused (refused_of_answered refused)
  | confirm order => exact ⟨d.ids, resolve_of_refused (refused_of_answered refused)⟩
  | release order => exact ⟨d.ids, resolve_of_refused (refused_of_answered refused)⟩
  | purge order => exact ⟨d.ids, change_of_refused (refused_of_answered refused)⟩
  | expire size => exact ⟨d.ids, expire_of_refused (refused_of_answered refused)⟩
  | check items => exact ⟨d.ids, check_desk d items⟩
  | get | list | history | available => exact ⟨d.ids, rfl⟩
  | sweep | setClock | setPublisher => cases refused

/-- A refusal leaves no trace: store, clock and events are as they were, and only identifiers are
used up. This is so although bookings write to the store in place and can be refused half-way, as
carried out in place they come to the same. It rests on the transaction, which puts the store back
after whatever steps were taken in it, unless they are committed. -/
theorem refusal_leaves_no_trace :
    (∀ (d : Desk) (op : Operation) (refusal : Refusal), (op.run d).1 = .error refusal →
      (op.run d).2.store = d.store ∧ (op.run d).2.publisher = d.publisher ∧
        (op.run d).2.now = d.now) ∧
    (∀ (d : Desk) (op : Operation), op.enact d = op.run d) ∧
    ∀ (s : Store) (steps : List Store.Step), (s.transact steps false).2 = s := by
  refine ⟨fun d op refusal refused => ?_, enact_eq_run, fun s steps => ?_⟩
  · obtain ⟨ids, unchanged⟩ := run_of_refused refused
    rw [unchanged]
    exact ⟨rfl, rfl, rfl⟩
  · exact Store.Transaction.finish_takeAll s steps

/-- Seats are there for the order, but not so many standing places. -/
def halfway : List Line := [⟨IdSupply.numbered 0, 2⟩, ⟨IdSupply.numbered 1, 6⟩]

/-- An order is refused at its second line. By then the tickets of the first are claimed in the
store that is written to, and afterwards the store is what it was. -/
theorem refusal_leaves_no_trace_concert :
    ∃ s lines, (Concert.opened.after (Concert.operations.take 2)).store = some s ∧
      Lines.ofOrder Concert.order halfway = .ok lines ∧
      ((Work.reserve Concert.order lines Concert.oneOClock Concert.noon
        ⟨.start s, ⟨IdSupply.numbered, 2⟩⟩).2.transaction.store.ticketClasses.rows.map
          (·.reserved)) = [2, 0] ∧
      (Operation.run (Concert.opened.after (Concert.operations.take 2))
        (.reserve Concert.order halfway Concert.oneOClock)).2.store = some s := by
  refine ⟨_, _, rfl, rfl, rfl, ?_⟩
  have refused : (Operation.run (Concert.opened.after (Concert.operations.take 2))
      (.reserve Concert.order halfway Concert.oneOClock)).1 =
        .error (.insufficientStock (IdSupply.numbered 1) 6 5) := rfl
  exact (refusal_leaves_no_trace.1 _ _ _ refused).1

end Operation

end BoxOffice
