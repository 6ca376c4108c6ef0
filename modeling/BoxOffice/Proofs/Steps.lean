import BoxOffice.Proofs.Effect
import BoxOffice.Proofs.Rollback

/-!
Steps on a store. Whatever a store is like, a step of a transaction either leaves it as it is or
writes to it in one of a few ways, behind the check that is made for it. `Step.Effect` says this
once for everything that steps keep. A transaction that is kept is its steps, one after the other,
and one that is given up is nothing.
-/

namespace BoxOffice

namespace Store

variable {s s' : Store} {id : Uuid}

/-! ### Classes that stay -/

def HasClass (s : Store) (id : Uuid) (P : TicketClass → Prop) : Prop :=
  ∃ c, s.ticketClass? id = some c ∧ P c

section

variable {P : TicketClass → Prop} {c : TicketClass}

theorem HasClass.of_eq (has : s.HasClass id P) (same : s'.ticketClasses = s.ticketClasses) :
    s'.HasClass id P := by
  obtain ⟨c, found, holds⟩ := has
  refine ⟨c, ?_, holds⟩
  rw [ticketClass?, same]
  exact found

theorem HasClass.put_other (has : s.HasClass id P) (other : c.id ≠ id) :
    (s.putTicketClass c).HasClass id P := by
  obtain ⟨x, found, holds⟩ := has
  refine ⟨x, ?_, holds⟩
  rw [ticketClass?_put, if_neg other]
  exact found

theorem HasClass.put_changed (has : s.HasClass id P) {old : TicketClass} {key : Uuid}
    (found : s.ticketClass? key = some old) (sameId : c.id = old.id) (keeps : P old → P c) :
    (s.putTicketClass c).HasClass id P := by
  by_cases here : c.id = id
  · obtain ⟨x, found', holds⟩ := has
    have oldId : old.id = key := Table.key_of_find? found
    rw [← here, sameId, oldId, found] at found'
    obtain rfl := Option.some.inj found'
    exact ⟨c, by rw [ticketClass?_put, if_pos here], keeps holds⟩
  · exact has.put_other here

theorem HasClass.erase_other (has : s.HasClass id P) {other : Uuid} (apart : other ≠ id) :
    HasClass { s with ticketClasses := s.ticketClasses.erase other } id P := by
  obtain ⟨x, found, holds⟩ := has
  refine ⟨x, ?_, holds⟩
  rw [ticketClass?, Table.find?_erase, if_neg (Ne.symm apart)]
  exact found

end

/-! ### One step -/

namespace Step

/-- The quantity that a step is about; zero where it is about none. -/
def quantity : Step → Quantity
  | .claim _ quantity | .giveBack _ quantity | .settle _ quantity | .claimSeen _ quantity
  | .claimFound _ quantity | .giveBackFound _ quantity | .settleFound _ quantity => quantity
  | _ => 0

inductive Effect (s : Store) : Step → Store → Prop
  | unchanged {step : Step} : Effect s step s
  | updated {c current : TicketClass} (free : s.nameIsTaken c = false)
      (found : s.ticketClass? c.id = some current)
      (covers : current.reserved + current.sold ≤ c.total) :
    Effect s (.updateTicketClass c) (s.putTicketClass (current.rewritten c))
  | claimed {step : Step} {id : Uuid} {c : TicketClass} (found : s.ticketClass? id = some c)
      (room : step.quantity ≤ c.available) :
    Effect s step (s.putTicketClass (c.claim step.quantity))
  | givenBack {step : Step} {id : Uuid} {c : TicketClass} (found : s.ticketClass? id = some c) :
    Effect s step (s.putTicketClass (c.giveBack step.quantity))
  | settled {step : Step} {id : Uuid} {c : TicketClass} (found : s.ticketClass? id = some c)
      (enough : step.quantity ≤ c.reserved) :
    Effect s step (s.putTicketClass (c.settle step.quantity))
  | inserted {r : Reservation} (known : ∃ c, s.ticketClass? r.ticketClass = some c)
      (single : s.hasLine r.order r.ticketClass = false) :
    Effect s (.insertReservation r) (s.putReservation r)
  | marked {ids : List Uuid} {status : Reservation.Status} {now : Instant} :
    Effect s (.mark ids status now) (s.mark status now ids).2
  | deleted {order : Uuid} :
    Effect s (.deleteReservationsOf order) (s.deleteReservationsOf order).2

theorem Effect.of_guarded {step : Step} {next : Option Store}
    (effect : ∀ s', next = some s' → Effect s step s') : Effect s step (s.guarded next).2 := by
  cases next with
  | none => exact .unchanged
  | some s' => exact effect s' rfl

theorem Effect.of_silent {step : Step} {result : Except Refusal Store}
    (effect : ∀ s', result = .ok s' → Effect s step s') : Effect s step (s.silent result).2 := by
  cases result with
  | error refusal => exact .unchanged
  | ok s' => exact effect s' rfl

theorem Effect.of_claim? {step : Step} (claimed : s.claim? id step.quantity = some s') :
    Effect s step s' := by
  obtain ⟨c, found, room, rfl⟩ := claim?_eq_some claimed
  exact .claimed found room

theorem Effect.of_giveBack? {step : Step} (givenBack : s.giveBack? id step.quantity = some s') :
    Effect s step s' := by
  obtain ⟨c, found, rfl⟩ := giveBack?_eq_some givenBack
  exact .givenBack found

theorem Effect.of_settle? {step : Step} (settled : s.settle? id step.quantity = some s') :
    Effect s step s' := by
  obtain ⟨c, found, enough, rfl⟩ := settle?_eq_some settled
  exact .settled found enough

theorem effect (s : Store) (step : Step) : Effect s step (step.run s).2 := by
  cases step with
  | ticketClass | reservationsOf | firstOverdue => exact .unchanged
  | updateTicketClass c =>
    refine .of_silent fun s' written => ?_
    obtain ⟨free, current, found, covers, rfl⟩ := updateTicketClass_eq_ok written
    exact .updated free found covers
  | claim id quantity => exact .of_guarded fun s' claimed => .of_claim? claimed
  | giveBack id quantity => exact .of_guarded fun s' givenBack => .of_giveBack? givenBack
  | settle id quantity => exact .of_guarded fun s' settled => .of_settle? settled
  | claimSeen seen quantity =>
    exact .of_silent fun s' claimed => .of_claim? (claim?_of_claim claimed)
  | claimFound id quantity =>
    refine .of_silent fun s' claimed => ?_
    obtain ⟨c, -, claimed⟩ := bind_eq_ok_iff.1 claimed
    exact .of_claim? (claim?_of_claim claimed)
  | giveBackFound id quantity =>
    exact .of_silent fun s' givenBack => .of_giveBack? (giveBack?_of_giveBack givenBack)
  | settleFound id quantity =>
    exact .of_silent fun s' settled => .of_settle? (settle?_of_settle settled)
  | insertReservation r =>
    refine .of_silent fun s' inserted => ?_
    obtain ⟨known, single, rfl⟩ := insertReservation_eq_ok inserted
    exact .inserted known single
  | mark ids status now => exact .marked
  | deleteReservationsOf order => exact .deleted

/-- What a step answers when it did not do what it was to do. -/
def Refused (answer : Except Refusal Answer) : Prop :=
  answer = .ok (.flag false) ∨ ∃ refusal, answer = .error refusal

theorem run_of_refused {step : Step} (refused : Refused (step.run s).1) : (step.run s).2 = s := by
  have guarded {next : Option Store} (refused : Refused (s.guarded next).1) :
      (s.guarded next).2 = s := by
    cases next <;> simp_all [Refused, Store.guarded]
  have silent {result : Except Refusal Store} (refused : Refused (s.silent result).1) :
      (s.silent result).2 = s := by
    cases result <;> simp_all [Refused, Store.silent]
  cases step with
  | claim | giveBack | settle => exact guarded refused
  | updateTicketClass | claimSeen | claimFound | giveBackFound | settleFound | insertReservation =>
    exact silent refused
  | mark | deleteReservationsOf => simp [Refused, run, counted] at refused
  | ticketClass | reservationsOf | firstOverdue => rfl

end Step

/-! ### Steps one after the other -/

def afterSteps (s : Store) (steps : List Step) : Store :=
  ((Transaction.start s).takeAll steps).2.store

theorem store_takeAll (t : Transaction) (steps : List Step) :
    (t.takeAll steps).2.store = t.store.afterSteps steps := by
  induction steps generalizing t with
  | nil => rfl
  | cons step steps ih =>
    have first := ih (t.take step).2
    have again := ih ((Transaction.start t.store).take step).2
    exact first.trans again.symm

@[simp] theorem afterSteps_nil (s : Store) : s.afterSteps [] = s := rfl

@[simp] theorem afterSteps_cons (s : Store) (step : Step) (steps : List Step) :
    s.afterSteps (step :: steps) = (step.run s).2.afterSteps steps :=
  store_takeAll ((Transaction.start s).take step).2 steps

theorem afterSteps_induction {P : Store → Prop} {steps : List Step} (start : P s)
    (next : ∀ s, ∀ step ∈ steps, P s → P (step.run s).2) : P (s.afterSteps steps) := by
  induction steps generalizing s with
  | nil => exact start
  | cons step steps ih =>
    rw [afterSteps_cons]
    exact ih (next s step List.mem_cons_self start) fun s later member =>
      next s later (List.mem_cons_of_mem _ member)

/-! ### Accesses -/

namespace Access

inductive Effect (s : Store) : Access → Store → Prop
  | unchanged {access : Access} : Effect s access s
  | inserted {c : TicketClass} (free : s.nameIsTaken c = false) :
    Effect s (.insertTicketClass c) (s.putTicketClass c)
  | deleted {id : Uuid} (unused : ∀ r ∈ s.reservations.rows, r.ticketClass ≠ id) :
    Effect s (.deleteTicketClass id) { s with ticketClasses := s.ticketClasses.erase id }
  | kept {steps : List Step} : Effect s (.transaction steps true) (s.afterSteps steps)

theorem effect (s : Store) (access : Access) : Effect s access (access.run s).2 := by
  cases access with
  | ticketClass | history => exact .unchanged
  | insertTicketClass c =>
    show Effect s _ (s.silent (s.insertTicketClass c)).2
    rw [Operation.insertTicketClass_eq]
    cases free : s.nameIsTaken c with
    | true => exact .unchanged
    | false => exact .inserted free
  | deleteTicketClass id =>
    unfold run Store.deleteTicketClass
    by_cases used : s.reservations.rows.any (·.ticketClass = id)
    · simp only [used, if_true]
      exact .unchanged
    · simp only [used]
      exact .deleted (by simpa using used)
  | transaction steps commit =>
    cases commit with
    | true => exact .kept
    | false =>
      have givenUp : (s.transact steps false).2 = s := Transaction.finish_takeAll s steps
      show Effect s _ (s.transact steps false).2
      rw [givenUp]
      exact .unchanged

theorem run_of_refused {access : Access} {refusal : Refusal}
    (refused : (access.run s).1 = .one (.error refusal)) : (access.run s).2 = s := by
  cases access with
  | ticketClass | history => rfl
  | insertTicketClass c =>
    simp only [run] at refused ⊢
    cases inserted : s.insertTicketClass c with
    | error => rfl
    | ok s' => simp [inserted, silent] at refused
  | deleteTicketClass id =>
    simp only [run] at refused ⊢
    cases deleted : s.deleteTicketClass id with
    | error => rfl
    | ok result => simp [deleted] at refused
  | transaction steps commit => simp [run] at refused

/-- The class with an identifier is added or deleted as a whole. -/
def Replaces (id : Uuid) : Access → Prop
  | .insertTicketClass c => c.id = id
  | .deleteTicketClass other => other = id
  | _ => False

theorem runAll_induction {P : Store → Prop} {script : List Access} (start : P s)
    (next : ∀ s, ∀ access ∈ script, P s → P (access.run s).2) : P (runAll s script).2 := by
  induction script generalizing s with
  | nil => exact start
  | cons access script ih =>
    exact ih (next s access List.mem_cons_self start) fun s later member =>
      next s later (List.mem_cons_of_mem _ member)

end Access

/-! ### A store -/

def seats : TicketClass := (Concert.draft "Seats").ticketClass (.ofNat 1) Concert.noon

def hall : Store := Store.empty.putTicketClass seats

end Store

end BoxOffice
