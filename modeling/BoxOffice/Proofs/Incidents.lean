import BoxOffice.Fault
import BoxOffice.Operation

/-!
Incidents. As long as the store can be reached, every refusal is an outcome that clients have to
expect: nothing that a service does with a store, whatever state it is in, ends in an incident.
-/

namespace BoxOffice

/-- What clients have to expect is no failure of the server. -/
theorem Fault.status_lt_iff {f : Fault} : f.status < 500 ↔ f.isExpected = true := by
  cases f <;> simp [status, isExpected]

def Expected {α : Type} (result : Except Refusal α) : Prop :=
  ∀ refusal, result = .error refusal → refusal.fault.isExpected = true

section

variable {α β : Type}

theorem expected_ok (a : α) : Expected (.ok a) := fun _ refused => by cases refused

theorem expected_error {refusal : Refusal} (expected : refusal.fault.isExpected = true) :
    Expected (.error refusal : Except Refusal α) := fun _ refused =>
  Except.error.inj refused ▸ expected

theorem Expected.bind {first : Except Refusal α} {next : α → Except Refusal β}
    (expected : Expected first) (rest : ∀ a, Expected (next a)) : Expected (first >>= next) := by
  cases first with
  | ok a => exact rest a
  | error refusal => exact expected_error (expected refusal rfl)

theorem Expected.map {result : Except Refusal α} (expected : Expected result) (f : α → β) :
    Expected (result.map f) := by
  cases result with
  | ok a => exact expected_ok (f a)
  | error refusal => exact expected_error (expected refusal rfl)

theorem Expected.ite {condition : Prop} [Decidable condition] {yes no : Except Refusal α}
    (expectedYes : Expected yes) (expectedNo : Expected no) :
    Expected (if condition then yes else no) := by
  split
  · exact expectedYes
  · exact expectedNo

theorem expected_foldlM {step : β → α → Except Refusal β} (expected : ∀ b a, Expected (step b a))
    (b : β) (list : List α) : Expected (list.foldlM step b) := by
  induction list generalizing b with
  | nil => exact expected_ok b
  | cons a list ih =>
    rw [List.foldlM_cons]
    exact (expected b a).bind ih

end

/-! ### Stores -/

namespace Store

theorem expected_ticketClass (s : Store) (id : Uuid) : Expected (s.ticketClass id) := by
  unfold ticketClass
  split
  · exact expected_ok _
  · exact expected_error rfl

theorem expected_checkName (s : Store) (c : TicketClass) : Expected (s.checkName c) :=
  .ite (expected_error rfl) (expected_ok _)

theorem expected_insertTicketClass (s : Store) (c : TicketClass) :
    Expected (s.insertTicketClass c) :=
  (s.expected_checkName c).bind fun _ => expected_ok _

theorem expected_deleteTicketClass (s : Store) (id : Uuid) : Expected (s.deleteTicketClass id) :=
  .ite (expected_error rfl) (expected_ok _)

theorem expected_updateTicketClass (s : Store) (c : TicketClass) :
    Expected (s.updateTicketClass c) :=
  (s.expected_checkName c).bind fun _ => (s.expected_ticketClass c.id).bind fun _ =>
    .ite (expected_error rfl) (expected_ok _)

theorem expected_insertReservation (s : Store) (r : Reservation) :
    Expected (s.insertReservation r) :=
  (s.expected_ticketClass r.ticketClass).bind fun _ => .ite (expected_error rfl) (expected_ok _)

theorem expected_claim (s : Store) (seen : TicketClass) (quantity : Quantity) :
    Expected (s.claim seen quantity) := by
  refine .ite (expected_error rfl) ?_
  split
  · exact expected_ok _
  · exact expected_error rfl

theorem expected_claimLine (s : Store) (line : Line) (now : Instant) :
    Expected (s.claimLine line now) :=
  (s.expected_ticketClass line.ticketClass).bind fun c =>
    .ite (s.expected_claim c line.quantity) (expected_error rfl)

theorem expected_reserveLines (order : Uuid) (expiresAt now : Instant) (lines : List Line)
    (s : Store) (ids : IdSupply) : Expected (reserveLines order expiresAt now lines s ids).1 := by
  induction lines generalizing s ids with
  | nil => exact expected_ok _
  | cons line lines ih =>
    rw [reserveLines]
    cases claimed : s.claimLine line now with
    | error refusal => exact expected_error (s.expected_claimLine line now refusal claimed)
    | ok s' =>
      simp only
      cases inserted : s'.insertReservation
          (Reservation.hold ids.draw.1 order line expiresAt now) with
      | error refusal => exact expected_error (s'.expected_insertReservation _ refusal inserted)
      | ok s'' =>
        have rest := ih s'' ids.draw.2
        simp only
        split
        next reserved => exact expected_error (rest _ (congrArg Prod.fst reserved))
        next => exact expected_ok _

theorem expected_resolveLine (how : Resolution) (s : Store) (line : Line) :
    Expected (s.resolveLine how line) := by
  cases how with
  | confirm =>
    show Expected (s.settle line.ticketClass line.quantity)
    unfold settle
    split
    · exact expected_ok _
    · exact expected_error rfl
  | release =>
    show Expected (s.giveBack line.ticketClass line.quantity)
    unfold giveBack
    split
    · exact expected_ok _
    · exact expected_error rfl

theorem expected_transition (s : Store) (ids : List Uuid) (status : Reservation.Status)
    (now : Instant) : Expected (s.transition ids status now) :=
  .ite (expected_ok _) (expected_error rfl)

theorem expected_resolve (s : Store) (how : Resolution) (order : Uuid) (now : Instant) :
    Expected (s.resolve how order now) := by
  unfold resolve
  by_cases empty : (s.reservationsOf order).isEmpty = true
  · simp only [empty, if_true]
    exact expected_error rfl
  · simp only [empty]
    cases (s.reservationsOf order).findSome? (how.obstacle? now) with
    | some obstacle => exact expected_error rfl
    | none =>
      exact (expected_foldlM (expected_resolveLine how) s _).bind fun s =>
        (s.expected_transition _ _ _).bind fun _ => expected_ok _

theorem expected_expire (s : Store) (limit : Int) (now : Instant) :
    Expected (s.expire limit now) :=
  (expected_foldlM (expected_resolveLine .release) s _).bind fun s =>
    (s.expected_transition _ _ _).bind fun _ => expected_ok _

theorem expected_purge (s : Store) (order : Uuid) : Expected (s.purge order) := by
  refine .ite (expected_error rfl) ?_
  split
  · exact expected_error rfl
  · exact expected_ok _

end Store

/-! ### Services -/

theorem TicketClass.Changes.expected_apply (changes : TicketClass.Changes) (c : TicketClass)
    (now : Instant) : Expected (changes.apply c now) := by
  have taken : Expected (checkTaken c changes.total) := by
    unfold checkTaken
    split
    · exact .ite (expected_error rfl) (expected_ok _)
    · exact expected_ok _
  refine taken.bind fun _ => Expected.bind ?_ fun _ => expected_ok _
  cases checkWindow (changes.merge c now).saleStart (changes.merge c now).saleEnd with
  | error reason => exact expected_error rfl
  | ok => exact expected_ok _

namespace Desk

variable {α : Type} {d : Desk} {s : Store}

theorem reach_of_stored (stored : d.store = some s) : d.reach = .ok s := by
  rw [reach, stored]

theorem expected_look {answer : Store → Except Refusal α} (stored : d.store = some s)
    (expected : Expected (answer s)) : Expected (d.look answer).1 := by
  rw [look, reach_of_stored stored]
  exact expected

theorem expected_change {answer : Store → Except Refusal (α × Store)} (stored : d.store = some s)
    (expected : Expected (answer s)) : Expected (d.change answer).1 := by
  have reached : (d.reach >>= answer) = answer s := by
    rw [reach_of_stored stored]
    rfl
  rw [change, reached]
  cases result : answer s with
  | error refusal => exact expected_error (expected refusal result)
  | ok => exact expected_ok _

theorem expected_create (stored : d.store = some s) (draft : TicketClass.Draft) :
    Expected (d.create draft).1 := by
  unfold create
  split
  · exact expected_error rfl
  · exact expected_change stored ((s.expected_insertTicketClass _).map _)

theorem expected_update (stored : d.store = some s) (id : Uuid) (changes : TicketClass.Changes) :
    Expected (d.update id changes).1 := by
  unfold update
  split
  · exact expected_error rfl
  · exact expected_change stored <|
      (s.expected_ticketClass id).bind fun c => (changes.expected_apply c d.now).bind fun c =>
        (s.expected_updateTicketClass c).bind fun _ => expected_ok _

theorem expected_reserve (stored : d.store = some s) (order : Uuid) (items : List Line)
    (expiresAt : Instant) : Expected (d.reserve order items expiresAt).1 := by
  unfold reserve
  split
  · exact expected_error rfl
  next lines _ =>
    split
    · exact expected_error rfl
    · rw [stored]
      simp only
      have reserved := s.expected_reserveLines order expiresAt d.now lines.rows d.ids
      split
      next result => exact expected_error (reserved _ (congrArg Prod.fst result))
      next => exact expected_ok _

theorem expected_resolve (stored : d.store = some s) (how : Store.Resolution) (order : Uuid)
    (told : List Uuid → Lines → Event) : Expected (d.resolve how order told).1 := by
  have resolved : Expected (d.change fun s => s.resolve how order d.now).1 :=
    expected_change stored (s.expected_resolve how order d.now)
  unfold resolve
  split
  next result => exact expected_error (resolved _ (congrArg Prod.fst result))
  next => exact expected_ok _

theorem expected_expire (stored : d.store = some s) (size : Int) :
    Expected (d.expire size).1 := by
  have expired : Expected (d.change fun s => s.expire (sweepLimit size) d.now).1 :=
    expected_change stored (s.expected_expire (sweepLimit size) d.now)
  unfold expire
  split
  next result => exact expected_error (expired _ (congrArg Prod.fst result))
  next => exact expected_ok _
  next => exact expected_ok _

theorem expected_check (stored : d.store = some s) (items : List Line) :
    Expected (d.check items).1 := by
  unfold check
  split
  · exact expected_error rfl
  · exact expected_ok _
  · split
    · exact expected_ok _
    · exact expected_look stored (expected_ok _)

end Desk

/-- No operation of a desk whose store can be reached ends in an incident. -/
theorem Operation.expected_run {d : Desk} {s : Store} (stored : d.store = some s)
    (op : Operation) : Expected (op.run d).1 := by
  cases op with
  | create draft => exact (Desk.expected_create stored draft).map _
  | update id changes => exact (Desk.expected_update stored id changes).map _
  | get id => exact (Desk.expected_look stored (s.expected_ticketClass id)).map _
  | list f => exact (Desk.expected_look stored (expected_ok (s.list f))).map _
  | delete id =>
    exact (Desk.expected_change stored ((s.expected_deleteTicketClass id).map _)).map _
  | reserve order items expiresAt =>
    exact (Desk.expected_reserve stored order items expiresAt).map _
  | confirm order => exact (Desk.expected_resolve stored .confirm order _).map _
  | release order => exact (Desk.expected_resolve stored .release order _).map _
  | history order =>
    exact (Desk.expected_look stored (.ite (expected_error rfl) (expected_ok _))).map _
  | purge order => exact (Desk.expected_change stored (s.expected_purge order)).map _
  | expire size => exact (Desk.expected_expire stored size).map _
  | available id => exact (Desk.expected_look stored ((s.expected_ticketClass id).map _)).map _
  | check items => exact (Desk.expected_check stored items).map _
  | sweep | setClock | setPublisher => exact expected_ok _

end BoxOffice
