import BoxOffice.Operation
import BoxOffice.Proofs.Concluding
import BoxOffice.Proofs.Holding
import BoxOffice.Proofs.Writing

/-!
Effects. An operation on a desk whose store is balanced either leaves the store as it is or has
one of a few effects, each described at once for all classes and reservations. This is the only
place where the services are opened: whatever else is to be known about runs of operations
follows from `Operation.Effect`.
-/

namespace BoxOffice

open Reservation (holds)

def Store.Resolution.operation (order : Uuid) : Store.Resolution → Operation
  | .confirm => .confirm order
  | .release => .release order

def Store.Resolution.told (order : Uuid) (ids : List Uuid) (lines : Lines) (now : Instant) :
    Store.Resolution → Event
  | .confirm => .confirmed order ids lines now
  | .release => .released order ids lines now

namespace Operation

/-- Operations that only look at the store, or do not need it. -/
def looks : Operation → Bool
  | .get _ | .list _ | .history _ | .available _ | .check _ | .setClock _ | .setPublisher _ => true
  | _ => false

/-- What an operation on a desk does to its store, with the supply it leaves, the answer it gives
and the event that it tells. -/
inductive Effect (d : Desk) (next : IdSupply) (s : Store) :
    Operation → Except Refusal Answer → Store → Option Event → Prop
  | refused {op : Operation} (refusal : Refusal) : Effect d next s op (.error refusal) s none
  | looked {op : Operation} (answer : Except Refusal Answer) (looks : op.looks = true) :
    Effect d next s op answer s none
  | created {draft : TicketClass.Draft} (valid : draft.validate = .ok ())
      (drawn : next = d.ids.draw.2)
      (free : s.nameIsTaken (draft.ticketClass d.ids.draw.1 d.now) = false) :
    Effect d next s (.create draft)
      (.ok (.ticketClass (some (draft.ticketClass d.ids.draw.1 d.now))))
      (s.putTicketClass (draft.ticketClass d.ids.draw.1 d.now)) none
  | updated {id : Uuid} {changes : TicketClass.Changes} {c : TicketClass}
      (valid : changes.validate = .ok ()) (found : s.ticketClass? id = some c)
      (applied : changes.apply c d.now = .ok (changes.merge c d.now))
      (free : s.nameIsTaken (changes.merge c d.now) = false)
      (covered : c.reserved + c.sold ≤ (changes.merge c d.now).total) :
    Effect d next s (.update id changes) (.ok (.ticketClass (some (changes.merge c d.now))))
      (s.putTicketClass (changes.merge c d.now)) none
  | deleted {id : Uuid} (unused : ∀ r ∈ s.reservations.rows, r.ticketClass ≠ id) :
    Effect d next s (.delete id) (.ok .done)
      { s with ticketClasses := s.ticketClasses.erase id } none
  | reserved {order : Uuid} {items : List Line} {lines : Lines} {expiresAt : Instant}
      {rows : List Reservation} (accepted : Lines.ofOrder order items = .ok lines)
      (ahead : ¬expiresAt ≤ d.now) (drawn : next = d.ids.after lines.rows)
      (rows_eq : rows = holds order expiresAt d.now d.ids lines.rows)
      (free : ∀ line ∈ lines.rows, s.CanReserve order d.now line) (can : s.CanHold rows lines) :
    Effect d next s (.reserve order items expiresAt) (.ok (.reservations rows)) (s.hold rows lines)
      (some (.reserved order (rows.map (·.id)) lines expiresAt))
  | resolved {order : Uuid} (how : Store.Resolution) {rows : List Reservation}
      (rows_eq : rows = s.reservationsOf order) (nonempty : rows ≠ [])
      (clear : rows.findSome? (how.obstacle? d.now) = none) :
    Effect d next s (how.operation order)
      (.ok (.reservations (rows.map (·.marked how.status d.now))))
      (s.conclude rows how.status d.now)
      (some (how.told order (rows.map (·.id)) (Reservation.lines rows) d.now))
  | swept {op : Operation} {size : Int} {rows : List Reservation}
      (sweeps : op = .expire size ∨ op = .sweep size)
      (rows_eq : rows = s.firstOverdue d.now (sweepLimit size)) (nonempty : rows ≠ []) :
    Effect d next s op (.ok (.count rows.length)) (s.conclude rows .expired d.now)
      (some (.expired (rows.map (·.id)) (Reservation.lines rows) d.now))
  | sweptNone {op : Operation} {size : Int} (sweeps : op = .expire size ∨ op = .sweep size)
      (empty : s.firstOverdue d.now (sweepLimit size) = []) :
    Effect d next s op (.ok (.count 0)) s none
  | purged {order : Uuid} (nonempty : s.reservationsOf order ≠ [])
      (inactive : ∀ r ∈ s.reservationsOf order, r.status ≠ .active) :
    Effect d next s (.purge order) (.ok (.count (s.reservationsOf order).length))
      (s.deleteReservationsOf order).2 none

/-- An operation has led to a store and told an event, or none. -/
structure Outcome (d : Desk) (s : Store) (op : Operation) (s' : Store) (told : Option Event) :
    Prop where
  effect : Effect d (op.run d).2.ids s op (op.run d).1 s' told
  stored : (op.run d).2.store = some s'
  published : (op.run d).2.publisher.published = d.publisher.published ++ told.toList

variable {d : Desk} {s : Store}

theorem Outcome.of_run {op : Operation} {answer : Except Refusal Answer} {d' : Desk} {s' : Store}
    {told : Option Event} (run_eq : op.run d = (answer, d'))
    (effect : Effect d d'.ids s op answer s' told) (stored : d'.store = some s')
    (published : d'.publisher.published = d.publisher.published ++ told.toList) :
    Outcome d s op s' told := by
  obtain ⟨rfl, rfl⟩ := Prod.mk.inj run_eq
  exact ⟨effect, stored, published⟩

theorem Outcome.of_refusal {op : Operation} {refusal : Refusal} {ids : IdSupply}
    (stored : d.store = some s) (run_eq : op.run d = (.error refusal, { d with ids := ids })) :
    Outcome d s op s none :=
  .of_run run_eq (.refused refusal) stored (List.append_nil _).symm

theorem change_eq {α : Type} (stored : d.store = some s)
    (answer : Store → Except Refusal (α × Store)) :
    d.change answer =
      match answer s with
      | .ok (a, s') => (.ok a, { d with store := some s' })
      | .error refusal => (.error refusal, d) := by
  simp only [Desk.change, Desk.reach, stored]
  rfl

/-- A change of the store has an effect when it succeeds, and else none. -/
theorem Outcome.of_change {α : Type} {op : Operation} {toAnswer : α → Answer} {ids : IdSupply}
    {answer : Store → Except Refusal (α × Store)} (stored : d.store = some s)
    (run_eq : op.run d = answered toAnswer ({ d with ids := ids }.change answer))
    (effect : ∀ a s', answer s = .ok (a, s') → Effect d ids s op (.ok (toAnswer a)) s' none) :
    ∃ s', Outcome d s op s' none := by
  have stored' : ({ d with ids := ids } : Desk).store = some s := stored
  rw [change_eq stored'] at run_eq
  cases result : answer s with
  | error refusal =>
    rw [result] at run_eq
    exact ⟨s, .of_refusal stored run_eq⟩
  | ok result' =>
    obtain ⟨a, s'⟩ := result'
    rw [result] at run_eq
    exact ⟨s', .of_run run_eq (effect a s' result) rfl (List.append_nil _).symm⟩

/-! ### Ticket classes -/

theorem insertTicketClass_eq (s : Store) (c : TicketClass) :
    s.insertTicketClass c =
      if s.nameIsTaken c then .error (.duplicate .className) else .ok (s.putTicketClass c) := by
  simp only [Store.insertTicketClass, Store.checkName]
  split <;> rfl

theorem outcome_create (stored : d.store = some s) (draft : TicketClass.Draft) :
    ∃ s', Outcome d s (.create draft) s' none := by
  cases valid : draft.validate with
  | error reason =>
    have run_eq : Operation.run d (.create draft) = (.error (.invalid reason), d) := by
      simp only [run, answered, Desk.create, valid]
      rfl
    exact ⟨s, .of_refusal stored run_eq⟩
  | ok =>
    have run_eq : Operation.run d (.create draft) =
        answered (.ticketClass ∘ some) ({ d with ids := d.ids.draw.2 }.change fun s =>
          (s.insertTicketClass (draft.ticketClass d.ids.draw.1 d.now)).map fun s =>
            (draft.ticketClass d.ids.draw.1 d.now, s)) := by
      simp only [run, Desk.create, valid]
    refine Outcome.of_change stored run_eq fun c s' created => ?_
    rw [insertTicketClass_eq] at created
    split at created
    · cases created
    next free =>
      obtain ⟨rfl, rfl⟩ := Prod.mk.inj (Except.ok.inj created)
      exact .created valid rfl (by simpa using free)

theorem outcome_delete (stored : d.store = some s) (id : Uuid) :
    ∃ s', Outcome d s (.delete id) s' none := by
  have run_eq : Operation.run d (.delete id) = answered (fun _ => .done)
      ({ d with ids := d.ids }.change fun s =>
        (s.deleteTicketClass id).map fun (found : Bool × Store) => ((), found.2)) := rfl
  refine Outcome.of_change stored run_eq fun _ s' deleted => ?_
  unfold Store.deleteTicketClass at deleted
  split at deleted
  · cases deleted
  next unused =>
    obtain ⟨-, rfl⟩ := Prod.mk.inj (Except.ok.inj deleted)
    exact .deleted fun r member same => unused (List.any_eq_true.2 ⟨r, member, by simpa using same⟩)

theorem merge_of_apply {changes : TicketClass.Changes} {c c' : TicketClass} {now : Instant}
    (applied : changes.apply c now = .ok c') : c' = changes.merge c now := by
  unfold TicketClass.Changes.apply at applied
  obtain ⟨-, -, applied⟩ := bind_eq_ok_iff.1 applied
  obtain ⟨-, -, applied⟩ := bind_eq_ok_iff.1 applied
  exact (Except.ok.inj applied).symm

/-- Only the fields that can be changed are written, and a change keeps all others. -/
theorem updateTicketClass_merge {changes : TicketClass.Changes} {c : TicketClass} {now : Instant}
    {s' : Store} (found : s.ticketClass? c.id = some c)
    (written : s.updateTicketClass (changes.merge c now) = .ok s') :
    s.nameIsTaken (changes.merge c now) = false ∧
      c.reserved + c.sold ≤ (changes.merge c now).total ∧
      s' = s.putTicketClass (changes.merge c now) := by
  obtain ⟨free, current, found', covers, rfl⟩ := Store.updateTicketClass_eq_ok written
  have sameId : (changes.merge c now).id = c.id := rfl
  rw [sameId, found] at found'
  obtain rfl := Option.some.inj found'
  exact ⟨free, covers, rfl⟩

theorem outcome_update (stored : d.store = some s) (id : Uuid) (changes : TicketClass.Changes) :
    ∃ s', Outcome d s (.update id changes) s' none := by
  cases valid : changes.validate with
  | error reason =>
    have run_eq : Operation.run d (.update id changes) = (.error (.invalid reason), d) := by
      simp only [run, answered, Desk.update, valid]
      rfl
    exact ⟨s, .of_refusal stored run_eq⟩
  | ok =>
    have run_eq : Operation.run d (.update id changes) =
        answered (.ticketClass ∘ some) ({ d with ids := d.ids }.change fun s => do
          let c ← s.ticketClass id
          let c ← changes.apply c d.now
          let s ← s.updateTicketClass c
          return (c, s)) := by
      simp only [run, Desk.update, valid]
    refine Outcome.of_change stored run_eq fun c s' updated => ?_
    obtain ⟨old, looked, updated⟩ := bind_eq_ok_iff.1 updated
    obtain ⟨changed, applied, updated⟩ := bind_eq_ok_iff.1 updated
    obtain ⟨written, wrote, updated⟩ := bind_eq_ok_iff.1 updated
    obtain ⟨rfl, rfl⟩ := Prod.mk.inj (Except.ok.inj updated)
    have found : s.ticketClass? id = some old := by
      simp only [Store.ticketClass] at looked
      split at looked
      next found => exact found.trans (congrArg some (Except.ok.inj looked))
      next => cases looked
    have sameId : old.id = id := Table.key_of_find? found
    obtain rfl := merge_of_apply applied
    obtain ⟨free, covered, rfl⟩ := updateTicketClass_merge (sameId.symm ▸ found) wrote
    exact .updated valid found applied free covered

/-! ### Orders -/

theorem outcome_purge (stored : d.store = some s) (order : Uuid) :
    ∃ s', Outcome d s (.purge order) s' none := by
  have run_eq : Operation.run d (.purge order) =
      answered .count ({ d with ids := d.ids }.change fun s => s.purge order) := rfl
  refine Outcome.of_change stored run_eq fun count s' purged => ?_
  unfold Store.purge at purged
  simp only at purged
  split at purged
  · cases purged
  next nonempty =>
    split at purged
    · cases purged
    next none =>
      obtain ⟨rfl, rfl⟩ := Prod.mk.inj (Except.ok.inj purged)
      refine .purged (by simpa using nonempty) fun r listed active => ?_
      have inactive := List.find?_eq_none.1 none r listed
      exact inactive (by simpa [Reservation.isActive] using active)

theorem outcome_reserve (stored : d.store = some s) (order : Uuid) (items : List Line)
    (expiresAt : Instant) (issued : ∀ r ∈ s.reservations.rows, d.ids.Issued r.id)
    (noRepeat : (Operation.run d (.reserve order items expiresAt)).2.ids.NoRepeat) :
    ∃ s' told, Outcome d s (.reserve order items expiresAt) s' told := by
  cases accepted : Lines.ofOrder order items with
  | error reason =>
    have run_eq : Operation.run d (.reserve order items expiresAt) =
        (.error (.invalid reason), d) := by
      simp only [run, answered, Desk.reserve, accepted]
      rfl
    exact ⟨s, none, .of_refusal stored run_eq⟩
  | ok lines =>
    by_cases late : expiresAt ≤ d.now
    · have run_eq : Operation.run d (.reserve order items expiresAt) =
          (.error (.invalid .deadlineNotAhead), d) := by
        simp only [run, answered, Desk.reserve, accepted, if_pos late]
        rfl
      exact ⟨s, none, .of_refusal stored run_eq⟩
    · rcases result : s.reserve d.ids order lines expiresAt d.now with ⟨refusal | ⟨rows, s'⟩, ids⟩
      · -- The identifiers drawn for the lines before the refusal are lost, and nothing else.
        have run_eq : Operation.run d (.reserve order items expiresAt) =
            (.error refusal, { d with ids := ids }) := by
          simp only [run, answered, Desk.reserve, accepted, if_neg late, stored, result]
          rfl
        exact ⟨s, none, .of_refusal stored run_eq⟩
      · have run_eq : Operation.run d (.reserve order items expiresAt) =
            (.ok (.reservations rows), { d with store := some s', ids := ids }.publish
              (.reserved order (rows.map Reservation.id) lines expiresAt)) := by
          simp only [run, answered, Desk.reserve, accepted, if_neg late, stored, result]
          rfl
        have noRepeat : ids.NoRepeat := by
          rw [run_eq] at noRepeat
          exact noRepeat
        obtain ⟨free, rfl, rfl, rfl⟩ := Store.reserve_eq_of_ok issued result noRepeat
        have can := Store.canHold_holds expiresAt issued noRepeat
          (Lines.positive_of_ofOrder accepted) free
        exact ⟨_, _, .of_run run_eq (.reserved accepted late rfl rfl free can) rfl rfl⟩

def concluded (d : Desk) (s : Store) (rows : List Reservation) (status : Reservation.Status)
    (told : List Uuid → Lines → Event) : Desk :=
  Desk.publish { d with store := some (s.conclude rows status d.now) }
    (told (rows.map (·.id)) (Reservation.lines rows))

/-- What resolving an order answers, and the desk after it. -/
theorem resolve_eq (stored : d.store = some s) (balanced : s.Balanced) (how : Store.Resolution)
    (order : Uuid) (told : List Uuid → Lines → Event) :
    d.resolve how order told =
      if s.reservationsOf order = [] then (.error (.noOrder order), d)
      else
        match (s.reservationsOf order).findSome? (how.obstacle? d.now) with
        | some obstacle => (.error (.obstructed obstacle), d)
        | none =>
          (.ok ((s.reservationsOf order).map (·.marked how.status d.now)),
            concluded d s (s.reservationsOf order) how.status told) := by
  rw [Desk.resolve, change_eq stored, balanced.resolve_eq]
  by_cases empty : s.reservationsOf order = []
  · rw [if_pos empty, if_pos empty]
  · rw [if_neg empty, if_neg empty]
    cases (s.reservationsOf order).findSome? (how.obstacle? d.now) with
    | some obstacle => rfl
    | none =>
      simp only [Reservation.map_id_marked]
      rfl

/-- How many reservations expiring counts, and the desk after it. -/
theorem expire_eq (stored : d.store = some s) (balanced : s.Balanced) (size : Int) :
    d.expire size =
      if s.firstOverdue d.now (sweepLimit size) = [] then (.ok 0, d)
      else
        (.ok (s.firstOverdue d.now (sweepLimit size)).length,
          concluded d s (s.firstOverdue d.now (sweepLimit size)) .expired fun ids lines =>
            .expired ids lines d.now) := by
  rw [Desk.expire, change_eq stored, balanced.expire_eq]
  cases s.firstOverdue d.now (sweepLimit size) with
  | nil =>
    simp only [Store.conclude_nil, ← stored]
    rfl
  | cons r rows =>
    simp only [concluded, List.map_cons, List.length_map, List.length_cons]
    rfl

theorem outcome_resolve (stored : d.store = some s) (balanced : s.Balanced)
    (how : Store.Resolution) (order : Uuid) :
    ∃ s' told, Outcome d s (how.operation order) s' told := by
  have run_eq : Operation.run d (how.operation order) =
      answered .reservations
        (d.resolve how order fun ids lines => how.told order ids lines d.now) := by
    cases how <;> rfl
  rw [resolve_eq stored balanced] at run_eq
  by_cases empty : s.reservationsOf order = []
  · rw [if_pos empty] at run_eq
    exact ⟨s, none, .of_refusal stored run_eq⟩
  · rw [if_neg empty] at run_eq
    cases clear : (s.reservationsOf order).findSome? (how.obstacle? d.now) with
    | some obstacle =>
      rw [clear] at run_eq
      exact ⟨s, none, .of_refusal stored run_eq⟩
    | none =>
      rw [clear] at run_eq
      exact ⟨_, _, .of_run run_eq (.resolved how rfl empty clear) rfl rfl⟩

theorem outcome_expire (stored : d.store = some s) (balanced : s.Balanced) (size : Int) :
    ∃ s' told, Outcome d s (.expire size) s' told := by
  have run_eq : Operation.run d (.expire size) = answered .count (d.expire size) := rfl
  rw [expire_eq stored balanced] at run_eq
  by_cases empty : s.firstOverdue d.now (sweepLimit size) = []
  · rw [if_pos empty] at run_eq
    exact ⟨s, none, .of_run run_eq (.sweptNone (.inl rfl) empty) stored (List.append_nil _).symm⟩
  · rw [if_neg empty] at run_eq
    exact ⟨_, _, .of_run run_eq (.swept (.inl rfl) rfl empty) rfl rfl⟩

theorem outcome_sweep (stored : d.store = some s) (balanced : s.Balanced) (size : Int) :
    ∃ s' told, Outcome d s (.sweep size) s' told := by
  have run_eq : Operation.run d (.sweep size) = (.ok (.count (d.sweep size).1), (d.sweep size).2) :=
    rfl
  rw [Desk.sweep, expire_eq stored balanced] at run_eq
  by_cases empty : s.firstOverdue d.now (sweepLimit size) = []
  · rw [if_pos empty] at run_eq
    exact ⟨s, none, .of_run run_eq (.sweptNone (.inr rfl) empty) stored (List.append_nil _).symm⟩
  · rw [if_neg empty] at run_eq
    exact ⟨_, _, .of_run run_eq (.swept (.inr rfl) rfl empty) rfl rfl⟩

/-! ### Any operation -/

theorem check_desk (d : Desk) (items : List Line) : (d.check items).2 = d := by
  unfold Desk.check
  split
  · rfl
  · rfl
  · split <;> rfl

/-- A sweep differs from expiring in its answer only. -/
theorem sweep_desk (d : Desk) (size : Int) : (d.sweep size).2 = (d.expire size).2 := by
  unfold Desk.sweep
  split <;> simp [*]

/-- Operations that look leave store and events as they are. -/
theorem outcome_of_looks {op : Operation} (stored : d.store = some s) (looks : op.looks = true) :
    Outcome d s op s none := by
  have effect : Effect d (op.run d).2.ids s op (op.run d).1 s none := .looked _ looks
  cases op with
  | get | list | history | available | setClock | setPublisher =>
    exact ⟨effect, stored, (List.append_nil _).symm⟩
  | check items =>
    have same : (Operation.run d (.check items)).2 = d := check_desk d items
    exact ⟨effect, by rw [same, stored], by rw [same]; exact (List.append_nil _).symm⟩
  | create | update | delete | reserve | confirm | release | purge | expire | sweep => cases looks

/-- Every operation on a balanced store has one of the effects. -/
theorem exists_outcome (stored : d.store = some s) (balanced : s.Balanced)
    (issued : ∀ r ∈ s.reservations.rows, d.ids.Issued r.id) (op : Operation)
    (noRepeat : (op.run d).2.ids.NoRepeat) : ∃ s' told, Outcome d s op s' told := by
  cases op with
  | create draft =>
    obtain ⟨s', outcome⟩ := outcome_create stored draft
    exact ⟨s', none, outcome⟩
  | update id changes =>
    obtain ⟨s', outcome⟩ := outcome_update stored id changes
    exact ⟨s', none, outcome⟩
  | delete id =>
    obtain ⟨s', outcome⟩ := outcome_delete stored id
    exact ⟨s', none, outcome⟩
  | reserve order items expiresAt =>
    exact outcome_reserve stored order items expiresAt issued noRepeat
  | confirm order => exact outcome_resolve stored balanced .confirm order
  | release order => exact outcome_resolve stored balanced .release order
  | purge order =>
    obtain ⟨s', outcome⟩ := outcome_purge stored order
    exact ⟨s', none, outcome⟩
  | expire size => exact outcome_expire stored balanced size
  | sweep size => exact outcome_sweep stored balanced size
  | get | list | history | available | check | setClock | setPublisher =>
    exact ⟨s, none, outcome_of_looks stored rfl⟩

@[simp] theorem ids_change {α : Type} (d : Desk) (answer : Store → Except Refusal (α × Store)) :
    (d.change answer).2.ids = d.ids := by
  unfold Desk.change
  split <;> rfl

theorem ids_resolve (d : Desk) (how : Store.Resolution) (order : Uuid)
    (told : List Uuid → Lines → Event) : (d.resolve how order told).2.ids = d.ids := by
  have same := ids_change d fun s => s.resolve how order d.now
  unfold Desk.resolve
  split
  next result => rwa [result] at same
  next result =>
    rw [result] at same
    exact same

theorem ids_expire (d : Desk) (size : Int) : (d.expire size).2.ids = d.ids := by
  have same := ids_change d fun s => s.expire (sweepLimit size) d.now
  unfold Desk.expire
  split
  next result => rwa [result] at same
  next result => rwa [result] at same
  next result =>
    rw [result] at same
    exact same

/-- Operations only draw from the supply. -/
theorem continues_run (d : Desk) (op : Operation) : d.ids.Continues (op.run d).2.ids := by
  have continues_of_eq {ids : IdSupply} (same : ids = d.ids) : d.ids.Continues ids :=
    same ▸ .refl d.ids
  cases op with
  | create draft =>
    show d.ids.Continues (d.create draft).2.ids
    unfold Desk.create
    split
    · exact .refl d.ids
    · rw [ids_change]
      exact d.ids.continues_draw
  | update id changes =>
    show d.ids.Continues (d.update id changes).2.ids
    unfold Desk.update
    split
    · exact .refl d.ids
    · exact continues_of_eq (ids_change ..)
  | reserve order items expiresAt =>
    show d.ids.Continues (d.reserve order items expiresAt).2.ids
    unfold Desk.reserve
    split
    · exact .refl d.ids
    next lines accepted =>
      split
      · exact .refl d.ids
      · split
        · exact .refl d.ids
        next s stored =>
          have draws := (Store.reserveLines_draws order expiresAt d.now lines.rows s d.ids).1
          split
          next result =>
            rw [Store.reserve] at result
            rwa [result] at draws
          next result =>
            rw [Store.reserve] at result
            rw [result] at draws
            exact draws
  | delete id => exact continues_of_eq (ids_change ..)
  | purge order => exact continues_of_eq (ids_change ..)
  | confirm order => exact continues_of_eq (ids_resolve ..)
  | release order => exact continues_of_eq (ids_resolve ..)
  | expire size => exact continues_of_eq (ids_expire d size)
  | sweep size =>
    exact continues_of_eq ((congrArg Desk.ids (sweep_desk d size)).trans (ids_expire d size))
  | check items => exact continues_of_eq (congrArg Desk.ids (check_desk d items))
  | get | list | history | available | setClock | setPublisher => exact .refl d.ids

end Operation

end BoxOffice
