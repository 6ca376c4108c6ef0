import BoxOffice.Proofs.Overdue
import BoxOffice.Proofs.Reserving
import BoxOffice.Proofs.Resolutions
import BoxOffice.Proofs.Submitting

/-!
Looking up what was answered. Services do not read back what they have written: the answer to a
confirmation is a patched copy of the rows as they were before, and that to an update is a class of
which the store takes over some fields only. A look at the store after them finds nothing else than
what was answered, in the order of creation.
-/

namespace BoxOffice

open Keyed (key)

/-! ### The order of creation -/

/-- Rows in strict order of their creation, and of their keys within one moment. -/
def InOrderOfCreation {α : Type} [Keyed α] (createdAt : α → Instant) (rows : List α) : Prop :=
  rows.Pairwise fun a b =>
    createdAt a < createdAt b ∨ createdAt a = createdAt b ∧ key a < key b

namespace Store

theorem createdBefore_iff {t t' : Instant} {id id' : Uuid} :
    createdBefore t id t' id' = true ↔
      t.rank < t'.rank ∨ t.rank = t'.rank ∧ id.value ≤ id'.value := by
  have same : t = t' ↔ t.rank = t'.rank := ⟨congrArg _, Instant.eq_of_rank_eq⟩
  simp only [createdBefore, Bool.or_eq_true, Bool.and_eq_true, decide_eq_true_eq, same]
  rfl

/-- Rows with different keys are sorted strictly. -/
theorem inOrderOfCreation_mergeSort {α : Type} [Keyed α] (createdAt : α → Instant) {rows : List α}
    (distinct : (rows.map key).Nodup) :
    InOrderOfCreation createdAt
      (rows.mergeSort fun a b => createdBefore (createdAt a) (key a) (createdAt b) (key b)) := by
  let before (a b : α) : Bool := createdBefore (createdAt a) (key a) (createdAt b) (key b)
  have trans (a b c : α) (ab : before a b = true) (bc : before b c = true) :
      before a c = true := by
    rw [createdBefore_iff] at *
    omega
  have total (a b : α) : (before a b || before b a) = true := by
    rw [Bool.or_eq_true, createdBefore_iff, createdBefore_iff]
    omega
  have sorted : (rows.mergeSort before).Pairwise fun a b => before a b = true :=
    List.pairwise_mergeSort trans total rows
  have apart : (rows.mergeSort before).Pairwise fun a b => key a ≠ key b := by
    rw [← List.pairwise_map (f := key) (R := (· ≠ ·))]
    exact ((List.mergeSort_perm rows before).map key).nodup_iff.2 distinct
  refine (sorted.and apart).imp fun {a b} both => ?_
  obtain ⟨notAfter, different⟩ := both
  have otherValue : (key a).value ≠ (key b).value := fun same => different (Uuid.ext same)
  rcases createdBefore_iff.1 notAfter with earlier | ⟨same, notAbove⟩
  · exact .inl earlier
  · exact .inr ⟨Instant.eq_of_rank_eq same, Nat.lt_of_le_of_ne notAbove otherValue⟩

theorem list_inOrder (s : Store) (f : TicketClass.Filter) :
    InOrderOfCreation TicketClass.createdAt (s.list f) :=
  inOrderOfCreation_mergeSort TicketClass.createdAt <|
    s.ticketClasses.nodup_keys.sublist (List.filter_sublist.map key)

theorem history_inOrder (s : Store) (order : Uuid) :
    InOrderOfCreation Reservation.createdAt (s.history order) :=
  inOrderOfCreation_mergeSort Reservation.createdAt <|
    s.reservations.nodup_keys.sublist (List.filter_sublist.map key)

/-- The history of an order holds the order's reservations and no others. -/
theorem history_perm (s : Store) (order : Uuid) :
    (s.history order).Perm (s.reservationsOf order) := List.mergeSort_perm ..

theorem nodup_history (s : Store) (order : Uuid) : (s.history order).Nodup :=
  (s.history_perm order).nodup_iff.2 (s.reservations.nodup_rows.filter _)

end Store

namespace Desk

open TicketClass (Changes Draft)

variable {d : Desk} {s : Store} {order : Uuid} {rows : List Reservation}

/-! ### What a look finds -/

/-- What the history of an order lists. An order without reservations has none. -/
def Lists (d : Desk) (order : Uuid) (rows : List Reservation) : Prop :=
  (d.history order).1 = if rows = [] then .error (.noOrder order) else .ok rows

theorem lists_history (stored : d.store = some s) (order : Uuid) :
    d.Lists order (s.history order) := by
  have looked : (d.history order).1 =
      if (s.history order).isEmpty then .error (.noOrder order) else .ok (s.history order) := by
    simp only [history, look, reach, stored]
    rfl
  simp only [Lists, looked, List.isEmpty_iff]

theorem Lists.history_eq (lists : d.Lists order rows) (nonempty : rows ≠ []) :
    (d.history order).1 = .ok rows := lists.trans (if_neg nonempty)

theorem Lists.history_eq_error (lists : d.Lists order []) :
    (d.history order).1 = .error (.noOrder order) := lists.trans (if_pos rfl)

theorem get_of_putTicketClass {c : TicketClass} (stored : d.store = some (s.putTicketClass c)) :
    (d.get c.id).1 = .ok c := by
  have found : (s.putTicketClass c).ticketClass c.id = .ok c :=
    Store.ticketClass_eq_ok_iff.2 ((Store.ticketClass?_put ..).trans (if_pos rfl))
  simp only [get, look, reach, stored]
  exact found

/-! ### What was answered -/

theorem store_of_create_eq_ok (stored : d.store = some s) {draft : Draft} {c : TicketClass}
    (created : (d.create draft).1 = .ok c) :
    (d.create draft).2.store = some (s.putTicketClass c) := by
  cases valid : draft.validate with
  | error reason =>
    rw [create_of_error valid] at created
    cases created
  | ok =>
    rw [create_of_valid stored valid] at created ⊢
    split at created
    · cases created
    next free =>
      obtain rfl := Except.ok.inj created
      rw [if_neg free]

/-- The rows that were answered for an order that is resolved are its history. -/
theorem Sound.history_of_resolved (sound : d.Sound s) {how : Store.Resolution}
    {told : List Uuid → Lines → Event} (resolved : (d.resolve how order told).1 = .ok rows) :
    ∃ listed, ((d.resolve how order told).2.history order).1 = .ok listed ∧ listed.Perm rows ∧
      InOrderOfCreation Reservation.createdAt listed := by
  have exactly := sound.exactlyResolved how order told
  obtain ⟨nonempty, -⟩ := exactly.ok_iff.1 ⟨rows, resolved⟩
  obtain ⟨s', stored, rfl, done⟩ := exactly.resolved rows resolved
  have some : s'.history order ≠ [] := by
    intro none
    have listed := s'.history_perm order
    rw [none, done.rows] at listed
    exact nonempty (List.map_eq_nil_iff.1 listed.nil_eq.symm)
  exact ⟨s'.history order, (lists_history stored order).history_eq some, s'.history_perm order,
    s'.history_inOrder order⟩

/-- The rows that were answered for an order that is reserved come to its history as new ones. -/
theorem Reserves.history_perm {d' : Desk} {s' : Store} {items : List Line} {expiresAt : Instant}
    (reserves : d.Reserves d' s s' order items expiresAt rows) :
    (s'.history order).Perm (rows ++ s.history order) := by
  have new : rows.Disjoint (s.history order) := fun r inRows inHistory =>
    reserves.new r inRows r
      (Store.mem_reservationsOf_iff.1 ((s.history_perm order).mem_iff.1 inHistory)).1 rfl
  have nodup : (rows ++ s.history order).Nodup :=
    List.nodup_append'.2 ⟨reserves.distinct.of_map _, s.nodup_history order, new⟩
  refine (List.perm_ext_iff_of_nodup (s'.nodup_history order) nodup).2 fun r => ?_
  rw [List.mem_append, (s'.history_perm order).mem_iff, (s.history_perm order).mem_iff,
    Store.mem_reservationsOf_iff, Store.mem_reservationsOf_iff, reserves.reservations]
  constructor
  · rintro ⟨new | old, ofOrder⟩
    · exact .inl new
    · exact .inr ⟨old, ofOrder⟩
  · rintro (new | ⟨old, ofOrder⟩)
    · exact ⟨.inl new, (reserves.held r new).1⟩
    · exact ⟨.inr old, ofOrder⟩

/-- An order that is purged had no active reservations, and now it has none. -/
theorem exists_of_purge_eq_ok (stored : d.store = some s) {count : Nat}
    (purged : (d.purge order).1 = .ok count) :
    s.reservationsOf order ≠ [] ∧ count = (s.reservationsOf order).length ∧
      (d.purge order).2.store = some (s.deleteReservationsOf order).2 := by
  rw [purge, Operation.change_eq stored, Store.purge] at purged ⊢
  by_cases empty : s.reservationsOf order = []
  · simp [empty] at purged
  · cases active : (s.reservationsOf order).find? (·.isActive) with
    | some r => simp [empty, active] at purged
    | none =>
      simp only [List.isEmpty_iff, if_neg empty, active] at purged ⊢
      exact ⟨empty, (Except.ok.inj purged).symm, trivial⟩

theorem history_deleteReservationsOf (s : Store) (order : Uuid) :
    (s.deleteReservationsOf order).2.history order = [] := by
  have none : (s.deleteReservationsOf order).2.reservationsOf order = [] := by
    refine List.eq_nil_iff_forall_not_mem.2 fun r listed => ?_
    obtain ⟨kept, ofOrder⟩ := Store.mem_reservationsOf_iff.1 listed
    exact of_decide_eq_true (List.mem_filter.1 kept).2 ofOrder
  exact List.Perm.eq_nil (none ▸ Store.history_perm ..)

/-! ### At reachable desks -/

/-- What services answer is what is found after them. -/
structure AnswersStand (d : Desk) : Prop where
  created : ∀ draft c, (d.create draft).1 = .ok c → ((d.create draft).2.get c.id).1 = .ok c
  updated : ∀ id ch c, (d.update id ch).1 = .ok c → ((d.update id ch).2.get id).1 = .ok c
  confirmed : ∀ order rows, (d.confirm order).1 = .ok rows →
    ∃ listed, ((d.confirm order).2.history order).1 = .ok listed ∧ listed.Perm rows ∧
      InOrderOfCreation Reservation.createdAt listed
  released : ∀ order rows, (d.release order).1 = .ok rows →
    ∃ listed, ((d.release order).2.history order).1 = .ok listed ∧ listed.Perm rows ∧
      InOrderOfCreation Reservation.createdAt listed
  reserved : ∀ order items expiresAt, (d.reserve order items expiresAt).2.ids.NoRepeat →
    ∀ rows, (d.reserve order items expiresAt).1 = .ok rows →
      ∃ before after, d.Lists order before ∧
        (d.reserve order items expiresAt).2.Lists order after ∧
        after.Perm (rows ++ before) ∧ ∀ r, r ∈ rows ↔ r ∈ after ∧ r ∉ before
  purged : ∀ order count, (d.purge order).1 = .ok count →
    ((d.purge order).2.history order).1 = .error (.noOrder order) ∧
      ∃ before, (d.history order).1 = .ok before ∧ before.length = count

theorem Sound.answersStand (sound : d.Sound s) : d.AnswersStand := by
  constructor
  case created =>
    exact fun draft c created => get_of_putTicketClass (store_of_create_eq_ok sound.stored created)
  case updated =>
    intro id ch c updated
    obtain ⟨old, found, -, -, -, -, rfl, eq⟩ :=
      exists_of_update_eq_ok sound.stored sound.balanced updated
    have sameId : (ch.merge old d.now).id = id := Table.key_of_find? found
    have written := get_of_putTicketClass (congrArg (Desk.store ·.2) eq)
    rwa [sameId] at written
  case confirmed => exact fun order rows => sound.history_of_resolved
  case released => exact fun order rows => sound.history_of_resolved
  case reserved =>
    intro order items expiresAt noRepeat rows reserved
    obtain ⟨s', reserves⟩ := sound.reserves noRepeat reserved
    have perm := reserves.history_perm
    refine ⟨s.history order, s'.history order, lists_history sound.stored order,
      lists_history reserves.stored order, perm, fun r => ?_⟩
    have apart := List.disjoint_of_nodup_append (perm.nodup_iff.1 (s'.nodup_history order))
    rw [perm.mem_iff, List.mem_append]
    constructor
    · exact fun new => ⟨.inl new, apart new⟩
    · rintro ⟨new | old, notBefore⟩
      · exact new
      · exact absurd old notBefore
  case purged =>
    intro order count purged
    obtain ⟨nonempty, rfl, stored⟩ := exists_of_purge_eq_ok sound.stored purged
    have gone := lists_history stored order
    rw [history_deleteReservationsOf] at gone
    have perm := s.history_perm order
    have some : s.history order ≠ [] := fun none =>
      nonempty (List.Perm.eq_nil (none ▸ perm.symm))
    exact ⟨gone.history_eq_error, s.history order,
      (lists_history sound.stored order).history_eq some, perm.length_eq⟩

/-- At a desk that operations have led to, what was answered is found by looking: a class that was
created or updated, the reservations of an order that was confirmed or released, and those that were
added when it was reserved. An order that was purged is found no more. -/
theorem answers_stand (reachable : d.Reachable) : d.AnswersStand := by
  obtain ⟨s, sound⟩ := reachable.sound
  exact sound.answersStand

/-- The only reservation of the order is confirmed, and is listed as it was answered. A standing
place that is reserved for the order instead is listed beside it. -/
theorem answers_stand_concert :
    Concert.pending.Reachable ∧
      (∃ rows listed, (Concert.pending.confirm Concert.order).1 = .ok rows ∧ rows.length = 1 ∧
        ((Concert.pending.confirm Concert.order).2.history Concert.order).1 = .ok listed ∧
          listed.Perm rows) ∧
      ∃ rows before after,
        (Concert.pending.reserve Concert.order [⟨IdSupply.numbered 1, 1⟩] Concert.oneOClock).1 =
          .ok rows ∧ Concert.pending.Lists Concert.order before ∧
        (Concert.pending.reserve Concert.order [⟨IdSupply.numbered 1, 1⟩]
          Concert.oneOClock).2.Lists Concert.order after ∧
        rows.length = 1 ∧ after.Perm (rows ++ before) := by
  have stand := answers_stand Concert.reachable_pending
  refine ⟨Concert.reachable_pending, ?_, ?_⟩
  · obtain ⟨rows, confirmed, one⟩ : ∃ rows,
        (Concert.pending.confirm Concert.order).1 = .ok rows ∧ rows.length = 1 := ⟨_, rfl, rfl⟩
    obtain ⟨listed, found, perm, -⟩ := stand.confirmed Concert.order rows confirmed
    exact ⟨rows, listed, confirmed, one, found, perm⟩
  · have drawn : (Concert.pending.reserve Concert.order [⟨IdSupply.numbered 1, 1⟩]
        Concert.oneOClock).2.ids = ⟨IdSupply.numbered, 4⟩ := rfl
    have noRepeat : (Concert.pending.reserve Concert.order [⟨IdSupply.numbered 1, 1⟩]
        Concert.oneOClock).2.ids.NoRepeat := by
      rw [drawn]
      unfold IdSupply.NoRepeat
      decide
    obtain ⟨rows, reserved, one⟩ : ∃ rows, (Concert.pending.reserve Concert.order
        [⟨IdSupply.numbered 1, 1⟩] Concert.oneOClock).1 = .ok rows ∧ rows.length = 1 :=
      ⟨_, rfl, rfl⟩
    obtain ⟨before, after, listedBefore, listedAfter, perm, -⟩ :=
      stand.reserved Concert.order _ _ noRepeat rows reserved
    exact ⟨rows, before, after, reserved, listedBefore, listedAfter, one, perm⟩

end Desk

end BoxOffice
