import BoxOffice.Fault
import BoxOffice.Proofs.Resolutions
import BoxOffice.Proofs.Sweeps

/-!
Confirming beside a sweep. A reservation at its deadline can still be confirmed and is not yet
overdue, and a moment later it is overdue and can no longer be confirmed. So an order that can be
confirmed has no reservation that a sweep takes up, and of an order that cannot be confirmed a
sweep leaves what stands against it. Whichever comes first, the two come to the same.
-/

namespace BoxOffice

namespace Store

variable {s : Store} {rows : List Reservation} {order : Uuid} {now : Instant}

/-- The order has reservations, and each of them can be confirmed. -/
def Confirmable (s : Store) (order : Uuid) (now : Instant) : Prop :=
  s.reservationsOf order ≠ [] ∧ ∀ r ∈ s.reservationsOf order, Resolution.confirm.Admits now r

theorem Confirmable.disjoint_overdue (can : s.Confirmable order now) :
    (s.reservationsOf order).Disjoint (s.overdue now) := fun r listed queued =>
  (can.2 r listed).2 rfl (mem_overdue_iff.1 queued).2

/-- Reservations that are overdue stand in the way of confirming before and after they expire. -/
theorem confirmable_conclude_iff (expire : rows ⊆ s.overdue now) :
    (s.conclude rows .expired now).Confirmable order now ↔ s.Confirmable order now := by
  have rows_eq := s.reservationsOf_conclude_eq_map rows order .expired now
  have nonempty : (s.conclude rows .expired now).reservationsOf order ≠ [] ↔
      s.reservationsOf order ≠ [] := by
    rw [rows_eq, Ne, List.map_eq_nil_iff]
  refine and_congr nonempty ?_
  rw [rows_eq, List.forall_mem_map]
  refine forall₂_congr fun r _ => ?_
  split
  next listed =>
    have late := (mem_overdue_iff.1 (expire listed)).2
    refine ⟨fun admits => ?_, fun admits => absurd late (admits.2 rfl)⟩
    cases admits.1
  next => exact Iff.rfl

/-- To confirm an order leaves the queue as it is. -/
theorem Confirmable.overdue_conclude (can : s.Confirmable order now) :
    (s.conclude (s.reservationsOf order) .confirmed now).overdue now = s.overdue now := by
  have can' := canConclude_reservationsOf (findSome?_obstacle?_eq_none_iff.2 can.2)
  rw [show Reservation.Status.confirmed = Resolution.confirm.status from rfl, can'.overdue]
  exact List.filter_eq_self.2 fun r queued =>
    decide_eq_true fun listed => can.disjoint_overdue listed queued

/-- Reservations that expire leave an order that can be confirmed as it is. -/
theorem Confirmable.reservationsOf_conclude (can : s.Confirmable order now)
    (expire : rows ⊆ s.overdue now) :
    (s.conclude rows .expired now).reservationsOf order = s.reservationsOf order := by
  rw [reservationsOf_conclude_eq_map]
  conv_rhs => rw [← List.map_id (s.reservationsOf order)]
  exact List.map_congr_left fun r listed =>
    if_neg fun expires => can.disjoint_overdue listed (expire expires)

end Store

namespace Desk

variable {d : Desk} {s : Store} {order : Uuid}

theorem run_confirm (d : Desk) (order : Uuid) : Operation.run d (.confirm order) =
    answered .reservations
      (d.resolve .confirm order fun ids lines => .confirmed order ids lines d.now) := rfl

theorem run_confirm_of_confirmable (stored : d.store = some s) (balanced : s.Balanced)
    (can : s.Confirmable order d.now) :
    Operation.run d (.confirm order) =
      (.ok (.reservations ((s.reservationsOf order).map (·.marked .confirmed d.now))),
        Operation.concluded d s (s.reservationsOf order) .confirmed fun ids lines =>
          .confirmed order ids lines d.now) := by
  rw [run_confirm, Operation.resolve_eq stored balanced, if_neg can.1,
    Store.findSome?_obstacle?_eq_none_iff.2 can.2]
  rfl

/-- An order that cannot be confirmed is refused for one of two causes. -/
theorem run_confirm_of_not_confirmable (stored : d.store = some s) (balanced : s.Balanced)
    (cannot : ¬s.Confirmable order d.now) :
    ∃ refusal, Operation.run d (.confirm order) = (.error refusal, d) ∧
      refusal.fault.code =
        if s.reservationsOf order = [] then "NOT_FOUND" else "INVALID_STATE" := by
  rw [run_confirm, Operation.resolve_eq stored balanced]
  by_cases empty : s.reservationsOf order = []
  · rw [if_pos empty, if_pos empty]
    exact ⟨_, rfl, rfl⟩
  · rw [if_neg empty, if_neg empty]
    cases clear : (s.reservationsOf order).findSome? (Store.Resolution.confirm.obstacle? d.now) with
    | none => exact absurd ⟨empty, Store.findSome?_obstacle?_eq_none_iff.1 clear⟩ cannot
    | some obstacle => exact ⟨_, rfl, rfl⟩

/-- What confirming an order and a sweep come to in either order, begun at a desk with a store. -/
structure ConfirmSweepCommute (d : Desk) (s : Store) (order : Uuid) (size : Int) : Prop where
  /-- Confirming gives the same reservations, or a refusal of the same kind. -/
  confirm : (Operation.run d (.confirm order)).1.mapError (·.fault.code) =
    (Operation.run (d.after [.expire size]) (.confirm order)).1.mapError (·.fault.code)
  sweep : (Operation.run (d.after [.confirm order]) (.expire size)).1 =
    (Operation.run d (.expire size)).1
  store : (d.after [.confirm order, .expire size]).store =
    (d.after [.expire size, .confirm order]).store
  /-- The sweep turns the same reservations to expired ones. -/
  expired : ∃ rows sConfirmed s' sExpired, (d.after [.confirm order]).store = some sConfirmed ∧
    (d.after [.confirm order, .expire size]).store = some s' ∧ sConfirmed.Expired s' rows d.now ∧
      (d.after [.expire size]).store = some sExpired ∧ s.Expired sExpired rows d.now
  /-- Each of them tells the same. -/
  told : ∃ toldConfirm toldSweep,
    (d.after [.confirm order, .expire size]).publisher.published =
      d.publisher.published ++ toldConfirm ++ toldSweep ∧
    (d.after [.expire size, .confirm order]).publisher.published =
      d.publisher.published ++ toldSweep ++ toldConfirm

theorem after_pair (d : Desk) (op op' : Operation) :
    d.after [op, op'] = (Operation.run (Operation.run d op).2 op').2 := rfl

theorem after_single (d : Desk) (op : Operation) : d.after [op] = (Operation.run d op).2 := rfl

/-- An order that cannot be confirmed is refused before and after the sweep. -/
theorem Sound.commute_of_not_confirmable (sound : d.Sound s) (size : Int)
    (cannot : ¬s.Confirmable order d.now) : d.ConfirmSweepCommute s order size := by
  have part := List.take_sublist (countedSize size) (s.overdue d.now)
  have can := Store.canConclude_of_sublist part
  have swept := run_expire sound.stored sound.balanced size
  obtain ⟨told, tells⟩ := Publisher.exists_published_tellExpired
    ((s.overdue d.now).take (countedSize size)) d.now
  generalize (s.overdue d.now).take (countedSize size) = rows at part can swept tells
  obtain ⟨refusal, refused, code⟩ :=
    run_confirm_of_not_confirmable sound.stored sound.balanced cannot
  obtain ⟨refusal', refused', code'⟩ := run_confirm_of_not_confirmable
    (d := d.expired s rows (d.publisher.tellExpired rows d.now)) rfl
    (sound.balanced.conclude can) (mt (Store.confirmable_conclude_iff part.subset).1 cannot)
  have swept' : (Operation.run d (.expire size)).2 =
      d.expired s rows (d.publisher.tellExpired rows d.now) := by rw [swept]
  constructor
  case confirm =>
    rw [after_single, swept', refused, refused']
    simp only [Store.reservationsOf_conclude_eq_map, List.map_eq_nil_iff] at code'
    exact congrArg Except.error (code.trans code'.symm)
  case sweep => rw [after_single, refused]
  case store => rw [after_pair, after_pair, refused, swept', refused']
  case expired =>
    have expired := can.expired sound.balanced d.now
    refine ⟨rows, s, _, _, ?_, ?_, expired, ?_, expired⟩
    · rw [after_single, refused]
      exact sound.stored
    · rw [after_pair, refused, swept']
      rfl
    · rw [after_single, swept']
      rfl
  case told =>
    refine ⟨[], told, ?_, ?_⟩
    · rw [after_pair, refused, swept', List.append_nil]
      exact tells d.publisher
    · rw [after_pair, swept', refused', List.append_nil]
      exact tells d.publisher

/-- An order that can be confirmed has no reservation that the sweep takes up. -/
theorem Sound.commute_of_confirmable (sound : d.Sound s) (size : Int)
    (can : s.Confirmable order d.now) : d.ConfirmSweepCommute s order size := by
  have part := List.take_sublist (countedSize size) (s.overdue d.now)
  have canExpire := Store.canConclude_of_sublist part
  have canConfirm : s.CanConclude (s.reservationsOf order) .confirmed :=
    Store.canConclude_reservationsOf (Store.findSome?_obstacle?_eq_none_iff.2 can.2)
  have apart : (s.reservationsOf order).Disjoint ((s.overdue d.now).take (countedSize size)) :=
    List.disjoint_of_subset_right part.subset can.disjoint_overdue
  have swept := run_expire sound.stored sound.balanced size
  have confirmed := run_confirm_of_confirmable sound.stored sound.balanced can
  -- The sweep finds the same queue after the order was confirmed.
  have swept' := run_expire (d := Operation.concluded d s (s.reservationsOf order) .confirmed
    fun ids lines => .confirmed order ids lines d.now) rfl (sound.balanced.conclude canConfirm) size
  have time : (Operation.concluded d s (s.reservationsOf order) .confirmed fun ids lines =>
    .confirmed order ids lines d.now).now = d.now := rfl
  rw [time, can.overdue_conclude] at swept'
  obtain ⟨told, tells⟩ := Publisher.exists_published_tellExpired
    ((s.overdue d.now).take (countedSize size)) d.now
  generalize (s.overdue d.now).take (countedSize size) = rows
    at part canExpire apart swept swept' tells
  -- The order is the same after the sweep.
  have confirmed' := run_confirm_of_confirmable
    (d := d.expired s rows (d.publisher.tellExpired rows d.now)) rfl
    (sound.balanced.conclude canExpire) ((Store.confirmable_conclude_iff part.subset).2 can)
  have time' : (d.expired s rows (d.publisher.tellExpired rows d.now)).now = d.now := rfl
  rw [can.reservationsOf_conclude part.subset, time'] at confirmed'
  constructor
  case confirm => rw [after_single, swept, confirmed, confirmed']
  case sweep => rw [after_single, confirmed, swept, swept']
  case store =>
    rw [after_pair, after_pair, confirmed, swept, swept', confirmed']
    exact congrArg some (canConfirm.conclude_comm canExpire apart)
  case expired =>
    have canExpire' : (s.conclude (s.reservationsOf order) .confirmed d.now).CanConclude rows
        .expired := Store.canConclude_of_sublist (by rwa [can.overdue_conclude])
    refine ⟨rows, _, _, _, ?_, ?_,
      canExpire'.expired (sound.balanced.conclude canConfirm) d.now, ?_,
      canExpire.expired sound.balanced d.now⟩
    · rw [after_single, confirmed]
      rfl
    · rw [after_pair, confirmed, swept']
      rfl
    · rw [after_single, swept]
      rfl
  case told =>
    refine ⟨[.confirmed order ((s.reservationsOf order).map (·.id))
      (Reservation.lines (s.reservationsOf order)) d.now], told, ?_, ?_⟩
    · rw [after_pair, confirmed, swept']
      exact tells _
    · rw [after_pair, swept, confirmed']
      exact congrArg (· ++ _) (tells d.publisher)

/-- Confirming an order and a sweep at the same time, in every state that operations can lead to,
at every time and for every size: in either order they come to the same. -/
theorem confirm_commutes_with_sweep (reachable : d.Reachable) (now : Instant) :
    ∃ s, (d.atTime now).store = some s ∧
      ∀ order size, (d.atTime now).ConfirmSweepCommute s order size := by
  obtain ⟨s, sound⟩ := (reachable.atTime now).sound
  refine ⟨s, sound.stored, fun order size => ?_⟩
  by_cases can : s.Confirmable order (d.atTime now).now
  · exact sound.commute_of_confirmable size can
  · exact sound.commute_of_not_confirmable size can

/-- An order that is still in time is confirmed beside a sweep of reservations that are not, and
one of the latter is refused. -/
theorem confirm_commutes_with_sweep_concert :
    (Concert.opened.after Concert.threeOrders).Reachable ∧
      (Concert.late.after [.confirm Concert.lateOrder, .expire 3]).store =
        (Concert.late.after [.expire 3, .confirm Concert.lateOrder]).store ∧
      (∃ rows, (Operation.run Concert.late (.confirm Concert.lateOrder)).1 =
        .ok (.reservations rows)) ∧
      (Operation.run (Concert.late.after [.expire 3]) (.confirm Concert.order)).1.mapError
        (·.fault.code) = .error "INVALID_STATE" := by
  obtain ⟨s, -, commute⟩ :=
    confirm_commutes_with_sweep Concert.reachable_threeOrders Concert.twoOClock
  have refused : (Operation.run Concert.late (.confirm Concert.order)).1.mapError
      (·.fault.code) = .error "INVALID_STATE" := rfl
  exact ⟨Concert.reachable_threeOrders, (commute Concert.lateOrder 3).store, ⟨_, rfl⟩,
    ((commute Concert.order 3).confirm).symm.trans refused⟩

end Desk

end BoxOffice
