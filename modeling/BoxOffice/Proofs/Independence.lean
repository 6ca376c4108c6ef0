import BoxOffice.Proofs.Racing

/-!
Orders do not stand in each other's way. Whether an order can be confirmed, released or purged is
decided by its own reservations, and what is then done to the store leaves those of every other
order alone. The counters of a class can be changed by two orders, one after the other; as the
class has the tickets of both reserved, no guard and no floor comes between, and what is taken out
is the same in either order.
-/

namespace BoxOffice

namespace Store

inductive Closing
  | resolve (how : Resolution)
  | purge
  deriving DecidableEq

namespace Closing

def operation (order : Uuid) : Closing → Operation
  | .resolve how => how.operation order
  | .purge => .purge order

/-- What stands against it among the reservations of an order. -/
def obstacle? (now : Instant) (rows : List Reservation) : Closing → Option Obstacle
  | .resolve how => rows.findSome? (how.obstacle? now)
  | .purge => (rows.find? (·.isActive)).map fun r => .stillActive r.id

def answer (now : Instant) (rows : List Reservation) : Closing → Answer
  | .resolve how => .reservations (rows.map (·.marked how.status now))
  | .purge => .count rows.length

def verdict (order : Uuid) (now : Instant) (rows : List Reservation) (a : Closing) :
    Except Refusal Answer :=
  if rows = [] then .error (.noOrder order)
  else
    match a.obstacle? now rows with
    | some obstacle => .error (.obstructed obstacle)
    | none => .ok (a.answer now rows)

def close (s : Store) (order : Uuid) (now : Instant) : Closing → Store
  | .resolve how => s.conclude (s.reservationsOf order) how.status now
  | .purge => (s.deleteReservationsOf order).2

def told (order : Uuid) (now : Instant) (rows : List Reservation) : Closing → Option Event
  | .resolve how => some (how.told order (rows.map (·.id)) (Reservation.lines rows) now)
  | .purge => none

end Closing

variable {s : Store} {order other : Uuid} {now : Instant} {a b : Closing}

/-! ### One order beside another -/

theorem reservationsOf_deleteReservationsOf (apart : order ≠ other) :
    (s.deleteReservationsOf order).2.reservationsOf other = s.reservationsOf other := by
  show (s.reservations.rows.filter (·.order ≠ order)).filter (·.order = other) =
    s.reservations.rows.filter (·.order = other)
  rw [List.filter_filter]
  refine List.filter_congr fun r _ => ?_
  by_cases ofOther : r.order = other <;> simp [ofOther, Ne.symm apart]

/-- To conclude reservations of one order leaves those of another as they are. -/
theorem reservationsOf_conclude_of_ne (apart : order ≠ other) (status : Reservation.Status)
    (now : Instant) :
    (s.conclude (s.reservationsOf order) status now).reservationsOf other =
      s.reservationsOf other := by
  rw [reservationsOf_conclude_eq_map]
  conv_rhs => rw [← List.map_id (s.reservationsOf other)]
  refine List.map_congr_left fun r listed => if_neg fun listed' => apart ?_
  exact (mem_reservationsOf_iff.1 listed').2.symm.trans (mem_reservationsOf_iff.1 listed).2

theorem disjoint_reservationsOf (apart : order ≠ other) :
    (s.reservationsOf order).Disjoint (s.reservationsOf other) := by
  intro r listed listed'
  exact apart ((mem_reservationsOf_iff.1 listed).2.symm.trans (mem_reservationsOf_iff.1 listed').2)

theorem Closing.reservationsOf_close (a : Closing) (s : Store) (now : Instant)
    (apart : order ≠ other) :
    (a.close s order now).reservationsOf other = s.reservationsOf other := by
  cases a with
  | resolve how => exact reservationsOf_conclude_of_ne apart how.status now
  | purge => exact reservationsOf_deleteReservationsOf apart

/-- Marks do not touch the order of a reservation, so an order can be purged before or after
reservations are concluded. -/
theorem conclude_deleteReservationsOf (s : Store) (rows : List Reservation)
    (status : Reservation.Status) (now : Instant) (order : Uuid) :
    (s.deleteReservationsOf order).2.conclude rows status now =
      ((s.conclude rows status now).deleteReservationsOf order).2 := by
  have marks : markRows (s.reservations.filter (·.order ≠ order)) rows status now =
      (markRows s.reservations rows status now).filter (·.order ≠ order) := by
    refine Table.eq_of_rows_eq ?_
    have sameOrder : ((fun r : Reservation => decide (r.order ≠ order)) ∘
        fun r => if r ∈ rows then r.marked status now else r) =
          fun r => decide (r.order ≠ order) := by
      funext r
      by_cases listed : r ∈ rows <;> simp [listed, Reservation.marked]
    show (s.reservations.rows.filter _).map _ = (s.reservations.rows.map _).filter _
    rw [List.filter_map, sameOrder]
  exact congrArg (Store.mk _) marks

theorem deleteReservationsOf_comm (s : Store) (order other : Uuid) :
    ((s.deleteReservationsOf order).2.deleteReservationsOf other).2 =
      ((s.deleteReservationsOf other).2.deleteReservationsOf order).2 := by
  refine congrArg (Store.mk _) (Table.eq_of_rows_eq ?_)
  exact List.filter_comm ..

namespace Closing

theorem clear_of_verdict {rows : List Reservation} {answer : Answer}
    (admitted : a.verdict order now rows = .ok answer) : a.obstacle? now rows = none := by
  unfold verdict at admitted
  split at admitted
  · cases admitted
  · cases clear : a.obstacle? now rows with
    | none => rfl
    | some obstacle =>
      rw [clear] at admitted
      cases admitted

/-- Purging finds no active reservation in its way. -/
theorem inactive_of_clear {rows : List Reservation} (clear : purge.obstacle? now rows = none) :
    ∀ r ∈ rows, r.status ≠ .active := by
  intro r listed active
  have inactive := List.find?_eq_none.1 (Option.map_eq_none_iff.1 clear) r listed
  exact inactive (by simpa [Reservation.isActive] using active)

theorem balanced_close (balanced : s.Balanced)
    (clear : a.obstacle? now (s.reservationsOf order) = none) :
    (a.close s order now).Balanced := by
  cases a with
  | resolve how => exact balanced.conclude (canConclude_reservationsOf clear)
  | purge => exact balanced.purge (inactive_of_clear clear)

/-- Two orders that admit it can be closed one after the other, whichever comes first. -/
theorem close_comm (apart : order ≠ other)
    (clear : a.obstacle? now (s.reservationsOf order) = none)
    (clear' : b.obstacle? now (s.reservationsOf other) = none) :
    b.close (a.close s order now) other now = a.close (b.close s other now) order now := by
  have left := a.reservationsOf_close s now apart
  have left' := b.reservationsOf_close s now apart.symm
  cases a with
  | resolve how =>
    cases b with
    | resolve how' =>
      have can := canConclude_reservationsOf clear
      have can' := canConclude_reservationsOf clear'
      simp only [close] at left left' ⊢
      rw [left, left']
      exact can.conclude_comm can' (disjoint_reservationsOf apart)
    | purge =>
      simp only [close] at left' ⊢
      rw [left', conclude_deleteReservationsOf]
  | purge =>
    cases b with
    | resolve how' =>
      simp only [close] at left ⊢
      rw [left, conclude_deleteReservationsOf]
    | purge => exact s.deleteReservationsOf_comm order other

end Closing

end Store

namespace Desk

open Store (Closing)

variable {d : Desk} {s : Store} {order other : Uuid} {a b : Closing}

/-! ### At a desk -/

def closed (d : Desk) (s : Store) (a : Closing) (order : Uuid) : Desk :=
  { d with
    store := some (a.close s order d.now)
    publisher :=
      { d.publisher with
        published := d.publisher.published ++
          (a.told order d.now (s.reservationsOf order)).toList } }

/-- Closing an order: its own reservations decide what is answered. -/
theorem run_closing (stored : d.store = some s) (balanced : s.Balanced) (a : Closing)
    (order : Uuid) :
    Operation.run d (a.operation order) =
      match a.verdict order d.now (s.reservationsOf order) with
      | .error refusal => (.error refusal, d)
      | .ok answer => (.ok answer, d.closed s a order) := by
  cases a with
  | resolve how =>
    have run_eq : Operation.run d (Closing.operation order (.resolve how)) =
        answered .reservations
          (d.resolve how order fun ids lines => how.told order ids lines d.now) := by
      cases how <;> rfl
    rw [run_eq, Operation.resolve_eq stored balanced, Closing.verdict]
    by_cases empty : s.reservationsOf order = []
    · rw [if_pos empty, if_pos empty]
      rfl
    · rw [if_neg empty, if_neg empty, Closing.obstacle?]
      cases (s.reservationsOf order).findSome? (how.obstacle? d.now) <;> rfl
  | purge =>
    have run_eq : Operation.run d (Closing.operation order .purge) =
        answered .count (d.change fun s => s.purge order) := rfl
    rw [run_eq, Operation.change_eq stored, Store.purge, Closing.verdict]
    by_cases empty : s.reservationsOf order = []
    · rw [if_pos empty, if_pos (List.isEmpty_iff.2 empty)]
      rfl
    · rw [if_neg empty, if_neg (mt List.isEmpty_iff.1 empty), Closing.obstacle?]
      cases (s.reservationsOf order).find? (·.isActive) with
      | some r => rfl
      | none =>
        simp only [closed, Closing.told, Option.toList_none, List.append_nil]
        rfl

theorem run_closing_of_error (stored : d.store = some s) (balanced : s.Balanced)
    {refusal : Refusal}
    (refused : a.verdict order d.now (s.reservationsOf order) = .error refusal) :
    Operation.run d (a.operation order) = (.error refusal, d) := by
  rw [run_closing stored balanced, refused]

theorem run_closing_of_ok (stored : d.store = some s) (balanced : s.Balanced) {answer : Answer}
    (admitted : a.verdict order d.now (s.reservationsOf order) = .ok answer) :
    Operation.run d (a.operation order) = (.ok answer, d.closed s a order) := by
  rw [run_closing stored balanced, admitted]

/-- After one order was closed, another is answered as before. -/
theorem run_closing_closed (balanced : s.Balanced) (apart : order ≠ other) {answer : Answer}
    (admitted : a.verdict order d.now (s.reservationsOf order) = .ok answer) (b : Closing) :
    Operation.run (d.closed s a order) (b.operation other) =
      match b.verdict other d.now (s.reservationsOf other) with
      | .error refusal => (.error refusal, d.closed s a order)
      | .ok answer =>
        (.ok answer, (d.closed s a order).closed (a.close s order d.now) b other) := by
  have balanced' := Closing.balanced_close balanced (Closing.clear_of_verdict admitted)
  have run_eq := run_closing (d := d.closed s a order) rfl balanced' b other
  rwa [a.reservationsOf_close s d.now apart] at run_eq

/-- Two operations come to the same in either order: each gives the same answer, the stores in the
end are the same, and each of them tells the same. -/
structure Commute (d : Desk) (op op' : Operation) : Prop where
  first : (Operation.run (d.after [op']) op).1 = (Operation.run d op).1
  second : (Operation.run (d.after [op]) op').1 = (Operation.run d op').1
  store : (d.after [op, op']).store = (d.after [op', op]).store
  told : ∃ told told',
    (d.after [op, op']).publisher.published = d.publisher.published ++ told ++ told' ∧
      (d.after [op', op]).publisher.published = d.publisher.published ++ told' ++ told

/-- An operation that is refused in either order commutes with any other. -/
theorem Commute.of_refused {op op' : Operation} {refusal : Refusal} {told : List Event}
    (refused : Operation.run d op = (.error refusal, d))
    (refused' : Operation.run (d.after [op']) op = (.error refusal, d.after [op']))
    (tells : (d.after [op']).publisher.published = d.publisher.published ++ told) :
    d.Commute op op' where
  first := by rw [refused, refused']
  second := by rw [after_single, refused]
  store := by rw [after_pair, after_pair, refused, ← after_single d op', refused']
  told := by
    refine ⟨[], told, ?_, ?_⟩
    · rw [after_pair, refused, ← after_single, List.append_nil]
      exact tells
    · rw [after_pair, ← after_single d op', refused', List.append_nil]
      exact tells

theorem Commute.symm {op op' : Operation} (commute : d.Commute op op') : d.Commute op' op where
  first := commute.second
  second := commute.first
  store := commute.store.symm
  told := by
    obtain ⟨told, told', first, second⟩ := commute.told
    exact ⟨told', told, second, first⟩

/-- An order that cannot be closed is refused before and after another was closed. -/
theorem Sound.commute_of_refused (sound : d.Sound s) (apart : order ≠ other) {refusal : Refusal}
    (refused : a.verdict order d.now (s.reservationsOf order) = .error refusal) (b : Closing) :
    d.Commute (a.operation order) (b.operation other) := by
  have ran := run_closing_of_error sound.stored sound.balanced refused
  cases verdict : b.verdict other d.now (s.reservationsOf other) with
  | error refusal' =>
    have ran' := run_closing_of_error sound.stored sound.balanced verdict
    have same : d.after [b.operation other] = d := by rw [after_single, ran']
    have silent : (d.after [b.operation other]).publisher.published =
        d.publisher.published ++ [] := by rw [same, List.append_nil]
    exact .of_refused ran (by rw [same, ran]) silent
  | ok answer =>
    have ran' := run_closing_of_ok sound.stored sound.balanced verdict
    have same : d.after [b.operation other] = d.closed s b other := by rw [after_single, ran']
    refine .of_refused ran ?_ (congrArg (fun d => d.publisher.published) same)
    rw [same, run_closing_closed sound.balanced apart.symm verdict, refused]

/-- Two orders that can both be closed. -/
theorem Sound.commute_of_admitted (sound : d.Sound s) (apart : order ≠ other)
    {answer answer' : Answer}
    (admitted : a.verdict order d.now (s.reservationsOf order) = .ok answer)
    (admitted' : b.verdict other d.now (s.reservationsOf other) = .ok answer') :
    d.Commute (a.operation order) (b.operation other) := by
  have ran := run_closing_of_ok sound.stored sound.balanced admitted
  have ran' := run_closing_of_ok sound.stored sound.balanced admitted'
  have next := run_closing_closed sound.balanced apart admitted b
  have next' := run_closing_closed sound.balanced apart.symm admitted' a
  rw [admitted'] at next
  rw [admitted] at next'
  constructor
  case first => rw [after_single, ran, ran', next']
  case second => rw [after_single, ran, ran', next]
  case store =>
    rw [after_pair, after_pair, ran, ran', next, next']
    exact congrArg some (Closing.close_comm apart (Closing.clear_of_verdict admitted)
      (Closing.clear_of_verdict admitted'))
  case told =>
    refine ⟨(a.told order d.now (s.reservationsOf order)).toList,
      (b.told other d.now (s.reservationsOf other)).toList, ?_, ?_⟩
    · rw [after_pair, ran, next, ← a.reservationsOf_close s d.now apart]
      rfl
    · rw [after_pair, ran', next', ← b.reservationsOf_close s d.now apart.symm]
      rfl

/-- Confirming, releasing and purging one order commutes with confirming, releasing and purging
another, in every state that operations can lead to and at every time: each of the two is answered
as if the other had not been there, and the store in the end is the same. -/
theorem orders_commute (reachable : d.Reachable) (now : Instant) (apart : order ≠ other)
    (a b : Closing) : (d.atTime now).Commute (a.operation order) (b.operation other) := by
  obtain ⟨s, sound⟩ := (reachable.atTime now).sound
  cases verdict : a.verdict order (d.atTime now).now (s.reservationsOf order) with
  | error refusal => exact sound.commute_of_refused apart verdict b
  | ok answer =>
    cases verdict' : b.verdict other (d.atTime now).now (s.reservationsOf other) with
    | error refusal' => exact (sound.commute_of_refused apart.symm verdict' a).symm
    | ok answer' => exact sound.commute_of_admitted apart verdict verdict'

/-- Two orders hold tickets of the same two classes. One is confirmed and the other released, and
the counters come out the same. -/
theorem orders_commute_concert :
    (Concert.opened.after Concert.threeOrders).Reachable ∧ Concert.order ≠ .ofNat 8 ∧
      ((Concert.opened.after Concert.threeOrders).atTime Concert.noon).Commute
        (.confirm Concert.order) (.release (.ofNat 8)) ∧
      ((((Concert.opened.after Concert.threeOrders).atTime Concert.noon).after
          [.release (.ofNat 8), .confirm Concert.order]).store.map fun s =>
        s.ticketClasses.rows.map fun c => (c.reserved, c.sold)) = some [(1, 2), (0, 1)] := by
  have apart : Concert.order ≠ .ofNat 8 := by decide
  exact ⟨Concert.reachable_threeOrders, apart,
    orders_commute Concert.reachable_threeOrders Concert.noon apart (.resolve .confirm)
      (.resolve .release), rfl⟩

end Desk

end BoxOffice
