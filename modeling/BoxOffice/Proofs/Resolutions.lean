import BoxOffice.Proofs.Runs

/-!
Confirming and releasing. In every state that operations can lead to, only the order itself
decides whether it is confirmed or released: it must have reservations, all of them must be active
and, to be confirmed, none may be past its deadline. The checks that guard the counters and count
the marked rows never fail.

An order can have active reservations beside others that have ended, as more can be reserved for
it after it was confirmed or released. Such an order is neither confirmed nor released as a whole.
-/

namespace BoxOffice

open Reservation (tickets)

def Store.Resolution.Admits (how : Store.Resolution) (now : Instant) (r : Reservation) : Prop :=
  r.status = .active ∧ (how = .confirm → ¬r.expiresAt < now)

/-- Refusals that only counters or rows gone wrong could lead to, once an order was found and all
its reservations can be resolved. -/
def Refusal.isInternal : Refusal → Bool
  | .noTicketClass _ | .obstructed (.reservedTooFew ..) | .obstructed (.markedTooFew ..) => true
  | _ => false

namespace Store

/-- An order was resolved: its reservations have the new status, its tickets are no longer
reserved, confirmed ones are sold instead, and nothing else has changed. -/
structure Resolved (s s' : Store) (how : Resolution) (order : Uuid) (now : Instant) : Prop where
  rows : s'.reservationsOf order =
    (s.reservationsOf order).map fun r => { r with status := how.status, updatedAt := now }
  others : ∀ r, r.order ≠ order → (r ∈ s'.reservations.rows ↔ r ∈ s.reservations.rows)
  classes : s'.ticketClasses.rows.map (·.id) = s.ticketClasses.rows.map (·.id)
  /-- The tickets are among the reserved ones, so no counter is cut off at zero. -/
  covered : ∀ c ∈ s.ticketClasses.rows, tickets (s.reservationsOf order) c.id ≤ c.reserved.toInt
  counters : ∀ c ∈ s.ticketClasses.rows, ∃ c' ∈ s'.ticketClasses.rows,
    c' = { c with reserved := c'.reserved, sold := c'.sold } ∧
      c'.reserved.toInt = c.reserved.toInt - tickets (s.reservationsOf order) c.id ∧
      c'.sold.toInt =
        c.sold.toInt + if how = .confirm then tickets (s.reservationsOf order) c.id else 0

variable {s : Store} {how : Resolution} {order : Uuid} {now : Instant}

theorem obstacle?_eq_none_iff_admits {r : Reservation} :
    how.obstacle? now r = none ↔ how.Admits now r := by
  rw [obstacle?_eq_none_iff]
  simp [Resolution.Admits, Reservation.isPastDeadline]

theorem findSome?_obstacle?_eq_none_iff {rows : List Reservation} :
    rows.findSome? (how.obstacle? now) = none ↔ ∀ r ∈ rows, how.Admits now r := by
  rw [List.findSome?_eq_none_iff]
  exact forall₂_congr fun r _ => obstacle?_eq_none_iff_admits

theorem obstacle_of_some {r : Reservation} {obstacle : Obstacle}
    (stands : how.obstacle? now r = some obstacle) :
    (r.status ≠ .active ∧ obstacle = .statusFinal r.id r.status) ∨
      how = .confirm ∧ r.expiresAt < now ∧ obstacle = .deadlinePassed r.id r.expiresAt := by
  unfold Resolution.obstacle? at stands
  split at stands
  next ended =>
    refine .inl ⟨fun active => ?_, (Option.some.inj stands).symm⟩
    cases how <;>
      simp [active, Reservation.Status.canBecome, Reservation.Status.isFinal, Resolution.status]
        at ended
  · split at stands
    next late =>
      exact .inr ⟨late.1, by simpa [Reservation.isPastDeadline] using late.2,
        (Option.some.inj stands).symm⟩
    next => cases stands

theorem mem_reservationsOf_iff {r : Reservation} :
    r ∈ s.reservationsOf order ↔ r ∈ s.reservations.rows ∧ r.order = order := by
  simp [reservationsOf]

theorem reservationsOf_conclude_eq_map (s : Store) (rows : List Reservation) (order : Uuid)
    (status : Reservation.Status) (now : Instant) :
    (s.conclude rows status now).reservationsOf order =
      (s.reservationsOf order).map fun r => if r ∈ rows then r.marked status now else r := by
  have sameOrder : ((fun r : Reservation => decide (r.order = order)) ∘
      fun r => if r ∈ rows then r.marked status now else r) =
        fun r => decide (r.order = order) := by
    funext r
    by_cases listed : r ∈ rows <;> simp [listed, Reservation.marked]
  show (s.reservations.rows.map _).filter _ = _
  rw [List.filter_map, sameOrder]
  rfl

theorem reservationsOf_conclude (s : Store) (order : Uuid) (status : Reservation.Status)
    (now : Instant) :
    (s.conclude (s.reservationsOf order) status now).reservationsOf order =
      (s.reservationsOf order).map (·.marked status now) := by
  rw [reservationsOf_conclude_eq_map]
  exact List.map_congr_left fun r listed => if_pos listed

theorem mem_conclude_iff_of_other {status : Reservation.Status} {r : Reservation}
    (other : r.order ≠ order) :
    r ∈ (s.conclude (s.reservationsOf order) status now).reservations.rows ↔
      r ∈ s.reservations.rows := by
  rw [mem_conclude_iff]
  constructor
  · rintro ⟨x, inRows, rfl⟩
    by_cases listed : x ∈ s.reservationsOf order
    · rw [if_pos listed] at other
      exact absurd (mem_reservationsOf_iff.1 listed).2 other
    · rwa [if_neg listed]
  · intro inRows
    exact ⟨r, inRows, if_neg fun listed => other (mem_reservationsOf_iff.1 listed).2⟩

/-- To conclude an order that can be resolved is to resolve it. -/
theorem Balanced.resolved (balanced : s.Balanced)
    (admits : ∀ r ∈ s.reservationsOf order, how.Admits now r) :
    s.Resolved (s.conclude (s.reservationsOf order) how.status now) how order now := by
  have can := canConclude_reservationsOf (findSome?_obstacle?_eq_none_iff.2 admits)
  have confirms : how.status = .confirmed ↔ how = .confirm := by
    cases how <;> simp [Resolution.status]
  constructor
  case rows => exact reservationsOf_conclude ..
  case others => exact fun r other => mem_conclude_iff_of_other other
  case classes =>
    show (s.ticketClasses.rows.map _).map _ = _
    rw [List.map_map]
    exact List.map_congr_left fun c _ => c.id_conclude ..
  case covered =>
    intro c member
    obtain ⟨-, -, enough⟩ := can.toInt_quantity balanced member
    rwa [(balanced.classes c member).reserved_eq]
  case counters =>
    intro c member
    obtain ⟨exact, nonneg, enough⟩ := can.toInt_quantity balanced member
    rw [← exact] at nonneg enough
    have counters := balanced.classes c member
    refine ⟨_, List.mem_map_of_mem member, ?_, ?_, ?_⟩
    · unfold TicketClass.conclude
      split <;> rfl
    · rw [counters.toInt_reserved_conclude how.status nonneg enough, exact]
    · rw [counters.toInt_sold_conclude how.status nonneg enough, exact]
      simp only [confirms]

end Store

namespace Desk

/-- What resolving an order has come to is decided by its reservations alone. -/
structure ExactlyResolved (d : Desk) (s : Store) (how : Store.Resolution) (order : Uuid)
    (result : Except Refusal (List Reservation) × Desk) : Prop where
  noOrder_iff : result.1 = .error (.noOrder order) ↔ s.reservationsOf order = []
  ok_iff : (∃ rows, result.1 = .ok rows) ↔
    s.reservationsOf order ≠ [] ∧ ∀ r ∈ s.reservationsOf order, how.Admits d.now r
  /-- Any other refusal names a reservation of the order that stands against it. -/
  refused : ∀ refusal, result.1 = .error refusal → result.2 = d ∧
    (refusal = .noOrder order ∨ ∃ r ∈ s.reservationsOf order,
      (r.status ≠ .active ∧ refusal = .obstructed (.statusFinal r.id r.status)) ∨
        how = .confirm ∧ r.expiresAt < d.now ∧
          refusal = .obstructed (.deadlinePassed r.id r.expiresAt))
  resolved : ∀ rows, result.1 = .ok rows → ∃ s', result.2.store = some s' ∧
    rows = s'.reservationsOf order ∧ s.Resolved s' how order d.now

variable {d : Desk} {s : Store}

theorem Sound.exactlyResolved (sound : d.Sound s) (how : Store.Resolution) (order : Uuid)
    (told : List Uuid → Lines → Event) :
    d.ExactlyResolved s how order (d.resolve how order told) := by
  -- In a balanced store three cases are left: no reservations, one that stands against it, none.
  rw [Operation.resolve_eq sound.stored sound.balanced]
  by_cases empty : s.reservationsOf order = []
  · rw [if_pos empty]
    refine ⟨⟨fun _ => empty, fun _ => rfl⟩, ⟨?_, fun both => absurd empty both.1⟩,
      fun refusal refused => ⟨rfl, .inl (Except.error.inj refused).symm⟩, fun rows resolved => ?_⟩
    · rintro ⟨rows, resolved⟩
      cases resolved
    · cases resolved
  · rw [if_neg empty]
    cases clear : (s.reservationsOf order).findSome? (how.obstacle? d.now) with
    | some obstacle =>
      obtain ⟨r, listed, stands⟩ := List.exists_of_findSome?_eq_some clear
      refine ⟨⟨fun refused => ?_, fun none => absurd none empty⟩, ⟨?_, ?_⟩, ?_, ?_⟩
      · cases refused
      · rintro ⟨rows, resolved⟩
        cases resolved
      · rintro ⟨-, admits⟩
        rw [Store.obstacle?_eq_none_iff_admits.2 (admits r listed)] at stands
        cases stands
      · intro refusal refused
        obtain rfl := Except.error.inj refused
        refine ⟨rfl, .inr ⟨r, listed, ?_⟩⟩
        rcases Store.obstacle_of_some stands with ⟨ended, rfl⟩ | ⟨confirms, late, rfl⟩
        · exact .inl ⟨ended, rfl⟩
        · exact .inr ⟨confirms, late, rfl⟩
      · intro rows resolved
        cases resolved
    | none =>
      have admits := Store.findSome?_obstacle?_eq_none_iff.1 clear
      refine ⟨⟨fun refused => ?_, fun none => absurd none empty⟩,
        ⟨fun _ => ⟨empty, admits⟩, fun _ => ⟨_, rfl⟩⟩, fun refusal refused => ?_, ?_⟩
      · cases refused
      · cases refused
      · intro rows resolved
        obtain rfl := Except.ok.inj resolved
        exact ⟨_, rfl, (Store.reservationsOf_conclude ..).symm, sound.balanced.resolved admits⟩

theorem ExactlyResolved.ne_internal {how : Store.Resolution} {order : Uuid}
    {result : Except Refusal (List Reservation) × Desk}
    (exact : d.ExactlyResolved s how order result) {refusal : Refusal}
    (internal : refusal.isInternal = true) : result.1 ≠ .error refusal := by
  intro refused
  obtain ⟨-, rfl | ⟨r, -, ⟨-, rfl⟩ | ⟨-, -, rfl⟩⟩⟩ := exact.refused refusal refused
  · cases internal
  · cases internal
  · cases internal

/-- The outcome of confirming and of releasing an order is decided by the order, in every state
that operations can lead to and at every time; the same holds of what is changed. Counters and
marks never give cause for a refusal, also when overdue reservations are expired. -/
theorem resolution_exact (reachable : d.Reachable) (now : Instant) (order : Uuid) :
    ∃ s, (d.atTime now).store = some s ∧
      (d.atTime now).ExactlyResolved s .confirm order ((d.atTime now).confirm order) ∧
      (d.atTime now).ExactlyResolved s .release order ((d.atTime now).release order) ∧
      (∀ size, ∃ count, ((d.atTime now).expire size).1 = .ok count) ∧
      ∀ refusal, refusal.isInternal = true →
        ((d.atTime now).confirm order).1 ≠ .error refusal ∧
          ((d.atTime now).release order).1 ≠ .error refusal := by
  obtain ⟨s, sound⟩ := (reachable.atTime now).sound
  have confirm := sound.exactlyResolved .confirm order fun ids lines =>
    .confirmed order ids lines now
  have release := sound.exactlyResolved .release order fun ids lines =>
    .released order ids lines now
  refine ⟨s, sound.stored, confirm, release, fun size => ?_, fun refusal internal => ⟨?_, ?_⟩⟩
  · rw [Operation.expire_eq sound.stored sound.balanced]
    split
    · exact ⟨0, rfl⟩
    · exact ⟨_, rfl⟩
  · exact confirm.ne_internal internal
  · exact release.ne_internal internal

/-- An order that is reserved is confirmed when this is asked for, and released when that is. -/
theorem resolution_exact_concert :
    Concert.pending.Reachable ∧ ∃ s, Concert.pending.store = some s ∧
      (∃ rows s', (Concert.pending.confirm Concert.order).1 = .ok rows ∧
        (Concert.pending.confirm Concert.order).2.store = some s' ∧
        s.Resolved s' .confirm Concert.order Concert.noon) ∧
      ∃ rows s', (Concert.pending.release Concert.order).1 = .ok rows ∧
        (Concert.pending.release Concert.order).2.store = some s' ∧
        s.Resolved s' .release Concert.order Concert.noon := by
  obtain ⟨s, stored, confirm, release, -⟩ :=
    resolution_exact Concert.reachable_pending Concert.noon Concert.order
  obtain ⟨sold, confirmed⟩ : ∃ rows, (Concert.pending.confirm Concert.order).1 = .ok rows :=
    ⟨_, rfl⟩
  obtain ⟨dropped, released⟩ : ∃ rows, (Concert.pending.release Concert.order).1 = .ok rows :=
    ⟨_, rfl⟩
  obtain ⟨s₁, stored₁, -, resolved₁⟩ := confirm.resolved sold confirmed
  obtain ⟨s₂, stored₂, -, resolved₂⟩ := release.resolved dropped released
  exact ⟨Concert.reachable_pending, s, stored, ⟨sold, s₁, confirmed, stored₁, resolved₁⟩,
    dropped, s₂, released, stored₂, resolved₂⟩

/-- A release of an order with active reservations. It is released when all its reservations are
active; then no active one is left and their tickets are no longer reserved. It is refused, and
nothing is changed, when some of its reservations have ended before. -/
theorem release_of_active (reachable : d.Reachable) :
    ∃ s, d.store = some s ∧ ∀ order, (∃ r ∈ s.reservationsOf order, r.status = .active) →
      ((∀ r ∈ s.reservationsOf order, r.status = .active) →
        ∃ rows s', (d.release order).1 = .ok rows ∧ (d.release order).2.store = some s' ∧
          (∀ r ∈ s'.reservationsOf order, r.status ≠ .active) ∧
          ∀ c ∈ s.ticketClasses.rows, ∃ c' ∈ s'.ticketClasses.rows, c'.id = c.id ∧
            c'.reserved.toInt = c.reserved.toInt -
              tickets ((s.reservationsOf order).filter (·.isActive)) c.id) ∧
      ((∃ r ∈ s.reservationsOf order, r.status ≠ .active) →
        ∃ r ∈ s.reservationsOf order, r.status ≠ .active ∧
          d.release order = (.error (.obstructed (.statusFinal r.id r.status)), d)) := by
  obtain ⟨s, sound⟩ := reachable.sound
  refine ⟨s, sound.stored, fun order holds => ?_⟩
  obtain ⟨held, listed, -⟩ := holds
  refine ⟨fun allActive => ?_, ?_⟩
  · have exact : d.ExactlyResolved s .release order (d.release order) :=
      sound.exactlyResolved .release order _
    have admits : ∀ r ∈ s.reservationsOf order, Store.Resolution.release.Admits d.now r :=
      fun r listed => ⟨allActive r listed, fun confirms => by cases confirms⟩
    obtain ⟨rows, released⟩ := exact.ok_iff.2 ⟨List.ne_nil_of_mem listed, admits⟩
    obtain ⟨s', stored, -, resolved⟩ := exact.resolved rows released
    have whole : (s.reservationsOf order).filter (·.isActive) = s.reservationsOf order :=
      List.filter_eq_self.2 fun r listed => decide_eq_true (allActive r listed)
    refine ⟨rows, s', released, stored, fun x member => ?_, fun c member => ?_⟩
    · rw [resolved.rows] at member
      obtain ⟨r, -, rfl⟩ := List.mem_map.1 member
      exact fun active => by cases active
    · obtain ⟨c', member', same, reserved, -⟩ := resolved.counters c member
      refine ⟨c', member', ?_, whole.symm ▸ reserved⟩
      rw [same]
  · rintro ⟨ended, listedEnded, notActive⟩
    have unresolved := Operation.resolve_eq sound.stored sound.balanced .release order
      fun ids lines => .released order ids lines d.now
    rw [if_neg (List.ne_nil_of_mem listed)] at unresolved
    cases clear : (s.reservationsOf order).findSome? (Store.Resolution.release.obstacle? d.now) with
    | none =>
      have admits := Store.findSome?_obstacle?_eq_none_iff.1 clear ended listedEnded
      exact absurd admits.1 notActive
    | some obstacle =>
      rw [clear] at unresolved
      obtain ⟨r, listed, stands⟩ := List.exists_of_findSome?_eq_some clear
      rcases Store.obstacle_of_some stands with ⟨ended, rfl⟩ | ⟨confirms, -⟩
      · exact ⟨r, listed, ended, unresolved⟩
      · cases confirms

theorem release_of_active_concert :
    (Concert.opened.after (Concert.operations.take 3)).Reachable ∧
      ∃ rows, ((Concert.opened.after (Concert.operations.take 3)).release Concert.order).1 =
        .ok rows := by
  have reachable : (Concert.opened.after (Concert.operations.take 3)).Reachable :=
    ⟨Concert.noon, IdSupply.numbered, false, Concert.operations.take 3, rfl,
      Concert.noRepeat.before (continues_after _ (Concert.operations.drop 3))⟩
  obtain ⟨s, stored, exact⟩ := release_of_active reachable
  have statuses : ((Concert.opened.after (Concert.operations.take 3)).store.map fun s =>
      (s.reservationsOf Concert.order).map (·.status)) = some [.active] := rfl
  rw [stored] at statuses
  have single : (s.reservationsOf Concert.order).map (·.status) = [.active] :=
    Option.some.inj statuses
  obtain ⟨r, rows_eq, active⟩ := List.map_eq_singleton_iff.1 single
  have listed : ∃ r ∈ s.reservationsOf Concert.order, r.status = .active :=
    ⟨r, by simp [rows_eq], active⟩
  obtain ⟨rows, s', released, -⟩ :=
    (exact Concert.order listed).1 (by simpa [rows_eq] using active)
  exact ⟨reachable, rows, released⟩

/-- An order was confirmed and more was reserved for it: it has an active reservation, and it is
not released. -/
theorem release_refused_concert :
    (Concert.opened.after Concert.operations).Reachable ∧
      ((Concert.opened.after Concert.operations).store.any fun s =>
        (s.reservationsOf Concert.order).any (·.isActive)) = true ∧
      ((Concert.opened.after Concert.operations).release Concert.order).1 =
        .error (.obstructed (.statusFinal (IdSupply.numbered 2) .confirmed)) :=
  ⟨Concert.reachable, rfl, rfl⟩

end Desk

end BoxOffice
