import BoxOffice.Proofs.Balance

/-!
Resolving and expiring in full. In a balanced store every guarded step of these bookings
succeeds: classes are found, enough tickets are reserved, the floor at zero is never reached and
all listed reservations are marked. What remains is `Store.conclude`, behind the conditions that
an order itself can fail.
-/

namespace BoxOffice.Store

open Reservation (tickets)

variable {s : Store}

/-! ### Marking -/

theorem ticketClasses_mark (s : Store) (status : Reservation.Status) (now : Instant)
    (ids : List Uuid) : (s.mark status now ids).2.ticketClasses = s.ticketClasses := by
  induction ids generalizing s with
  | nil => rfl
  | cons id ids ih =>
    unfold mark
    split
    · split
      · exact ih _
      · exact ih s
    · exact ih s

theorem markRows_insert {t : Table Reservation} {r : Reservation} {rows : List Reservation}
    {status : Reservation.Status} {now : Instant} (stored : r ∈ t.rows)
    (passed : r.marked status now ∉ rows) :
    markRows (t.insert (r.marked status now)) rows status now =
      markRows t (r :: rows) status now := by
  have found : t.find? (Keyed.key (r.marked status now)) = some r :=
    Table.exists_find?_of_mem stored
  unfold markRows
  rw [Table.insert_eq_update found, Table.update_update]
  refine Table.update_congr fun x inTable => ?_
  by_cases same : x = r
  · subst same
    have sameKey : Keyed.key x = Keyed.key (x.marked status now) := rfl
    simp [sameKey, passed]
  · have otherKey : Keyed.key x ≠ Keyed.key (r.marked status now) := fun sameKey =>
      same (Table.eq_of_key_eq inTable stored sameKey)
    simp [otherKey, same]

/-- Marking active reservations marks each of them. -/
theorem mark_of_active {status : Reservation.Status} (now : Instant) (final : status ≠ .active)
    {rows : List Reservation} (nodup : rows.Nodup) (active : ∀ r ∈ rows, r ∈ s.active) :
    s.mark status now (rows.map (·.id)) =
      (rows.length, ⟨s.ticketClasses, markRows s.reservations rows status now⟩) := by
  induction rows generalizing s with
  | nil => simp [mark, markRows, Table.update_eq_self]
  | cons r rows ih =>
    obtain ⟨notInRows, nodup⟩ := List.nodup_cons.1 nodup
    obtain ⟨inTable, isActive⟩ := mem_active_iff.1 (active r List.mem_cons_self)
    have found : s.reservations.find? r.id = some r := Table.exists_find?_of_mem inTable
    have canBecome : r.status.canBecome status = true := by
      simp [isActive, Reservation.Status.canBecome, Reservation.Status.isFinal, final]
    have stillActive : ∀ x ∈ rows, x ∈ (s.putReservation (r.marked status now)).active := by
      intro x inRows
      obtain ⟨inTable', isActive'⟩ := mem_active_iff.1 (active x (List.mem_cons_of_mem _ inRows))
      refine mem_active_iff.2 ⟨Table.mem_insert_iff.2 (.inr ⟨inTable', fun same => ?_⟩), isActive'⟩
      exact notInRows (Table.eq_of_key_eq inTable' inTable same ▸ inRows)
    -- The marked reservation has a final status, so it is not among those still to be marked.
    have passed : r.marked status now ∉ rows := fun inRows =>
      final (mem_active_iff.1 (active _ (List.mem_cons_of_mem _ inRows))).2
    simp only [List.map_cons, mark, found, canBecome, if_true, ih nodup stillActive]
    rw [List.length_cons, ← markRows_insert inTable passed]
    rfl

theorem CanConclude.transition {rows : List Reservation} {status : Reservation.Status}
    (can : s.CanConclude rows status) (now : Instant) :
    s.transition (rows.map (·.id)) status now =
      .ok ⟨s.ticketClasses, markRows s.reservations rows status now⟩ := by
  simp [Store.transition, mark_of_active now can.final can.nodup can.active]

/-! ### The lines of an order -/

/-- One line is taken out of the reserved tickets of its class, when there are enough. -/
theorem resolveLine_eq (how : Resolution) {line : Line} {c : TicketClass}
    (found : s.ticketClass? line.ticketClass = some c) (nonneg : 0 ≤ line.quantity.toInt)
    (enough : line.quantity.toInt ≤ c.reserved.toInt) :
    resolveLine how s line = .ok (s.putTicketClass (c.conclude how.status line.quantity)) := by
  cases how with
  | confirm =>
    have guard : line.quantity ≤ c.reserved := Int32.le_iff_toInt_le.2 enough
    simp [resolveLine, settleLine, settle, settle?, found, guard, Resolution.status,
      TicketClass.conclude]
  | release =>
    have top := Quantity.toInt_lt c.reserved
    have exact : (c.reserved - line.quantity).toInt = c.reserved.toInt - line.quantity.toInt :=
      Quantity.toInt_sub_eq (by omega) (by omega)
    -- The floor at zero is reached at most by a difference that is zero itself.
    have floor : max (c.reserved - line.quantity) 0 = c.reserved - line.quantity := by
      rw [← Int32.toInt_inj, Quantity.toInt_max_zero, exact, Int.max_eq_left (by omega)]
    simp [resolveLine, giveBackLine, giveBack, giveBack?, found, TicketClass.giveBack, floor,
      Resolution.status, TicketClass.conclude]

/-- Lines of classes that have enough tickets reserved are taken out one after the other. -/
theorem foldlM_resolveLine (how : Resolution) {lines : Lines}
    (covered : ∀ line ∈ lines.rows, ∃ c, s.ticketClass? line.ticketClass = some c ∧
      0 ≤ line.quantity.toInt ∧ line.quantity.toInt ≤ c.reserved.toInt) :
    lines.rows.foldlM (resolveLine how) s =
      .ok ⟨concludeClasses s.ticketClasses how.status lines, s.reservations⟩ := by
  obtain ⟨rows, sorted⟩ := lines
  induction rows generalizing s with
  | nil =>
    have none (c : TicketClass) : Lines.quantity ⟨[], sorted⟩ c.id = 0 := rfl
    simp only [List.foldlM_nil, concludeClasses, none, TicketClass.conclude_zero]
    rw [Table.update_eq_self fun _ _ => rfl]
    rfl
  | cons line rest ih =>
    obtain ⟨before, sortedRest⟩ := List.pairwise_cons.1 sorted
    obtain ⟨c, found, nonneg, enough⟩ := covered line List.mem_cons_self
    have coveredRest : ∀ other ∈ rest, ∃ c',
        (s.putTicketClass (c.conclude how.status line.quantity)).ticketClass? other.ticketClass =
          some c' ∧ 0 ≤ other.quantity.toInt ∧ other.quantity.toInt ≤ c'.reserved.toInt := by
      intro other inRest
      obtain ⟨c', found', bounds⟩ := covered other (List.mem_cons_of_mem _ inRest)
      refine ⟨c', ?_, bounds⟩
      have otherKey : Keyed.key (c.conclude how.status line.quantity) ≠ other.ticketClass := by
        intro same
        have sameId : c.id = line.ticketClass := Table.key_of_find? found
        simp only [Keyed.key, TicketClass.id_conclude, sameId] at same
        exact Table.key_ne_of_lt (before other inRest) same
      show (s.ticketClasses.insert _).find? _ = _
      rw [Table.find?_insert, if_neg otherKey]
      exact found'
    rw [List.foldlM_cons, resolveLine_eq how found nonneg enough]
    refine (ih sortedRest coveredRest).trans ?_
    have classes := update_insert_line (f := fun c q => c.conclude how.status q)
      (fun c q => c.id_conclude ..) (fun c => c.conclude_zero ..) sorted found
    exact congrArg (fun t => Except.ok (Store.mk t s.reservations)) classes

/-! ### Whole bookings -/

/-- Taking out the merged lines of active reservations and then marking them concludes them. -/
theorem CanConclude.run {rows : List Reservation} {status : Reservation.Status} {how : Resolution}
    (can : s.CanConclude rows status) (balanced : s.Balanced) (now : Instant)
    (alike : ∀ c : TicketClass, ∀ q, c.conclude how.status q = c.conclude status q) :
    ((Reservation.lines rows).rows.foldlM (resolveLine how) s >>= fun s =>
        s.transition (rows.map (·.id)) status now) =
      .ok (s.conclude rows status now) := by
  have covered : ∀ line ∈ (Reservation.lines rows).rows, ∃ c,
      s.ticketClass? line.ticketClass = some c ∧ 0 ≤ line.quantity.toInt ∧
        line.quantity.toInt ≤ c.reserved.toInt := by
    intro line inLines
    obtain ⟨r, listed, same⟩ := Reservation.mem_lines_iff.1 ⟨line, inLines, rfl⟩
    obtain ⟨c, inClasses, sameId⟩ :=
      balanced.known r (Store.mem_active_iff.1 (can.active r listed)).1
    obtain ⟨exact, nonneg, enough⟩ := can.toInt_quantity balanced inClasses
    rw [sameId.trans same, Lines.quantity_of_mem inLines, ← sameId.trans same] at exact
    have held := (balanced.classes c inClasses).reserved_eq
    refine ⟨c, ?_, by omega, by omega⟩
    rw [← sameId.trans same]
    exact Table.exists_find?_of_mem inClasses
  rw [foldlM_resolveLine how covered]
  have classes : concludeClasses s.ticketClasses how.status (Reservation.lines rows) =
      concludeClasses s.ticketClasses status (Reservation.lines rows) :=
    Table.update_congr fun c _ => alike c _
  -- The classes are not looked at when reservations are marked.
  have can' : CanConclude ⟨concludeClasses s.ticketClasses status (Reservation.lines rows),
      s.reservations⟩ rows status := ⟨can.nodup, can.active, can.final⟩
  rw [classes]
  exact can'.transition now

/-! ### Resolving -/

theorem obstacle?_eq_none_iff {how : Resolution} {now : Instant} {r : Reservation} :
    how.obstacle? now r = none ↔
      r.status = .active ∧ (how = .confirm → r.isPastDeadline now = false) := by
  by_cases active : r.status = .active <;> cases how <;>
    simp [Resolution.obstacle?, Reservation.Status.canBecome, Reservation.Status.isFinal,
      Resolution.status, active]

theorem canConclude_reservationsOf {order : Uuid} {how : Resolution} {now : Instant}
    (clear : (s.reservationsOf order).findSome? (how.obstacle? now) = none) :
    s.CanConclude (s.reservationsOf order) how.status where
  nodup := s.reservations.nodup_rows.filter _
  active r listed := by
    have free := List.findSome?_eq_none_iff.1 clear r listed
    exact mem_active_iff.2 ⟨(List.mem_filter.1 listed).1, (obstacle?_eq_none_iff.1 free).1⟩
  final := by cases how <;> simp [Resolution.status]

/-- How an order of a balanced store is resolved: only the order itself can stand against it. -/
theorem Balanced.resolve_eq (balanced : s.Balanced) (how : Resolution) (order : Uuid)
    (now : Instant) :
    s.resolve how order now =
      if s.reservationsOf order = [] then .error (.noOrder order)
      else
        match (s.reservationsOf order).findSome? (how.obstacle? now) with
        | some obstacle => .error (.obstructed obstacle)
        | none =>
          .ok (((s.reservationsOf order).map (·.marked how.status now),
            Reservation.lines (s.reservationsOf order)),
            s.conclude (s.reservationsOf order) how.status now) := by
  unfold resolve
  by_cases empty : s.reservationsOf order = []
  · simp [empty]
    rfl
  · cases clear : (s.reservationsOf order).findSome? (how.obstacle? now) with
    | some obstacle =>
      simp [empty, clear]
      rfl
    | none =>
      have concluded := (canConclude_reservationsOf clear).run balanced now fun _ _ => rfl
      simp only [empty, List.isEmpty_iff, if_false, clear]
      rw [← bind_assoc, concluded]
      rfl

/-! ### Expiring -/

theorem mem_firstOverdue {now : Instant} {limit : Int} {r : Reservation}
    (member : r ∈ s.firstOverdue now limit) :
    r ∈ s.reservations.rows ∧ r.status = .active ∧ r.isPastDeadline now = true := by
  have taken : r ∈ s.overdue now := List.mem_of_mem_take member
  rw [overdue, List.mem_mergeSort, List.mem_filter] at taken
  simpa [isOverdue, Reservation.isActive] using taken

theorem canConclude_firstOverdue (now : Instant) (limit : Int) :
    s.CanConclude (s.firstOverdue now limit) .expired where
  nodup := by
    have sorted : (s.overdue now).Nodup :=
      (List.mergeSort_perm _ _).nodup_iff.2 (s.reservations.nodup_rows.filter _)
    exact sorted.sublist (List.take_sublist _ _)
  active r listed := by
    obtain ⟨stored, active, -⟩ := mem_firstOverdue listed
    exact mem_active_iff.2 ⟨stored, active⟩
  final := by simp

/-- Expiring never fails in a balanced store. -/
theorem Balanced.expire_eq (balanced : s.Balanced) (limit : Int) (now : Instant) :
    s.expire limit now =
      .ok (((s.firstOverdue now limit).map (·.id), Reservation.lines (s.firstOverdue now limit)),
        s.conclude (s.firstOverdue now limit) .expired now) := by
  have can : s.CanConclude (s.firstOverdue now limit) .expired := canConclude_firstOverdue now limit
  -- Expired tickets are given back as those of a release are.
  have alike (c : TicketClass) (q : Quantity) :
      c.conclude Resolution.release.status q = c.conclude .expired q := rfl
  have concluded := can.run balanced now alike
  have given : giveBackLine = resolveLine .release := rfl
  unfold expire
  simp only [given]
  rw [← bind_assoc, concluded]
  rfl

end BoxOffice.Store
