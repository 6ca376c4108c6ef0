import BoxOffice.Proofs.Concluding
import Mathlib.Data.List.Nodup
import Mathlib.Data.List.Perm.Basic
import Mathlib.Data.List.Sort

/-!
The queue of overdue reservations. Reservations are taken up by deadline, and within one deadline
by identifier. No two moments share a place in the order of moments and no two reservations share
an identifier, so this order is strict, and the queue is the only list of overdue reservations in
it. Concluding reservations takes them out of the queue and leaves the rest of it as it is.

Reservations that are concluded one part after another come to the same as all of them at once,
in whichever order the parts are taken.
-/

namespace BoxOffice

/-! ### The order of deadlines -/

theorem Instant.eq_of_rank_eq {a b : Instant} (same : a.rank = b.rank) : a = b := by
  obtain ⟨⟨year, month, day, _, _, monthPos, monthLe, dayPos, dayLe⟩, second, nano, secondLt,
    nanoLt⟩ := a
  obtain ⟨⟨year', month', day', _, _, monthPos', monthLe', dayPos', dayLe'⟩, second', nano',
    secondLt', nanoLt'⟩ := b
  have longest := Calendar.daysInMonth_le year month
  have longest' := Calendar.daysInMonth_le year' month'
  simp only [rank] at same
  -- Each part stays below the factor that the parts before it are multiplied with.
  have sameNano : nano = nano' := by omega
  have sameSecond : second = second' := by omega
  have sameDay : day = day' := by omega
  have sameMonth : month = month' := by omega
  have sameYear : year = year' := by omega
  subst sameNano sameSecond sameDay sameMonth sameYear
  rfl

/-- The reservation is taken up earlier when both are overdue. -/
def Reservation.DueBefore (a b : Reservation) : Prop :=
  a.expiresAt < b.expiresAt ∨ a.expiresAt = b.expiresAt ∧ a.id < b.id

theorem Reservation.DueBefore.asymm {a b : Reservation} (first : a.DueBefore b) :
    ¬b.DueBefore a := by
  have ordered : a.expiresAt.rank < b.expiresAt.rank ∨
      a.expiresAt = b.expiresAt ∧ a.id.value < b.id.value := first
  rintro (earlier | ⟨same, below⟩)
  · have earlier : b.expiresAt.rank < a.expiresAt.rank := earlier
    rcases ordered with later | ⟨same, -⟩
    · omega
    · rw [same] at earlier
      omega
  · have below : b.id.value < a.id.value := below
    rcases ordered with later | ⟨-, above⟩
    · rw [same] at later
      omega
    · omega

namespace Store

variable {s : Store} {now : Instant}

theorem expiresBefore_iff {a b : Reservation} :
    expiresBefore a b = true ↔
      a.expiresAt.rank < b.expiresAt.rank ∨
        a.expiresAt.rank = b.expiresAt.rank ∧ a.id.value ≤ b.id.value := by
  have same : a.expiresAt = b.expiresAt ↔ a.expiresAt.rank = b.expiresAt.rank :=
    ⟨congrArg _, Instant.eq_of_rank_eq⟩
  simp only [expiresBefore, Bool.or_eq_true, Bool.and_eq_true, decide_eq_true_eq, same]
  rfl

theorem expiresBefore_trans (a b c : Reservation) (ab : expiresBefore a b = true)
    (bc : expiresBefore b c = true) : expiresBefore a c = true := by
  rw [expiresBefore_iff] at *
  omega

theorem expiresBefore_total (a b : Reservation) :
    (expiresBefore a b || expiresBefore b a) = true := by
  rw [Bool.or_eq_true, expiresBefore_iff, expiresBefore_iff]
  omega

/-! ### The queue -/

theorem mem_overdue_iff {r : Reservation} :
    r ∈ s.overdue now ↔ r ∈ s.active ∧ r.expiresAt < now := by
  rw [overdue, List.mem_mergeSort, List.mem_filter, active, List.mem_filter]
  simp [isOverdue, Reservation.isPastDeadline, and_assoc]

theorem nodup_overdue (s : Store) (now : Instant) : (s.overdue now).Nodup :=
  (List.mergeSort_perm _ _).nodup_iff.2 (s.reservations.nodup_rows.filter _)

theorem pairwise_overdue (s : Store) (now : Instant) :
    (s.overdue now).Pairwise Reservation.DueBefore := by
  have ordered : (s.overdue now).Pairwise fun a b => expiresBefore a b = true :=
    List.pairwise_mergeSort expiresBefore_trans expiresBefore_total _
  refine (ordered.and (s.nodup_overdue now)).imp_of_mem fun {a b} inQueue inQueue' h => ?_
  obtain ⟨notAfter, different⟩ := h
  have otherId : a.id.value ≠ b.id.value := fun same => different <|
    Table.eq_of_key_eq (mem_active_iff.1 (mem_overdue_iff.1 inQueue).1).1
      (mem_active_iff.1 (mem_overdue_iff.1 inQueue').1).1 (Uuid.ext same)
  rcases expiresBefore_iff.1 notAfter with earlier | ⟨same, notAbove⟩
  · exact .inl earlier
  · exact .inr ⟨Instant.eq_of_rank_eq same, Nat.lt_of_le_of_ne notAbove otherId⟩

theorem canConclude_of_sublist {rows : List Reservation} (part : rows.Sublist (s.overdue now)) :
    s.CanConclude rows .expired where
  nodup := (s.nodup_overdue now).sublist part
  active _ listed := (mem_overdue_iff.1 (part.subset listed)).1
  final := by simp

/-- Concluded reservations leave the queue, and all others stay in it. -/
theorem CanConclude.overdue {rows : List Reservation} {status : Reservation.Status}
    (can : s.CanConclude rows status) (concluded now : Instant) :
    (s.conclude rows status concluded).overdue now = (s.overdue now).filter (· ∉ rows) := by
  refine List.Perm.eq_of_pairwise (fun a b _ _ ab ba => absurd ba ab.asymm)
    (pairwise_overdue _ _) ((pairwise_overdue _ _).filter _) ?_
  refine (List.perm_ext_iff_of_nodup (nodup_overdue _ _) ((nodup_overdue _ _).filter _)).2
    fun r => ?_
  rw [List.mem_filter, mem_overdue_iff, mem_overdue_iff, can.mem_active_iff, decide_eq_true_eq]
  exact and_right_comm

theorem filter_notMem_append {α : Type} [DecidableEq α] {first rest : List α}
    (nodup : (first ++ rest).Nodup) : (first ++ rest).filter (· ∉ first) = rest := by
  have apart := List.disjoint_of_nodup_append nodup
  have gone : first.filter (· ∉ first) = [] := by simp
  have kept : rest.filter (· ∉ first) = rest :=
    List.filter_eq_self.2 fun x inRest => decide_eq_true fun inFirst => apart inFirst inRest
  rw [List.filter_append, gone, kept, List.nil_append]

theorem overdue_conclude_take (s : Store) (now : Instant) (n : Nat) :
    (s.conclude ((s.overdue now).take n) .expired now).overdue now = (s.overdue now).drop n := by
  have nodup := s.nodup_overdue now
  rw [(canConclude_of_sublist (List.take_sublist n _)).overdue]
  rw [← List.take_append_drop n (s.overdue now)] at nodup
  simpa only [List.take_append_drop] using filter_notMem_append nodup

end Store

/-! ### Concluding in parts -/

namespace Reservation

theorem quantity_lines_append (rows rows' : List Reservation) (id : Uuid) :
    (lines (rows ++ rows')).quantity id = (lines rows).quantity id + (lines rows').quantity id := by
  induction rows' using List.reverseRecOn with
  | nil =>
    have none : (lines []).quantity id = 0 := rfl
    rw [List.append_nil, none, Int32.add_zero]
  | append_singleton rows' r ih =>
    rw [← List.append_assoc, lines_append_singleton, lines_append_singleton, Lines.quantity_add,
      Lines.quantity_add, ih]
    split
    · exact Int32.add_assoc ..
    · rfl

end Reservation

namespace TicketClass

theorem conclude_add (c : TicketClass) (status : Reservation.Status) (q q' : Quantity) :
    c.conclude status (q + q') = (c.conclude status q).conclude status q' := by
  unfold conclude
  split
  · simp only [settle, Int32.sub_sub, Int32.add_assoc]
  · simp only [Int32.sub_sub]

theorem conclude_comm (c : TicketClass) (status status' : Reservation.Status) (q q' : Quantity) :
    (c.conclude status q).conclude status' q' = (c.conclude status' q').conclude status q := by
  have reserved : c.reserved - q - q' = c.reserved - q' - q := by
    rw [Int32.sub_sub, Int32.sub_sub, Int32.add_comm]
  have sold : c.sold + q + q' = c.sold + q' + q := by
    rw [Int32.add_assoc, Int32.add_assoc, Int32.add_comm q]
  unfold conclude
  split <;> split <;> simp only [settle, reserved, sold]

end TicketClass

namespace Store

section Parts

variable {s : Store} {rows rows' : List Reservation} {status status' : Reservation.Status}
  {now : Instant}

/-- A reservation that is to be marked is not one that was marked before. -/
theorem markRows_markRows {t : Table Reservation} (final : status ≠ .active)
    (active : ∀ r ∈ rows', r.status = .active) :
    markRows (markRows t rows status now) rows' status' now =
      t.update (fun r => if r ∈ rows then r.marked status now
          else if r ∈ rows' then r.marked status' now else r)
        fun r => by split <;> [rfl; (split <;> rfl)] := by
  unfold markRows
  rw [Table.update_update]
  refine Table.update_congr fun r _ => ?_
  by_cases first : r ∈ rows
  · have passed : r.marked status now ∉ rows' := fun second => final (active _ second)
    simp only [if_pos first, if_neg passed]
  · simp only [if_neg first]

/-- Reservations concluded in two parts are concluded all at once. -/
theorem CanConclude.conclude_append (can : s.CanConclude (rows ++ rows') status) :
    (s.conclude rows status now).conclude rows' status now =
      s.conclude (rows ++ rows') status now := by
  have active : ∀ r ∈ rows', r.status = .active := fun r second =>
    (Store.mem_active_iff.1 (can.active r (List.mem_append_right _ second))).2
  have classes : concludeClasses (concludeClasses s.ticketClasses status (Reservation.lines rows))
      status (Reservation.lines rows') =
        concludeClasses s.ticketClasses status (Reservation.lines (rows ++ rows')) := by
    unfold concludeClasses
    rw [Table.update_update]
    refine Table.update_congr fun c _ => ?_
    rw [TicketClass.id_conclude, Reservation.quantity_lines_append, TicketClass.conclude_add]
  have marks : markRows (markRows s.reservations rows status now) rows' status now =
      markRows s.reservations (rows ++ rows') status now := by
    rw [markRows_markRows can.final active]
    refine Table.update_congr fun r _ => ?_
    by_cases first : r ∈ rows <;> simp [first]
  exact congrArg₂ Store.mk classes marks

/-- It makes no difference which of two parts is concluded first. -/
theorem CanConclude.conclude_comm (can : s.CanConclude rows status)
    (can' : s.CanConclude rows' status') (apart : rows.Disjoint rows') :
    (s.conclude rows status now).conclude rows' status' now =
      (s.conclude rows' status' now).conclude rows status now := by
  have active : ∀ r ∈ rows, r.status = .active := fun r listed =>
    (Store.mem_active_iff.1 (can.active r listed)).2
  have active' : ∀ r ∈ rows', r.status = .active := fun r listed =>
    (Store.mem_active_iff.1 (can'.active r listed)).2
  have classes : concludeClasses (concludeClasses s.ticketClasses status (Reservation.lines rows))
      status' (Reservation.lines rows') =
        concludeClasses (concludeClasses s.ticketClasses status' (Reservation.lines rows'))
          status (Reservation.lines rows) := by
    unfold concludeClasses
    rw [Table.update_update, Table.update_update]
    refine Table.update_congr fun c _ => ?_
    rw [TicketClass.id_conclude, TicketClass.id_conclude, TicketClass.conclude_comm]
  have marks : markRows (markRows s.reservations rows status now) rows' status' now =
      markRows (markRows s.reservations rows' status' now) rows status now := by
    rw [markRows_markRows can.final active', markRows_markRows can'.final active]
    refine Table.update_congr fun r _ => ?_
    by_cases first : r ∈ rows
    · have second : r ∉ rows' := fun second => apart first second
      simp only [if_pos first, if_neg second]
    · simp only [if_neg first]
  exact congrArg₂ Store.mk classes marks

end Parts

end Store

end BoxOffice
