import BoxOffice.Booking
import BoxOffice.Proofs.Rows
import Mathlib.Algebra.BigOperators.Group.List.Basic
import Mathlib.Algebra.Ring.Int.Defs
import Mathlib.Data.List.Induction
import Mathlib.Data.List.Nodup

/-!
Counting tickets. `Reservation.tickets` is the number of tickets of a class that some
reservations hold, as a whole number without bounds. The quantities that the program adds up
with 32 bits, line by line, are compared with it: merged lines give the exact number as long as
that number is in range.
-/

namespace BoxOffice

namespace Quantity

theorem toInt_add_eq {a b : Quantity} (low : -2 ^ 31 ≤ a.toInt + b.toInt)
    (high : a.toInt + b.toInt < 2 ^ 31) : (a + b).toInt = a.toInt + b.toInt := by
  rw [Int32.toInt_add]
  exact Int.bmod_eq_of_le (by simpa using low) (by simpa using high)

theorem toInt_sub_eq {a b : Quantity} (low : -2 ^ 31 ≤ a.toInt - b.toInt)
    (high : a.toInt - b.toInt < 2 ^ 31) : (a - b).toInt = a.toInt - b.toInt := by
  rw [Int32.toInt_sub]
  exact Int.bmod_eq_of_le (by simpa using low) (by simpa using high)

theorem toInt_lt (a : Quantity) : a.toInt < 2 ^ 31 := by simpa using Int32.toInt_lt a

theorem toInt_max_zero (a : Quantity) : (max a 0).toInt = max a.toInt 0 := by
  show (if a ≤ 0 then 0 else a).toInt = _
  split
  next low =>
    rw [Int32.le_iff_toInt_le, Int32.toInt_zero] at low
    rw [Int32.toInt_zero, Int.max_eq_right low]
  next high =>
    rw [Int32.le_iff_toInt_le, Int32.toInt_zero] at high
    rw [Int.max_eq_left (by omega)]

end Quantity

/-! ### Tickets of reservations -/

namespace Reservation

def tickets (rows : List Reservation) (ticketClass : Uuid) : Int :=
  ((rows.filter (·.ticketClass = ticketClass)).map (·.quantity.toInt)).sum

variable {rows rows' : List Reservation}

@[simp] theorem tickets_nil (id : Uuid) : tickets [] id = 0 := rfl

theorem tickets_cons (r : Reservation) (rows : List Reservation) (id : Uuid) :
    tickets (r :: rows) id =
      (if r.ticketClass = id then r.quantity.toInt else 0) + tickets rows id := by
  unfold tickets
  split <;> simp [*]

theorem tickets_append (rows rows' : List Reservation) (id : Uuid) :
    tickets (rows ++ rows') id = tickets rows id + tickets rows' id := by
  simp [tickets]

theorem tickets_perm (perm : rows.Perm rows') (id : Uuid) : tickets rows id = tickets rows' id :=
  ((perm.filter _).map _).sum_eq

/-- Rows that are listed once each count the same in any order. -/
theorem tickets_eq_of_mem_iff (nodup : rows.Nodup) (nodup' : rows'.Nodup)
    (same : ∀ r, r ∈ rows ↔ r ∈ rows') (id : Uuid) : tickets rows id = tickets rows' id :=
  tickets_perm ((List.perm_ext_iff_of_nodup nodup nodup').2 same) id

theorem tickets_eq_add_rest (nodup : rows.Nodup) (nodup' : rows'.Nodup)
    (listed : ∀ r ∈ rows, r ∈ rows') (id : Uuid) :
    tickets rows' id = tickets rows id + tickets (rows'.filter (· ∉ rows)) id := by
  have apart : (rows ++ rows'.filter (· ∉ rows)).Nodup := by
    refine List.nodup_append.2 ⟨nodup, nodup'.filter _, fun a inRows b inRest => ?_⟩
    rintro rfl
    simpa [inRows] using (List.mem_filter.1 inRest).2
  rw [← tickets_append]
  refine tickets_eq_of_mem_iff nodup' apart (fun r => ?_) id
  by_cases inRows : r ∈ rows
  · simp [inRows, listed r inRows]
  · simp [inRows]

theorem tickets_nonneg (nonneg : ∀ r ∈ rows, 0 ≤ r.quantity.toInt) (id : Uuid) :
    0 ≤ tickets rows id := by
  induction rows with
  | nil => simp
  | cons r rows ih =>
    have head := nonneg r List.mem_cons_self
    have tail := ih fun x member => nonneg x (List.mem_cons_of_mem _ member)
    rw [tickets_cons]
    split <;> omega

theorem tickets_le (nodup : rows.Nodup) (nodup' : rows'.Nodup) (listed : ∀ r ∈ rows, r ∈ rows')
    (nonneg : ∀ r ∈ rows', 0 ≤ r.quantity.toInt) (id : Uuid) :
    tickets rows id ≤ tickets rows' id := by
  have whole := tickets_eq_add_rest nodup nodup' listed id
  have rest : 0 ≤ tickets (rows'.filter (· ∉ rows)) id :=
    tickets_nonneg (fun r left => nonneg r (List.mem_filter.1 left).1) id
  omega

theorem tickets_eq_zero {id : Uuid} (absent : ∀ r ∈ rows, r.ticketClass ≠ id) :
    tickets rows id = 0 := by
  have none : rows.filter (·.ticketClass = id) = [] := by simpa using absent
  simp [tickets, none]

/-- A change that keeps class and quantity of every row keeps the count. -/
theorem tickets_map {f : Reservation → Reservation}
    (keeps : ∀ r ∈ rows, (f r).line = r.line) (id : Uuid) :
    tickets (rows.map f) id = tickets rows id := by
  induction rows with
  | nil => rfl
  | cons r rows ih =>
    have same : (f r).ticketClass = r.ticketClass ∧ (f r).quantity = r.quantity := by
      simpa [line] using keeps r List.mem_cons_self
    rw [List.map_cons, tickets_cons, tickets_cons, same.1, same.2,
      ih fun x member => keeps x (List.mem_cons_of_mem _ member)]

theorem map_id_marked (rows : List Reservation) (status : Status) (now : Instant) :
    (rows.map fun r => r.marked status now).map (fun r : Reservation => r.id) =
      rows.map fun r => r.id := by
  rw [List.map_map]
  rfl

end Reservation

/-! ### Merged lines -/

namespace Lines

open Reservation

theorem quantity_of_mem {lines : Lines} {line : Line} (member : line ∈ lines.rows) :
    lines.quantity line.ticketClass = line.quantity := by
  have found : lines.find? line.ticketClass = some line := Table.exists_find?_of_mem member
  simp [quantity, found]

theorem quantity_of_notMem {lines : Lines} {id : Uuid}
    (absent : ∀ line ∈ lines.rows, line.ticketClass ≠ id) : lines.quantity id = 0 := by
  have missing : lines.find? id = none := Table.find?_eq_none_iff.2 absent
  simp [quantity, missing]

theorem quantity_insert (lines : Lines) (line : Line) (id : Uuid) :
    Lines.quantity (lines.insert line) id =
      if line.ticketClass = id then line.quantity else lines.quantity id := by
  have found : Table.find? (lines.insert line) id =
      if line.ticketClass = id then some line else lines.find? id := Table.find?_insert ..
  unfold quantity
  rw [found]
  by_cases same : line.ticketClass = id <;> simp [same]

theorem quantity_add (lines : Lines) (line : Line) (id : Uuid) :
    (lines.add line).quantity id =
      if line.ticketClass = id then lines.quantity id + line.quantity else lines.quantity id := by
  rw [add, quantity_insert]
  split
  next same => subst same; rfl
  next => rfl

/-- The first line of sorted lines is the only one of its class. -/
theorem quantity_cons {line : Line} {rest : List Line}
    (sorted : (line :: rest).Pairwise fun a b => Keyed.key a < Keyed.key b) (id : Uuid) :
    Lines.quantity ⟨line :: rest, sorted⟩ id =
      if line.ticketClass = id then line.quantity
      else Lines.quantity ⟨rest, (List.pairwise_cons.1 sorted).2⟩ id := by
  simp only [quantity, Table.find?, List.find?_cons]
  by_cases same : line.ticketClass = id <;> simp [same, Keyed.key]

theorem quantity_tail_head {line : Line} {rest : List Line}
    (sorted : (line :: rest).Pairwise fun a b => Keyed.key a < Keyed.key b) :
    Lines.quantity ⟨rest, (List.pairwise_cons.1 sorted).2⟩ line.ticketClass = 0 := by
  refine quantity_of_notMem fun other inRest same => ?_
  exact Table.key_ne_of_lt ((List.pairwise_cons.1 sorted).1 other inRest) same.symm

/-- The lines of reservations, in the order of their classes, count their tickets. -/
theorem tickets_eq_quantity {lines : Lines} {rows : List Reservation}
    (same : rows.map (·.line) = lines.rows) (id : Uuid) :
    tickets rows id = (lines.quantity id).toInt := by
  obtain ⟨list, sorted⟩ := lines
  induction list generalizing rows with
  | nil =>
    rw [List.map_eq_nil_iff.1 same]
    rfl
  | cons line rest ih =>
    obtain ⟨r, rows, rfl, rfl, sameRest⟩ := List.map_eq_cons_iff.1 same
    have tail := ih (List.pairwise_cons.1 sorted).2 sameRest
    rw [tickets_cons, tail, quantity_cons sorted]
    show (if r.ticketClass = id then r.quantity.toInt else 0) + _ =
      (if r.ticketClass = id then r.quantity else _).toInt
    split
    next here =>
      have none := quantity_tail_head sorted
      rw [show r.line.ticketClass = id from here] at none
      simp [none]
    next => rw [Int.zero_add]

end Lines

namespace Reservation

theorem lines_append_singleton (rows : List Reservation) (r : Reservation) :
    lines (rows ++ [r]) = (lines rows).add r.line := by
  simp [lines]

/-- The merged lines of reservations give the exact number of tickets, if no number leaves the
range on the way; with quantities that are not negative it is enough that the last does not. -/
theorem toInt_quantity_lines {rows : List Reservation}
    (nonneg : ∀ r ∈ rows, 0 ≤ r.quantity.toInt) {id : Uuid} (fits : tickets rows id < 2 ^ 31) :
    ((lines rows).quantity id).toInt = tickets rows id := by
  induction rows using List.reverseRecOn with
  | nil => rfl
  | append_singleton rows r ih =>
    have nonnegRows : ∀ x ∈ rows, 0 ≤ x.quantity.toInt := fun x member =>
      nonneg x (List.mem_append_left _ member)
    have nonnegLast : 0 ≤ r.quantity.toInt := nonneg r (by simp)
    have sum : tickets (rows ++ [r]) id =
        tickets rows id + if r.ticketClass = id then r.quantity.toInt else 0 := by
      rw [tickets_append, tickets_cons, tickets_nil, Int.add_zero]
    -- No quantity is negative, so the sums on the way are below the last one and fit as well.
    have start := tickets_nonneg nonnegRows id
    rw [sum] at fits ⊢
    rw [lines_append_singleton, Lines.quantity_add]
    show (if r.ticketClass = id then (lines rows).quantity id + r.quantity
      else (lines rows).quantity id).toInt = _
    split at fits
    next here =>
      have before := ih nonnegRows (by omega)
      rw [if_pos here, if_pos here, Quantity.toInt_add_eq (by omega) (by omega), before]
    next elsewhere =>
      rw [if_neg elsewhere, if_neg elsewhere, ih nonnegRows (by omega), Int.add_zero]

/-- The merged lines name the classes of the reservations. -/
theorem mem_lines_iff {rows : List Reservation} {id : Uuid} :
    (∃ line ∈ (lines rows).rows, line.ticketClass = id) ↔ ∃ r ∈ rows, r.ticketClass = id := by
  have found {ls : Lines} :
      (∃ line ∈ ls.rows, line.ticketClass = id) ↔ ls.find? id ≠ none := by
    rw [Ne, Table.find?_eq_none_iff]
    simp [Keyed.key]
  rw [found]
  induction rows using List.reverseRecOn with
  | nil => simp [lines, Table.find?_empty]
  | append_singleton rows r ih =>
    have key : Keyed.key (⟨r.line.ticketClass,
        (lines rows).quantity r.line.ticketClass + r.line.quantity⟩ : Line) = r.ticketClass := rfl
    rw [lines_append_singleton, Lines.add, Table.find?_insert, key]
    by_cases here : r.ticketClass = id
    · simp [here]
    · simpa [here] using ih

end Reservation

end BoxOffice
