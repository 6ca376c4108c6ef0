import BoxOffice.Uuid

/-!
Tables: rows that are identified by a key and kept in the order of their keys, at most one row
for a key. Two tables with the same rows are therefore the same table.
-/

namespace BoxOffice

/-- Rows that carry the key they are identified by. -/
class Keyed (α : Type) where
  key : α → Uuid

open Keyed (key)

structure Table (α : Type) [Keyed α] where
  rows : List α
  sorted : rows.Pairwise fun a b => key a < key b

namespace Table

variable {α : Type} [Keyed α]

theorem eq_of_rows_eq {s t : Table α} (h : s.rows = t.rows) : s = t := by
  cases s; cases t; simp_all

instance [DecidableEq α] : DecidableEq (Table α) := fun s t =>
  if h : s.rows = t.rows then .isTrue (eq_of_rows_eq h) else .isFalse fun e => h (by rw [e])

def empty : Table α := ⟨[], .nil⟩

def find? (t : Table α) (id : Uuid) : Option α := t.rows.find? fun row => key row = id

def insertRow (row : α) : List α → List α
  | [] => [row]
  | other :: rest =>
    if key row < key other then row :: other :: rest
    else if key row = key other then row :: rest
    else other :: insertRow row rest

theorem mem_insertRow {row x : α} {rows : List α} (h : x ∈ insertRow row rows) :
    x = row ∨ x ∈ rows := by
  induction rows with
  | nil => simpa [insertRow] using h
  | cons other rest ih =>
    unfold insertRow at h
    split at h
    · simpa using h
    · split at h <;> simp only [List.mem_cons] at h ⊢
      · exact h.imp_right .inr
      · rcases h with h | h
        · exact .inr (.inl h)
        · exact (ih h).imp_right .inr

theorem sorted_insertRow {row : α} {rows : List α}
    (h : rows.Pairwise fun a b => key a < key b) :
    (insertRow row rows).Pairwise fun a b => key a < key b := by
  induction rows with
  | nil => simp [insertRow]
  | cons other rest ih =>
    obtain ⟨before, sorted⟩ := List.pairwise_cons.1 h
    unfold insertRow
    split
    next less =>
      refine List.pairwise_cons.2 ⟨fun x hx => ?_, h⟩
      rcases List.mem_cons.1 hx with rfl | hx
      · exact less
      · exact Nat.lt_trans less (before x hx)
    next notLess =>
      split
      next same => exact List.pairwise_cons.2 ⟨fun x hx => same ▸ before x hx, sorted⟩
      next different =>
        refine List.pairwise_cons.2 ⟨fun x hx => ?_, ih sorted⟩
        rcases mem_insertRow hx with rfl | hx
        · have unequal : (key x).value ≠ (key other).value := fun e => different (Uuid.ext e)
          have notLess : ¬(key x).value < (key other).value := notLess
          show (key other).value < (key x).value
          omega
        · exact before x hx

theorem find?_insertRow_self (row : α) (rows : List α) :
    (insertRow row rows).find? (fun x => key x = key row) = some row := by
  induction rows with
  | nil => simp [insertRow]
  | cons other rest ih =>
    unfold insertRow
    split
    · simp
    · split
      · simp
      next different =>
        rw [List.find?_cons_of_neg (by simpa using Ne.symm different)]
        exact ih

theorem find?_insertRow_of_ne {row : α} {id : Uuid} (rows : List α) (h : key row ≠ id) :
    (insertRow row rows).find? (fun x => key x = id) = rows.find? fun x => key x = id := by
  induction rows with
  | nil => simp [insertRow, h]
  | cons other rest ih =>
    unfold insertRow
    split
    · rw [List.find?_cons_of_neg (by simpa using h)]
    · split
      next same =>
        rw [List.find?_cons_of_neg (by simpa using h),
          List.find?_cons_of_neg (by simpa [← same] using h)]
      · simp only [List.find?_cons, ih]

/-- The table with one more row, which takes the place of one with its key. -/
def insert (t : Table α) (row : α) : Table α :=
  ⟨insertRow row t.rows, sorted_insertRow t.sorted⟩

def filter (t : Table α) (p : α → Bool) : Table α := ⟨t.rows.filter p, t.sorted.filter p⟩

def erase (t : Table α) (id : Uuid) : Table α := t.filter fun row => key row ≠ id

theorem find?_empty (id : Uuid) : (empty : Table α).find? id = none := rfl

/-- Looking up after an insertion finds the new row under its key and the old rows elsewhere. -/
theorem find?_insert (t : Table α) (row : α) (id : Uuid) :
    (t.insert row).find? id = if key row = id then some row else t.find? id := by
  split
  next same => subst same; exact find?_insertRow_self row t.rows
  next different => exact find?_insertRow_of_ne t.rows different

theorem key_of_find? {t : Table α} {id : Uuid} {row : α} (h : t.find? id = some row) :
    key row = id := by
  simpa using List.find?_some h

theorem mem_of_find? {t : Table α} {id : Uuid} {row : α} (h : t.find? id = some row) :
    row ∈ t.rows := List.mem_of_find?_eq_some h

theorem key_injective_of_sorted {rows : List α}
    (sorted : rows.Pairwise fun a b => key a < key b) {a b : α} (ha : a ∈ rows) (hb : b ∈ rows)
    (h : key a = key b) : a = b := by
  induction rows with
  | nil => simp at ha
  | cons c rest ih =>
    obtain ⟨before, sorted⟩ := List.pairwise_cons.1 sorted
    have irrefl (x y : α) (hxy : key x = key y) : ¬key x < key y := by
      rw [hxy]; exact Nat.lt_irrefl _
    rcases List.mem_cons.1 ha with rfl | inRest <;> rcases List.mem_cons.1 hb with rfl | inRest'
    · rfl
    · exact absurd (before b inRest') (irrefl _ _ h)
    · exact absurd (before a inRest) (irrefl _ _ h.symm)
    · exact ih sorted inRest inRest'

theorem find?_eq_some_iff {t : Table α} {id : Uuid} {row : α} :
    t.find? id = some row ↔ row ∈ t.rows ∧ key row = id := by
  constructor
  · exact fun h => ⟨mem_of_find? h, key_of_find? h⟩
  · rintro ⟨member, rfl⟩
    cases found : t.find? (key row) with
    | none =>
      have absent := List.find?_eq_none.1 found row member
      simp at absent
    | some other =>
      have same := key_injective_of_sorted t.sorted (mem_of_find? found) member
        (key_of_find? found)
      rw [same]

theorem mem_rows_iff {t : Table α} {row : α} : row ∈ t.rows ↔ t.find? (key row) = some row := by
  rw [find?_eq_some_iff, and_iff_left rfl]

theorem mem_insert_iff {t : Table α} {row x : α} :
    x ∈ (t.insert row).rows ↔ x = row ∨ (x ∈ t.rows ∧ key x ≠ key row) := by
  have found := find?_insert t row (key x)
  rw [mem_rows_iff, found]
  split
  next same => simp [same, eq_comm]
  next different =>
    simp only [find?_eq_some_iff, and_true]
    constructor
    · exact fun member => .inr ⟨member, Ne.symm different⟩
    · rintro (rfl | ⟨member, _⟩)
      · exact absurd rfl different
      · exact member

theorem rows_eq_of_mem_iff {r s : List α} (hr : r.Pairwise fun a b => key a < key b)
    (hs : s.Pairwise fun a b => key a < key b) (h : ∀ x, x ∈ r ↔ x ∈ s) : r = s := by
  have irrefl (x : α) : ¬key x < key x := Nat.lt_irrefl _
  induction r generalizing s with
  | nil =>
    cases s with
    | nil => rfl
    | cons b s => exact absurd ((h b).2 (List.mem_cons_self ..)) List.not_mem_nil
  | cons a r ih =>
    cases s with
    | nil => exact absurd ((h a).1 (List.mem_cons_self ..)) List.not_mem_nil
    | cons b s =>
      obtain ⟨beforeR, tailR⟩ := List.pairwise_cons.1 hr
      obtain ⟨beforeS, tailS⟩ := List.pairwise_cons.1 hs
      have same : a = b := by
        rcases List.mem_cons.1 ((h a).1 (List.mem_cons_self ..)) with same | inS
        · exact same
        · rcases List.mem_cons.1 ((h b).2 (List.mem_cons_self ..)) with same | inR
          · exact same.symm
          · exact absurd (Nat.lt_trans (beforeS a inS) (beforeR b inR)) (irrefl b)
      subst same
      refine congrArg (a :: ·) (ih tailR tailS fun x => ⟨fun inR => ?_, fun inS => ?_⟩)
      · rcases List.mem_cons.1 ((h x).1 (List.mem_cons_of_mem _ inR)) with rfl | inS
        · exact absurd (beforeR x inR) (irrefl x)
        · exact inS
      · rcases List.mem_cons.1 ((h x).2 (List.mem_cons_of_mem _ inS)) with rfl | inR
        · exact absurd (beforeS x inS) (irrefl x)
        · exact inR

theorem eq_of_find?_eq {s t : Table α} (h : ∀ id, s.find? id = t.find? id) : s = t := by
  refine eq_of_rows_eq (rows_eq_of_mem_iff s.sorted t.sorted fun x => ?_)
  rw [mem_rows_iff, mem_rows_iff, h]

end Table

end BoxOffice
