import BoxOffice.Table
import Mathlib.Data.List.Perm.Basic

/-!
Rows of tables. Two ways of writing to a table are enough for everything a store does to its
rows: `update` changes rows in place and never a key, and `insertAll` adds rows under keys that
are free. Both are described by the rows they leave, so sums over the rows of a table follow
from facts about lists.
-/

namespace BoxOffice.Table

open Keyed (key)

variable {α : Type} [Keyed α]

theorem key_ne_of_lt {a b : α} (less : key a < key b) : key a ≠ key b := by
  intro same
  rw [same] at less
  exact Nat.lt_irrefl _ less

theorem nodup_keys (t : Table α) : (t.rows.map key).Nodup :=
  List.pairwise_map.2 (t.sorted.imp key_ne_of_lt)

theorem nodup_rows (t : Table α) : t.rows.Nodup :=
  t.sorted.imp fun less same => key_ne_of_lt less (congrArg key same)

theorem eq_of_key_eq {t : Table α} {a b : α} (ha : a ∈ t.rows) (hb : b ∈ t.rows)
    (same : key a = key b) : a = b :=
  key_injective_of_sorted t.sorted ha hb same

theorem find?_eq_none_iff {t : Table α} {id : Uuid} :
    t.find? id = none ↔ ∀ row ∈ t.rows, key row ≠ id := by
  simp [find?]

theorem exists_find?_of_mem {t : Table α} {row : α} (member : row ∈ t.rows) :
    t.find? (key row) = some row :=
  mem_rows_iff.1 member

/-- Among the rows that satisfy a condition, the row with a key is found if it does. -/
theorem find?_filter (t : Table α) (p : α → Bool) (id : Uuid) :
    (t.filter p).find? id = (t.find? id).filter p := by
  refine Option.ext fun row => ?_
  rw [find?_eq_some_iff, Option.filter_eq_some_iff, find?_eq_some_iff, filter, List.mem_filter]
  exact and_right_comm

theorem find?_erase (t : Table α) (id other : Uuid) :
    (t.erase id).find? other = if other = id then none else t.find? other := by
  rw [erase, find?_filter]
  cases found : t.find? other with
  | none => simp
  | some row =>
    have sameKey : key row = other := key_of_find? found
    by_cases here : other = id <;> simp [sameKey, here]

/-! ### Rows changed in place -/

def update (t : Table α) (f : α → α) (keeps : ∀ row, key (f row) = key row) : Table α :=
  ⟨t.rows.map f, List.pairwise_map.2 (t.sorted.imp fun less => by simpa only [keeps] using less)⟩

section Update

variable {t : Table α} {f g : α → α} {hf : ∀ row, key (f row) = key row}
  {hg : ∀ row, key (g row) = key row}

@[simp] theorem rows_update : (t.update f hf).rows = t.rows.map f := rfl

@[simp] theorem find?_update (id : Uuid) : (t.update f hf).find? id = (t.find? id).map f := by
  simp only [find?, rows_update, List.find?_map]
  congr 2
  funext row
  simp [hf]

theorem update_update :
    (t.update f hf).update g hg = t.update (fun row => g (f row)) fun row => by rw [hg, hf] :=
  eq_of_rows_eq (by simp)

theorem update_congr (same : ∀ row ∈ t.rows, f row = g row) : t.update f hf = t.update g hg :=
  eq_of_rows_eq (List.map_congr_left same)

theorem update_eq_self (same : ∀ row ∈ t.rows, f row = row) : t.update f hf = t :=
  eq_of_rows_eq (by simpa using List.map_congr_left (g := id) same)

end Update

/-- To insert a row under a key that is taken is to change the row with that key. -/
theorem insert_eq_update {t : Table α} {row old : α} (found : t.find? (key row) = some old) :
    t.insert row = t.update (fun x => if key x = key row then row else x)
      (fun x => by split <;> simp_all) := by
  refine eq_of_find?_eq fun id => ?_
  rw [find?_insert, find?_update]
  split
  next same =>
    subst same
    simp [found, key_of_find? found]
  next different =>
    cases here : t.find? id with
    | none => rfl
    | some x => simp [key_of_find? here, Ne.symm different]

/-! ### Rows added -/

def insertAll (t : Table α) (rows : List α) : Table α := rows.foldl insert t

@[simp] theorem insertAll_nil (t : Table α) : t.insertAll [] = t := rfl

@[simp] theorem insertAll_cons (t : Table α) (row : α) (rows : List α) :
    t.insertAll (row :: rows) = (t.insert row).insertAll rows := rfl

theorem mem_insertAll_iff {t : Table α} {rows : List α} {x : α}
    (distinct : (rows.map key).Nodup) (free : ∀ row ∈ rows, ∀ old ∈ t.rows, key old ≠ key row) :
    x ∈ (t.insertAll rows).rows ↔ x ∈ rows ∨ x ∈ t.rows := by
  induction rows generalizing t with
  | nil => simp
  | cons row rows ih =>
    obtain ⟨apart, distinct⟩ := List.nodup_cons.1 distinct
    have stillFree : ∀ later ∈ rows, ∀ old ∈ (t.insert row).rows, key old ≠ key later := by
      intro later inRows old inTable same
      rcases mem_insert_iff.1 inTable with rfl | ⟨inTable, -⟩
      · exact apart (same ▸ List.mem_map_of_mem inRows)
      · exact free later (List.mem_cons_of_mem _ inRows) old inTable same
    have notReplaced : x ∈ t.rows → key x ≠ key row := free row List.mem_cons_self x
    rw [insertAll_cons, ih distinct stillFree, mem_insert_iff, List.mem_cons]
    constructor
    · rintro (inRows | rfl | ⟨inTable, -⟩)
      · exact .inl (.inr inRows)
      · exact .inl (.inl rfl)
      · exact .inr inTable
    · rintro ((rfl | inRows) | inTable)
      · exact .inr (.inl rfl)
      · exact .inl inRows
      · exact .inr (.inr ⟨inTable, notReplaced inTable⟩)

end BoxOffice.Table
