import BoxOffice.Text.Digits
import Mathlib.Tactic.Ring

/-!
Digits that are read after they were written. A number is what its digits denote, whether it is
written with a fixed width, with leading zeros or with as few digits as there are; and what stands
behind digits and is none itself ends them.
-/

namespace BoxOffice.Text

variable {base width n : Nat} {ds : List Nat}

/-! ### The number that digits denote -/

theorem ofDigits_concat (base : Nat) (ds : List Nat) (d : Nat) :
    ofDigits base (ds ++ [d]) = ofDigits base ds * base + d := by
  rw [ofDigits, List.foldl_append]
  rfl

theorem foldl_digits (base n : Nat) (ds : List Nat) :
    ds.foldl (fun n d => n * base + d) n = n * base ^ ds.length + ofDigits base ds := by
  induction ds generalizing n with
  | nil => simp [ofDigits]
  | cons d ds ih =>
    have first : ofDigits base (d :: ds) = (0 * base + d) * base ^ ds.length + ofDigits base ds :=
      ih (0 * base + d)
    rw [List.foldl_cons, ih, first, List.length_cons]
    ring

theorem ofDigits_append (base : Nat) (ds ds' : List Nat) :
    ofDigits base (ds ++ ds') = ofDigits base ds * base ^ ds'.length + ofDigits base ds' := by
  rw [ofDigits, List.foldl_append, foldl_digits]
  rfl

theorem ofDigits_cons (base d : Nat) (ds : List Nat) :
    ofDigits base (d :: ds) = d * base ^ ds.length + ofDigits base ds := by
  have one : ofDigits base [d] = d := by simp [ofDigits]
  rw [← List.singleton_append, ofDigits_append, one]

theorem ofDigits_replicate_zero (base count : Nat) (ds : List Nat) :
    ofDigits base (List.replicate count 0 ++ ds) = ofDigits base ds := by
  have zero : ofDigits base (List.replicate count 0) = 0 := by
    induction count with
    | zero => rfl
    | succ count ih => rw [List.replicate_succ', ofDigits_concat, ih, Nat.zero_mul]
  rw [ofDigits_append, zero, Nat.zero_mul, Nat.zero_add]

/-! ### Digits of a fixed width -/

@[simp] theorem length_fixedDigits (base width n : Nat) :
    (fixedDigits base width n).length = width := by
  induction width generalizing n with
  | zero => rfl
  | succ width ih => rw [fixedDigits, List.length_append, ih, List.length_singleton]

theorem lt_of_mem_fixedDigits (pos : 0 < base) : ∀ d ∈ fixedDigits base width n, d < base := by
  induction width generalizing n with
  | zero => exact fun d member => absurd member List.not_mem_nil
  | succ width ih =>
    intro d member
    rw [fixedDigits, List.mem_append, List.mem_singleton] at member
    rcases member with front | rfl
    · exact ih d front
    · exact Nat.mod_lt n pos

/-- The last digits of a number denote what is left of it. -/
theorem ofDigits_fixedDigits (base width n : Nat) :
    ofDigits base (fixedDigits base width n) = n % base ^ width := by
  induction width generalizing n with
  | zero => rw [Nat.pow_zero, Nat.mod_one]; rfl
  | succ width ih =>
    rw [fixedDigits, ofDigits_concat, ih, Nat.pow_succ', Nat.mod_mul, Nat.mul_comm, Nat.add_comm]

theorem ofDigits_fixedDigits_of_lt (fits : n < base ^ width) :
    ofDigits base (fixedDigits base width n) = n := by
  rw [ofDigits_fixedDigits, Nat.mod_eq_of_lt fits]

/-! ### Decimal digits -/

theorem decimalDigits_ne_nil (n : Nat) : decimalDigits n ≠ [] := by
  rw [decimalDigits]
  split <;> simp

theorem ofDigits_decimalDigits (n : Nat) : ofDigits 10 (decimalDigits n) = n := by
  induction n using decimalDigits.induct with
  | case1 n small =>
    rw [decimalDigits, if_pos small, ofDigits_cons]
    simp [ofDigits]
  | case2 n large ih =>
    rw [decimalDigits, if_neg large, ofDigits_concat, ih]
    exact Nat.div_add_mod' n 10

theorem lt_of_mem_decimalDigits : ∀ d ∈ decimalDigits n, d < 10 := by
  induction n using decimalDigits.induct with
  | case1 n small =>
    rw [decimalDigits, if_pos small]
    simpa using small
  | case2 n large ih =>
    rw [decimalDigits, if_neg large]
    intro d member
    rcases List.mem_append.1 member with front | last
    · exact ih d front
    · rw [List.mem_singleton.1 last]
      exact Nat.mod_lt n (by decide)

/-- Only zero is written with a leading zero. -/
theorem head?_decimalDigits (pos : 0 < n) : (decimalDigits n).head? ≠ some 0 := by
  induction n using decimalDigits.induct with
  | case1 n small =>
    rw [decimalDigits, if_pos small]
    simpa using Nat.ne_of_gt pos
  | case2 n large ih =>
    obtain ⟨d, ds, front⟩ := List.exists_cons_of_ne_nil (decimalDigits_ne_nil (n / 10))
    have first := ih (by omega)
    rw [decimalDigits, if_neg large, front]
    rwa [front] at first

/-! ### Characters of digits -/

theorem digit?_digitChar {d : Nat} (small : d < 10) : digit? (digitChar d) = some d := by
  revert d
  decide

theorem hexDigit?_digitChar {d : Nat} (small : d < 16) : hexDigit? (digitChar d) = some d := by
  revert d
  decide

/-- No digit is taken for a sign. -/
theorem digitChar_ne_sign {d : Nat} (small : d < 10) : digitChar d ≠ '-' ∧ digitChar d ≠ '+' := by
  revert d
  decide

theorem exists_decimal_eq (n : Nat) : ∃ d cs, d < 10 ∧ decimal n = digitChar d :: cs := by
  obtain ⟨d, ds, eq⟩ := List.exists_cons_of_ne_nil (decimalDigits_ne_nil n)
  have small : d < 10 := lt_of_mem_decimalDigits d (eq ▸ List.mem_cons_self)
  exact ⟨d, ds.map digitChar, small, by rw [decimal, eq, List.map_cons]⟩

/-- With leading zeros, too, a number is written with digits that denote it. -/
theorem exists_decimalAtLeast_eq (width n : Nat) : ∃ ds, decimalAtLeast width n = ds.map digitChar ∧
    (∀ d ∈ ds, d < 10) ∧ ds ≠ [] ∧ ofDigits 10 ds = n := by
  refine ⟨List.replicate (width - (decimal n).length) 0 ++ decimalDigits n, ?_, ?_, ?_, ?_⟩
  · rw [decimalAtLeast, List.map_append, List.map_replicate]
    rfl
  · intro d member
    rcases List.mem_append.1 member with zeros | digits
    · rw [List.eq_of_mem_replicate zeros]
      decide
    · exact lt_of_mem_decimalDigits d digits
  · simp [decimalDigits_ne_nil]
  · rw [ofDigits_replicate_zero, ofDigits_decimalDigits]

theorem mapM_hexDigit? (digits : ∀ d ∈ ds, d < 16) :
    (ds.map digitChar).mapM hexDigit? = some ds := by
  induction ds with
  | nil => rfl
  | cons d ds ih =>
    obtain ⟨small, rest⟩ := List.forall_mem_cons.1 digits
    rw [List.map_cons, List.mapM_cons, hexDigit?_digitChar small, ih rest]
    rfl

def EndsDigits (rest : List Char) : Prop := ∀ c ∈ rest.head?, digit? c = none

theorem endsDigits_nil : EndsDigits [] := by
  intro c member
  cases member

theorem endsDigits_cons {c : Char} (other : digit? c = none) (rest : List Char) :
    EndsDigits (c :: rest) := by
  rintro c ⟨⟩
  exact other

/-- The digits at the front of a text go on for as long as there are some. -/
theorem spanDigits_append_fst (digits : ∀ d ∈ ds, d < 10) (rest : List Char) :
    (spanDigits (ds.map digitChar ++ rest)).1 = ds ++ (spanDigits rest).1 := by
  induction ds with
  | nil => rfl
  | cons d ds ih =>
    obtain ⟨small, others⟩ := List.forall_mem_cons.1 digits
    rw [List.map_cons, List.cons_append, spanDigits, digit?_digitChar small]
    exact congrArg (d :: ·) (ih others)

theorem spanDigits_append (digits : ∀ d ∈ ds, d < 10) {rest : List Char} (ends : EndsDigits rest) :
    spanDigits (ds.map digitChar ++ rest) = (ds, rest) := by
  induction ds with
  | nil =>
    cases rest with
    | nil => rfl
    | cons c rest =>
      have none : digit? c = none := ends c rfl
      show spanDigits (c :: rest) = _
      rw [spanDigits, none]
  | cons d ds ih =>
    obtain ⟨small, others⟩ := List.forall_mem_cons.1 digits
    rw [List.map_cons, List.cons_append, spanDigits, digit?_digitChar small, ih others]

end BoxOffice.Text
