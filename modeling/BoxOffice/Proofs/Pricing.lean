import BoxOffice.Proofs.Rules
import BoxOffice.Proofs.Spelling

/-!
Prices and the column that keeps them. A price is checked by its sign, by a comparison with a limit
and by rounding it, each of which looks at digits with a scale. What comes of it can be told from
the number alone, so that zeros at the end of the digits do not count: accepted are the prices that
a column of twelve digits holds, two of them after the point.
-/

namespace BoxOffice

namespace Decimal

variable {d : Decimal}

theorem value_neg_iff : d.value < 0 ↔ d.coefficient < 0 := by
  have scale_pos : (0 : ℚ) < 10 ^ d.scale := by positivity
  rw [value, div_lt_iff₀ scale_pos, zero_mul, Int.cast_lt_zero]

theorem value_lt_pow_iff (digits : ℕ) :
    d.value < 10 ^ digits ↔ d.coefficient < 10 ^ (digits + d.scale) := by
  have scale_pos : (0 : ℚ) < 10 ^ d.scale := by positivity
  rw [value, div_lt_iff₀ scale_pos, ← pow_add]
  exact_mod_cast Iff.rfl

/-- The number has at most so many places if the digits after them are zeros. -/
theorem exists_value_eq_div_iff (places : ℕ) :
    (∃ n : ℤ, d.value = n / 10 ^ places) ↔ 10 ^ d.scale ∣ 10 ^ places * d.coefficient := by
  have scale_ne : (10 : ℚ) ^ d.scale ≠ 0 := by positivity
  have places_ne : (10 : ℚ) ^ places ≠ 0 := by positivity
  refine exists_congr fun n => ?_
  rw [value, div_eq_div_iff scale_ne places_ne, mul_comm, mul_comm (n : ℚ)]
  exact_mod_cast Iff.rfl

theorem ProperlySigned.value_neg_iff (signed : d.ProperlySigned) :
    d.value < 0 ↔ d.negative = true := by
  rw [Decimal.value_neg_iff, coefficient]
  cases negative : d.negative with
  | false => simp
  | true =>
    have pos : 0 < d.size := Nat.pos_of_ne_zero (signed negative)
    simpa using pos

end Decimal

/-- A column for decimal numbers holds the number in so many digits, so many of them after the
point. -/
def ColumnHolds (digits places : ℕ) (v : ℚ) : Prop :=
  ∃ n : ℤ, |n| < 10 ^ digits ∧ v = n / 10 ^ places

/-- The digits before the point bound the numbers of a column, and those after it their places. -/
theorem columnHolds_iff (whole places : ℕ) {v : ℚ} :
    ColumnHolds (whole + places) places v ↔
      |v| < 10 ^ whole ∧ ∃ n : ℤ, v = n / 10 ^ places := by
  have places_pos : (0 : ℚ) < 10 ^ places := by positivity
  have bound_iff (n : ℤ) : |(n : ℚ) / 10 ^ places| < 10 ^ whole ↔ |n| < 10 ^ (whole + places) := by
    rw [abs_div, abs_of_pos places_pos, div_lt_iff₀ places_pos, ← pow_add]
    exact_mod_cast Iff.rfl
  constructor
  · rintro ⟨n, bound, rfl⟩
    exact ⟨(bound_iff n).2 bound, n, rfl⟩
  · rintro ⟨bound, n, rfl⟩
    exact ⟨n, (bound_iff n).1 bound, rfl⟩

namespace TicketClass

variable {price : Decimal}

/-- The rules for a price that is known as a number. -/
def checkValue (v : ℚ) : Except Invalid Unit := do
  refuseIf (v < 0) .priceNegative
  refuseIf (10 ^ 10 ≤ v) .priceTooLarge
  refuseIf (!(100 * v).isInt) .priceTooFine

theorem isInt_hundred_mul_iff {v : ℚ} : (100 * v).isInt = true ↔ ∃ n : ℤ, v = n / 100 := by
  rw [Rat.isInt, beq_iff_eq, Rat.den_eq_one_iff]
  constructor
  · intro whole
    exact ⟨(100 * v).num, by rw [whole]; ring⟩
  · rintro ⟨n, rfl⟩
    rw [mul_div_cancel₀ _ (by norm_num : (100 : ℚ) ≠ 0), Rat.num_intCast]

/-- A number that is not negative is no negative number of hundredths. -/
theorem exists_nat_div_iff {v : ℚ} (nonneg : 0 ≤ v) :
    (∃ n : ℕ, v = n / 100) ↔ ∃ n : ℤ, v = n / 100 := by
  constructor
  · rintro ⟨n, rfl⟩
    exact ⟨n, by push_cast; rfl⟩
  · rintro ⟨n, rfl⟩
    rw [le_div_iff₀ (by norm_num), zero_mul] at nonneg
    have numerator_nonneg : 0 ≤ n := by exact_mod_cast nonneg
    obtain ⟨k, rfl⟩ := Int.eq_ofNat_of_zero_le numerator_nonneg
    exact ⟨k, by push_cast; rfl⟩

/-- Only the number counts, not the digits that it is written with. -/
theorem checkPrice_eq_checkValue (signed : price.ProperlySigned) :
    checkPrice price = checkValue price.value := by
  have sign_eq : price.negative = decide (price.value < 0) := by
    rw [Bool.eq_iff_iff, decide_eq_true_iff, signed.value_neg_iff]
  rw [checkPrice, checkValue, ← sign_eq]
  cases unsigned : price.negative with
  | true => rfl
  | false =>
    have size_eq : priceLimit.valueLe price = decide (10 ^ 10 ≤ price.value) := by
      rw [Bool.eq_iff_iff, decide_eq_true_iff, valueLe_priceLimit_iff]
    have fine_iff : (2 < price.scale && !(price.round 2).valueEq price) = false ↔
        (100 * price.value).isInt = true := by
      rw [fine_eq_false_iff unsigned, exists_nat_div_iff (Decimal.value_nonneg unsigned),
        isInt_hundred_mul_iff]
    have places_eq : (2 < price.scale && !(price.round 2).valueEq price) =
        !(100 * price.value).isInt := by
      rwa [← Bool.not_eq_eq_eq_not, Bool.eq_iff_iff, Bool.not_eq_true']
    rw [size_eq, places_eq]

/-- Without a sign on zero, a proper price is one of a proper number. -/
theorem properPrice_iff (signed : price.ProperlySigned) : ProperPrice price ↔
    0 ≤ price.value ∧ price.value < 10 ^ 10 ∧ ∃ n : ℤ, price.value = n / 100 := by
  constructor
  · intro proper
    exact ⟨proper.nonneg, proper.below, (exists_nat_div_iff proper.nonneg).1 proper.hundredths⟩
  · rintro ⟨nonneg, below, hundredths⟩
    have unsigned : price.negative = false := by
      rwa [← Bool.not_eq_true, ← signed.value_neg_iff, not_lt]
    exact ⟨unsigned, nonneg, below, (exists_nat_div_iff nonneg).2 hundredths⟩

/-- Exactly the prices are accepted that a column of twelve digits holds, two of them after the
point: those with at most ten digits before the point, and after it only zeros past the second.
Zeros at the end of the digits make no difference, also to what is told of a price that is
refused. -/
theorem prices_held_exactly (signed : price.ProperlySigned) :
    (checkPrice price = .ok () ↔ 0 ≤ price.coefficient ∧
      price.coefficient < 10 ^ (10 + price.scale) ∧
        10 ^ price.scale ∣ 100 * price.coefficient) ∧
    (checkPrice price = .ok () ↔
      0 ≤ price.value ∧ price.value < 10 ^ 10 ∧ ∃ n : ℤ, price.value = n / 100) ∧
    (checkPrice price = .ok () ↔ 0 ≤ price.value ∧ ColumnHolds 12 2 price.value) ∧
    ∀ other : Decimal, other.ProperlySigned → other.value = price.value →
      checkPrice other = checkPrice price := by
  have accepted_iff : checkPrice price = .ok () ↔
      0 ≤ price.value ∧ price.value < 10 ^ 10 ∧ ∃ n : ℤ, price.value = n / 100 := by
    rw [checkPrice_eq_ok_iff, properPrice_iff signed]
  have nonneg_iff : 0 ≤ price.value ↔ 0 ≤ price.coefficient := by
    rw [← not_lt, Decimal.value_neg_iff, not_lt]
  have hundred : (10 : ℚ) ^ 2 = 100 := by norm_num
  have hundredths_iff : (∃ n : ℤ, price.value = n / 100) ↔
      10 ^ price.scale ∣ 100 * price.coefficient := by
    simpa [hundred] using Decimal.exists_value_eq_div_iff 2
  have held_iff : ColumnHolds 12 2 price.value ↔
      |price.value| < 10 ^ 10 ∧ ∃ n : ℤ, price.value = n / 100 := by
    simpa [hundred] using columnHolds_iff 10 2
  refine ⟨?_, accepted_iff, ?_, fun other signed' same => ?_⟩
  · rw [accepted_iff, nonneg_iff, Decimal.value_lt_pow_iff, hundredths_iff]
  · rw [accepted_iff, held_iff]
    exact and_congr_right fun nonneg => by rw [abs_of_nonneg nonneg]
  · rw [checkPrice_eq_checkValue signed, checkPrice_eq_checkValue signed', same]

/-- The largest price, with sixteen places more than the column keeps. -/
def largestPrice : Decimal := ⟨false, 9999999999990000000000000000, 18, by decide, by decide⟩

/-- A price that would be rounded up to the limit. -/
def pricePastLargest : Decimal := ⟨false, 9999999999995, 3, by decide, by decide⟩

/-- The largest price is accepted, whatever its places. What would be rounded up from there is
not. -/
theorem prices_held_exactly_largest :
    largestPrice.ProperlySigned ∧ checkPrice largestPrice = .ok () ∧
      pricePastLargest.ProperlySigned ∧ checkPrice pricePastLargest ≠ .ok () := by
  have signed : largestPrice.ProperlySigned := fun negative => (nomatch negative)
  have signed' : pricePastLargest.ProperlySigned := fun negative => (nomatch negative)
  refine ⟨signed, (prices_held_exactly signed).1.2 (by decide), signed', fun accepted => ?_⟩
  exact absurd ((prices_held_exactly signed').1.1 accepted) (by decide)

end TicketClass

end BoxOffice
