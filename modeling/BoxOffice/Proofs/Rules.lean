import BoxOffice.TicketClass.Changes
import BoxOffice.TicketClass.Draft
import Mathlib

/-!
What the rules for ticket classes accept. Each check is matched with the property of the field
that it stands for, so that what is known of a class need not mention how it was checked: a name
is the trimmed text that is stored, a price is a number and not digits with a scale.

Blanks and cases are the two places where what is checked is not what is stored. A name is stored
without the blanks around it, and a currency code in upper case as well.
-/

namespace BoxOffice

/-! ### Texts -/

namespace Text

theorem dropBlankEnd_eq (cs : List Char) : dropBlankEnd cs = cs.rdropWhile isBlank := rfl

/-- No blank comes first where the blanks before it were dropped, even when the end is dropped. -/
theorem dropBlank_dropBlankEnd (cs : List Char) :
    dropBlank (dropBlankEnd (dropBlank cs)) = dropBlankEnd (dropBlank cs) := by
  rw [dropBlankEnd_eq]
  obtain ⟨dropped, split⟩ := List.rdropWhile_prefix isBlank (dropBlank cs)
  cases kept : (dropBlank cs).rdropWhile isBlank with
  | nil => rfl
  | cons c rest =>
    have starts : dropBlank cs = c :: (rest ++ dropped) := by rw [← split, kept, List.cons_append]
    have notBlank : isBlank c = false := by
      have head := List.head_dropWhile_not isBlank (l := cs) (by
        show dropBlank cs ≠ []
        rw [starts]
        exact List.cons_ne_nil _ _)
      simpa only [show cs.dropWhile isBlank = c :: (rest ++ dropped) from starts,
        List.head_cons] using head
    exact List.dropWhile_cons_of_neg (by simp [notBlank])

theorem trim_trim (s : String) : trim (trim s) = trim s := by
  simp only [trim, trimChars, String.toList_ofList, dropBlank_dropBlankEnd]
  simp only [dropBlankEnd_eq, List.rdropWhile_idempotent]

theorem dropBlank_eq_self {cs : List Char} (none : ∀ c ∈ cs, isBlank c = false) :
    dropBlank cs = cs := by
  cases cs with
  | nil => rfl
  | cons c cs => exact List.dropWhile_cons_of_neg (by simp [none c List.mem_cons_self])

theorem trim_eq_self {s : String} (none : ∀ c ∈ s.toList, isBlank c = false) : trim s = s := by
  have noneReversed : ∀ c ∈ s.toList.reverse, isBlank c = false := by simpa using none
  rw [trim, trimChars, dropBlank_eq_self none, dropBlankEnd, dropBlank_eq_self noneReversed,
    List.reverse_reverse, String.ofList_toList]

theorem upperOf_of_isAlpha {c : Char} (letter : c.isAlpha = true) : upperOf c = [c.toUpper] := by
  have ascii : c.toNat < 0x80 := by
    simp only [Char.isAlpha, Char.isUpper, Char.isLower, Bool.or_eq_true, Bool.and_eq_true,
      decide_eq_true_eq, ge_iff_le, UInt32.le_iff_toNat_le] at letter
    have same : c.val.toNat = c.toNat := rfl
    rcases letter with ⟨-, bound⟩ | ⟨-, bound⟩ <;> simp at bound <;> omega
  simp only [upperOf, if_pos ascii]

theorem upper_of_isAlpha {cs : List Char} (letters : ∀ c ∈ cs, c.isAlpha = true) :
    upper cs = cs.map Char.toUpper := by
  induction cs with
  | nil => rfl
  | cons c cs ih =>
    obtain ⟨first, rest⟩ := List.forall_mem_cons.1 letters
    rw [upper, List.flatMap_cons, upperOf_of_isAlpha first, ← upper, ih rest]
    rfl

end Text

/-! ### Numbers -/

theorem roundDiv_mul_self {n den : Nat} (pos : 0 < den) : roundDiv (n * den) den = n := by
  simp [roundDiv, Nat.mul_mod_left, Nat.mul_div_cancel n pos, pos]

namespace Decimal

/-- The number that digits with a scale stand for. -/
def value (d : Decimal) : ℚ := d.coefficient / 10 ^ d.scale

theorem valueLe_iff {a b : Decimal} : a.valueLe b = true ↔ a.value ≤ b.value := by
  have posA : (0 : ℚ) < 10 ^ a.scale := by positivity
  have posB : (0 : ℚ) < 10 ^ b.scale := by positivity
  rw [valueLe, decide_eq_true_eq, value, value, div_le_div_iff₀ posA posB, Nat.pow_eq, Nat.pow_eq]
  exact_mod_cast Iff.rfl

theorem valueEq_iff {a b : Decimal} : a.valueEq b = true ↔ a.value = b.value := by
  have posA : (10 : ℚ) ^ a.scale ≠ 0 := by positivity
  have posB : (10 : ℚ) ^ b.scale ≠ 0 := by positivity
  rw [valueEq, beq_iff_eq, value, value, div_eq_div_iff posA posB, Nat.pow_eq, Nat.pow_eq]
  exact_mod_cast Iff.rfl

theorem value_of_unsigned {d : Decimal} (unsigned : d.negative = false) :
    d.value = d.size / 10 ^ d.scale := by
  simp [value, coefficient, unsigned]

theorem value_nonneg {d : Decimal} (unsigned : d.negative = false) : 0 ≤ d.value := by
  rw [value_of_unsigned unsigned]
  positivity

/-- Rounding to two places keeps exactly the numbers of whole hundredths. -/
theorem value_round_two_iff {d : Decimal} (unsigned : d.negative = false) (fine : 2 < d.scale) :
    (d.round 2).value = d.value ↔ ∃ n : Nat, d.value = n / 100 := by
  have rounded : (d.round 2).value = (roundDiv d.size (10 ^ (d.scale - 2)) : Nat) / 100 := by
    rw [value_of_unsigned (by simp [round, fine, unsigned]), round, dif_pos fine]
    norm_num
  constructor
  · intro same
    exact ⟨_, same.symm.trans rounded⟩
  · rintro ⟨n, hundredths⟩
    have size_eq : d.size = n * 10 ^ (d.scale - 2) := by
      have scale_eq : (10 : ℚ) ^ d.scale = 100 * 10 ^ (d.scale - 2) := by
        rw [show (100 : ℚ) = 10 ^ 2 by norm_num, ← pow_add, Nat.add_sub_cancel' fine.le]
      rw [value_of_unsigned unsigned, div_eq_div_iff (by positivity) (by norm_num), scale_eq]
        at hundredths
      have asFraction : (d.size : ℚ) = n * 10 ^ (d.scale - 2) := by linarith
      exact_mod_cast asFraction
    rw [rounded, hundredths, size_eq, roundDiv_mul_self (by positivity)]

/-- With at most two places, the digits are hundredths but for zeros at their end. -/
theorem exists_hundredths {d : Decimal} (unsigned : d.negative = false) (coarse : d.scale ≤ 2) :
    ∃ n : Nat, d.value = n / 100 := by
  refine ⟨d.size * 10 ^ (2 - d.scale), ?_⟩
  have scale_eq : (100 : ℚ) = 10 ^ d.scale * 10 ^ (2 - d.scale) := by
    rw [← pow_add, Nat.add_sub_cancel' coarse]
    norm_num
  rw [value_of_unsigned unsigned, div_eq_div_iff (by positivity) (by norm_num), scale_eq]
  push_cast
  ring

end Decimal

/-! ### Checks -/

theorem seq_eq_ok_iff {ε : Type} {first rest : Except ε Unit} :
    (first >>= fun _ => rest) = .ok () ↔ first = .ok () ∧ rest = .ok () := by
  cases first <;> simp [bind, Except.bind]

namespace TicketClass

@[simp] theorem refuseIf_eq_ok_iff {broken : Bool} {reason : Invalid} :
    refuseIf broken reason = .ok () ↔ broken = false := by
  cases broken <;> simp [refuseIf]

structure ProperName (name : String) : Prop where
  trimmed : Text.trim name = name
  nonempty : name ≠ ""
  short : name.length ≤ 255

theorem checkName_eq_ok_iff {name : String} :
    checkName name = .ok () ↔ (normalName name).length ≤ 255 := by
  rw [checkName, refuseIf_eq_ok_iff, decide_eq_false_iff_not, not_lt]
  rfl

theorem notBlank_iff {text : String} : isBlankText text = false ↔ Text.trim text ≠ "" := by
  rw [isBlankText, decide_eq_false_iff_not]

/-- A name is accepted if what is stored of it is proper. -/
theorem properName_normalName_iff {name : String} :
    ProperName (normalName name) ↔ isBlankText name = false ∧ checkName name = .ok () := by
  rw [notBlank_iff, checkName_eq_ok_iff]
  constructor
  · exact fun proper => ⟨proper.nonempty, proper.short⟩
  · exact fun accepted => ⟨Text.trim_trim name, accepted.1, accepted.2⟩

/-- A price as a number. Minus zero is no less than zero, but a price has no minus sign. -/
structure ProperPrice (price : Decimal) : Prop where
  unsigned : price.negative = false
  nonneg : 0 ≤ price.value
  below : price.value < 10 ^ 10
  hundredths : ∃ n : Nat, price.value = n / 100

theorem value_priceLimit : priceLimit.value = 10 ^ 10 := by
  norm_num [Decimal.value, Decimal.coefficient, priceLimit]

/-- The digits of a price are compared with the limit as numbers. -/
theorem valueLe_priceLimit_iff {price : Decimal} :
    priceLimit.valueLe price = true ↔ 10 ^ 10 ≤ price.value := by
  rw [Decimal.valueLe_iff, value_priceLimit]

/-- The rule for the places of a price holds of the numbers of whole hundredths. -/
theorem fine_eq_false_iff {price : Decimal} (unsigned : price.negative = false) :
    (2 < price.scale && !(price.round 2).valueEq price) = false ↔
      ∃ n : Nat, price.value = n / 100 := by
  by_cases deep : 2 < price.scale
  · rw [← Decimal.value_round_two_iff unsigned deep, ← Decimal.valueEq_iff]
    simp [deep]
  · simp only [deep, decide_false, Bool.false_and, true_iff]
    exact Decimal.exists_hundredths unsigned (not_lt.1 deep)

/-- A price is accepted if the number is proper, however many digits it is written with. -/
theorem checkPrice_eq_ok_iff {price : Decimal} : checkPrice price = .ok () ↔ ProperPrice price := by
  have fits : priceLimit.valueLe price = false ↔ price.value < 10 ^ 10 := by
    rw [← Bool.not_eq_true, valueLe_priceLimit_iff, not_le]
  have checked : checkPrice price = .ok () ↔ price.negative = false ∧
      priceLimit.valueLe price = false ∧
        (2 < price.scale && !(price.round 2).valueEq price) = false := by
    rw [checkPrice, seq_eq_ok_iff, seq_eq_ok_iff, refuseIf_eq_ok_iff, refuseIf_eq_ok_iff,
      refuseIf_eq_ok_iff]
  rw [checked, fits]
  constructor
  · rintro ⟨unsigned, below, places⟩
    exact ⟨unsigned, Decimal.value_nonneg unsigned, below, (fine_eq_false_iff unsigned).1 places⟩
  · intro proper
    exact ⟨proper.unsigned, proper.below,
      (fine_eq_false_iff proper.unsigned).2 proper.hundredths⟩

structure ProperCode (code : String) : Prop where
  length : code.length = 3
  letters : ∀ c ∈ code.toList, 'A' ≤ c ∧ c ≤ 'Z'

theorem checkCurrency_eq_ok_iff {currency : String} : checkCurrency currency = .ok () ↔
    (Text.trim currency).length = 3 ∧ ∀ c ∈ (Text.trim currency).toList, c.isAlpha = true := by
  simp [checkCurrency, isCurrencyCode]

/-- A code of three letters is not blank. -/
theorem notBlank_of_checkCurrency {currency : String} (checked : checkCurrency currency = .ok ()) :
    isBlankText currency = false := by
  have length := (checkCurrency_eq_ok_iff.1 checked).1
  rw [notBlank_iff]
  intro blank
  rw [blank] at length
  cases length

/-- The text without blanks around it, and with each of the letters `a` to `z` in upper case. -/
def capitals (text : String) : String := String.ofList ((Text.trim text).toList.map Char.toUpper)

/-- What is accepted as a code has no other letters. -/
theorem normalCurrency_eq_capitals {currency : String}
    (checked : checkCurrency currency = .ok ()) : normalCurrency currency = capitals currency := by
  have letters := (checkCurrency_eq_ok_iff.1 checked).2
  rw [capitals, ← Text.upper_of_isAlpha letters, normalCurrency, Text.trim, String.toList_ofList]

theorem isUpper_iff {c : Char} : c.isUpper = true ↔ 'A' ≤ c ∧ c ≤ 'Z' := by
  simp [Char.isUpper, Char.le_def]

/-- An accepted code is stored as a proper one. The converse fails: `ßa` is refused, though it
would be stored as `SSA`. -/
theorem properCode_normalCurrency {currency : String}
    (checked : checkCurrency currency = .ok ()) : ProperCode (normalCurrency currency) := by
  obtain ⟨length, letters⟩ := checkCurrency_eq_ok_iff.1 checked
  rw [normalCurrency_eq_capitals checked, capitals]
  constructor
  case length => rw [String.length_ofList, List.length_map, String.length_toList, length]
  case letters =>
    intro c inCode
    rw [String.toList_ofList] at inCode
    obtain ⟨letter, inText, rfl⟩ := List.mem_map.1 inCode
    rw [← isUpper_iff, Char.isUpper_toUpper_eq_isAlpha]
    exact letters letter inText

example : normalCurrency " eur " = "EUR" := by decide

section ProperCode

variable {code : String}

theorem ProperCode.isUpper (proper : ProperCode code) : ∀ c ∈ code.toList, c.isUpper = true :=
  fun c inCode => isUpper_iff.2 (proper.letters c inCode)

theorem ProperCode.trim_eq (proper : ProperCode code) : Text.trim code = code := by
  refine Text.trim_eq_self fun c inCode => ?_
  have bounds : 65 ≤ c.toNat ∧ c.toNat ≤ 90 := proper.letters c inCode
  simp only [Text.isBlank, Bool.or_eq_false_iff, Bool.and_eq_false_iff, decide_eq_false_iff_not,
    beq_eq_false_iff_ne]
  omega

theorem ProperCode.checkCurrency_eq (proper : ProperCode code) : checkCurrency code = .ok () := by
  rw [checkCurrency_eq_ok_iff, proper.trim_eq]
  exact ⟨proper.length, fun c inCode => by rw [Char.isAlpha, proper.isUpper c inCode, Bool.true_or]⟩

theorem ProperCode.normalCurrency_eq (proper : ProperCode code) : normalCurrency code = code := by
  rw [normalCurrency_eq_capitals proper.checkCurrency_eq, capitals, proper.trim_eq]
  have same : ∀ c ∈ code.toList, c.toUpper = c := fun c inCode =>
    Char.toUpper_eq_of_not_isLower (Char.not_isLower_of_isUpper (proper.isUpper c inCode))
  rw [List.map_congr_left same, List.map_id', String.ofList_toList]

end ProperCode

theorem checkTotal_eq_ok_iff {total : Quantity} : checkTotal total = .ok () ↔ 1 ≤ total.toInt := by
  rw [checkTotal, refuseIf_eq_ok_iff, decide_eq_false_iff_not, Int32.not_le, Int32.lt_iff_toInt_lt,
    Int32.toInt_zero]
  exact Iff.rfl

def ProperWindow (start finish : Option Instant) : Prop :=
  ∀ first ∈ start, ∀ last ∈ finish, first ≤ last

theorem checkWindow_eq_ok_iff {start finish : Option Instant} :
    checkWindow start finish = .ok () ↔ ProperWindow start finish := by
  cases start with
  | none => simp [checkWindow, ProperWindow]
  | some first =>
    cases finish with
    | none => simp [checkWindow, ProperWindow]
    | some last =>
      rw [checkWindow, refuseIf_eq_ok_iff, decide_eq_false_iff_not]
      have order : ¬last < first ↔ first ≤ last := Int.not_lt
      simp [ProperWindow, order]

/-! ### Drafts and changes -/

/-- A draft is accepted if each of its fields is. -/
theorem Draft.validate_eq_ok_iff {draft : Draft} : draft.validate = .ok () ↔
    draft.event ≠ .nil ∧ ProperName (normalName draft.name) ∧ ProperPrice draft.price ∧
      checkCurrency draft.currency = .ok () ∧ 1 ≤ draft.total.toInt ∧
        ProperWindow draft.saleStart draft.saleEnd := by
  simp only [validate, seq_eq_ok_iff, refuseIf_eq_ok_iff, checkPrice_eq_ok_iff,
    checkTotal_eq_ok_iff, checkWindow_eq_ok_iff, Uuid.isNil_eq_false_iff, properName_normalName_iff]
  constructor
  · rintro ⟨event, notBlank, name, price, -, currency, total, window⟩
    exact ⟨event, ⟨notBlank, name⟩, price, currency, total, window⟩
  · rintro ⟨event, ⟨notBlank, name⟩, price, currency, total, window⟩
    exact ⟨event, notBlank, name, price, notBlank_of_checkCurrency currency, currency, total,
      window⟩

theorem forM_eq_ok_iff {α : Type} {field : Option α} {check : α → Except Invalid Unit} :
    field.forM check = .ok () ↔ ∀ a ∈ field, check a = .ok () := by
  cases field with
  | none => exact ⟨fun _ a given => absurd given (Option.not_mem_none a), fun _ => rfl⟩
  | some a => simp [Option.forM]

/-- The rules for changes are those of the fields, one after the other. -/
theorem Changes.validate_eq (changes : Changes) : changes.validate = (do
    changes.name.forM fun name => do
      refuseIf (isBlankText name) .nameBlank
      checkName name
    changes.price.forM checkPrice
    changes.currency.forM fun currency => do
      refuseIf (isBlankText currency) .currencyBlank
      checkCurrency currency
    changes.total.forM checkTotal) := by
  obtain ⟨name, price, currency, total, start, finish, status⟩ := changes
  cases name <;> cases price <;> cases currency <;> cases total <;>
    simp [validate, Option.forM]

/-- Changes are accepted if each of the given fields is. -/
theorem Changes.validate_eq_ok_iff {changes : Changes} : changes.validate = .ok () ↔
    (∀ name ∈ changes.name, ProperName (normalName name)) ∧
      (∀ price ∈ changes.price, ProperPrice price) ∧
        (∀ currency ∈ changes.currency, checkCurrency currency = .ok ()) ∧
          ∀ total ∈ changes.total, 1 ≤ total.toInt := by
  have currencyOnly (currency : String) : isBlankText currency = false ∧
      checkCurrency currency = .ok () ↔ checkCurrency currency = .ok () :=
    and_iff_right_of_imp notBlank_of_checkCurrency
  simp only [validate_eq, seq_eq_ok_iff, forM_eq_ok_iff, refuseIf_eq_ok_iff, currencyOnly,
    checkPrice_eq_ok_iff, checkTotal_eq_ok_iff, properName_normalName_iff]

end TicketClass

end BoxOffice
