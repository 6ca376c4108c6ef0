import BoxOffice.Decimal.Text
import BoxOffice.Instant.Text
import BoxOffice.Proofs.Digits
import BoxOffice.Uuid

/-!
Texts of single values. Identifiers, decimals and moments are read by routines that admit far more
than is ever written: short digits, blanks, offsets, exponents. On what is written they find the
value again. Each part of a text is looked at by itself, with anything behind it that its reader
stops at.
-/

namespace BoxOffice

open Text

/-! ### Identifiers -/

namespace Uuid

theorem length_hyphenate {lengths : List Nat} (some : lengths ≠ []) {cs : List Char}
    (length : cs.length = lengths.sum) :
    (hyphenate lengths cs).length + 1 = cs.length + lengths.length := by
  induction lengths generalizing cs with
  | nil => exact absurd rfl some
  | cons n lengths ih =>
    cases lengths with
    | nil =>
      rw [List.sum_singleton] at length
      simp [hyphenate, length]
    | cons m lengths =>
      rw [List.sum_cons] at length
      have rest : (hyphenate (m :: lengths) (cs.drop n)).length + 1 = _ :=
        ih (List.cons_ne_nil _ _) (by rw [List.length_drop]; omega)
      simp only [hyphenate, List.length_append, List.length_cons, List.length_take,
        List.length_drop] at rest ⊢
      omega

theorem ungroup_hyphenate (lengths : List Nat) {cs : List Char} (length : cs.length = lengths.sum) :
    ungroup lengths (hyphenate lengths cs) = some cs := by
  induction lengths generalizing cs with
  | nil =>
    obtain rfl := List.eq_nil_of_length_eq_zero length
    rfl
  | cons n lengths ih =>
    cases lengths with
    | nil =>
      rw [List.sum_singleton] at length
      simp [hyphenate, ungroup, length, List.take_of_length_le (Nat.le_of_eq length)]
    | cons m lengths =>
      rw [List.sum_cons] at length
      have taken : (cs.take n).length = n := by rw [List.length_take]; omega
      have rest : (cs.drop n).length = (m :: lengths).sum := by rw [List.length_drop]; omega
      rw [hyphenate, ungroup, List.drop_left' taken, List.take_left' taken]
      simp only [ih rest, Option.map_some, List.take_append_drop]

theorem ofNat_value (id : Uuid) : ofNat id.value = id := by
  obtain ⟨value, fits⟩ := id
  simp only [ofNat, Nat.mod_eq_of_lt fits]

theorem ofHex?_padded (id : Uuid) : ofHex? (padded 16 32 id.value) = some id := by
  have bound : Nat.pow 2 128 = 16 ^ 32 := by decide
  have small : id.value < 16 ^ 32 := bound ▸ id.value_lt
  have length : (padded 16 32 id.value).length = 32 := by simp [padded]
  rw [ofHex?, if_pos length, padded, mapM_hexDigit? (lt_of_mem_fixedDigits (by decide)),
    Option.map_some, ofDigits_fixedDigits_of_lt small, ofNat_value]

theorem ofText?_text (id : Uuid) : ofText? id.text = some id := by
  have length : (padded 16 32 id.value).length = groups.sum := by simp [padded, groups]
  have written : id.toChars.length = 36 := by
    have count := length_hyphenate (by decide : groups ≠ []) length
    have sums : groups.sum + groups.length = 37 := rfl
    rw [toChars]
    omega
  rw [ofText?, text, String.toList_ofList, ofChars?, if_neg (by omega), if_pos written, ofGrouped?,
    toChars, ungroup_hyphenate groups length, Option.bind_some, ofHex?_padded]

end Uuid

/-! ### Decimals -/

namespace Decimal

/-- A sign stands only before what is not zero. -/
def ProperlySigned (d : Decimal) : Prop := d.negative = true → d.size ≠ 0

/-- The same decimal, but zero has no sign. -/
def normalSign (d : Decimal) : Decimal := { d with negative := d.negative && d.size != 0 }

theorem normalSign_eq_self_iff {d : Decimal} : d.normalSign = d ↔ d.ProperlySigned := by
  rcases d with ⟨negative, size, scale, small, few⟩
  cases negative <;> simp [normalSign, ProperlySigned]

theorem run?_digits {ds : List Nat} (digits : ∀ d ∈ ds, d < 10) {n total scale : Nat}
    {pointed started : Bool} (value : n * 10 ^ ds.length + ofDigits 10 ds = total)
    (fits : total ≤ Reading.maxSize) (whole : pointed = false → scale = 0)
    (places : pointed = true → scale + ds.length ≤ 28) (rest : List Char) :
    Reading.run? ⟨n, scale, pointed, started⟩ (ds.map digitChar ++ rest) =
      Reading.run?
        ⟨total, if pointed then scale + ds.length else 0, pointed, started || !ds.isEmpty⟩
        rest := by
  induction ds generalizing n scale started with
  | nil =>
    have same : n = total := by simpa [ofDigits] using value
    cases pointed with
    | true => simp [same]
    | false => simp [same, whole rfl]
  | cons d ds ih =>
    obtain ⟨small, others⟩ := List.forall_mem_cons.1 digits
    have value : (n * 10 + d) * 10 ^ ds.length + ofDigits 10 ds = total := by
      rw [← value, ofDigits_cons, List.length_cons]
      ring
    have fitsNow : n * 10 + d ≤ Reading.maxSize := by
      have more : n * 10 + d ≤ (n * 10 + d) * 10 ^ ds.length :=
        Nat.le_mul_of_pos_right _ (Nat.pow_pos (by decide))
      omega
    have room : ¬(pointed = true ∧ 28 ≤ scale) := by
      rintro ⟨pointed, full⟩
      have few := places pointed
      rw [List.length_cons] at few
      omega
    rw [List.map_cons, List.cons_append, Reading.run?, if_neg room, digit?_digitChar small]
    simp only [if_pos fitsNow]
    cases pointed with
    | true =>
      have few := places rfl
      rw [List.length_cons] at few
      rw [ih others value (fun h => by cases h) (fun _ => by simp only [if_true]; omega)]
      simp [Nat.add_comm, Nat.add_left_comm]
    | false =>
      simp only [Bool.false_eq_true, if_false]
      rw [ih others value (fun _ => rfl) (fun h => by cases h)]
      simp

/-- The digits before the point are read as a whole number. -/
theorem run?_decimal {n : Nat} (fits : n ≤ Reading.maxSize) (rest : List Char) :
    Reading.run? ⟨0, 0, false, false⟩ (decimal n ++ rest) =
      Reading.run? ⟨n, 0, false, true⟩ rest := by
  have value : 0 * 10 ^ (decimalDigits n).length + ofDigits 10 (decimalDigits n) = n := by
    rw [Nat.zero_mul, Nat.zero_add, ofDigits_decimalDigits]
  have some : (decimalDigits n).isEmpty = false :=
    List.isEmpty_eq_false_iff.2 (decimalDigits_ne_nil n)
  rw [decimal, run?_digits lt_of_mem_decimalDigits value fits (fun _ => rfl)
    (fun pointed => by cases pointed), some]
  rfl

/-- The digits after the point are read to the last. -/
theorem run?_places {size scale : Nat} (fits : size ≤ Reading.maxSize) (few : scale ≤ 28) :
    Reading.run? ⟨size / 10 ^ scale, 0, false, true⟩ ('.' :: padded 10 scale (size % 10 ^ scale)) =
      some ⟨size, scale, true, true⟩ := by
  have value : size / 10 ^ scale * 10 ^ (fixedDigits 10 scale (size % 10 ^ scale)).length +
      ofDigits 10 (fixedDigits 10 scale (size % 10 ^ scale)) = size := by
    rw [length_fixedDigits, ofDigits_fixedDigits_of_lt (Nat.mod_lt _ (Nat.pow_pos (by decide))),
      Nat.div_add_mod']
  have point (n : Nat) (cs : List Char) : Reading.run? ⟨n, 0, false, true⟩ ('.' :: cs) =
      Reading.run? ⟨n, 0, true, true⟩ cs := rfl
  have read : Reading.run? ⟨size / 10 ^ scale, 0, true, true⟩ (_ ++ []) = _ :=
    run?_digits (lt_of_mem_fixedDigits (by decide)) value fits (fun h => by cases h)
      (fun _ => by simpa using few) []
  rw [List.append_nil, length_fixedDigits, Nat.zero_add] at read
  rw [point, padded, read]
  rfl

def unsignedChars (d : Decimal) : List Char :=
  if d.scale = 0 then decimal d.size
  else decimal (d.size / Nat.pow 10 d.scale) ++
    '.' :: padded 10 d.scale (d.size % Nat.pow 10 d.scale)

theorem toChars_eq (d : Decimal) :
    d.toChars = (if d.negative then ['-'] else []) ++ d.unsignedChars := by
  unfold toChars unsignedChars
  by_cases noPlaces : d.scale = 0
  · rw [if_pos noPlaces, if_pos noPlaces]
  · rw [if_neg noPlaces, if_neg noPlaces, List.append_assoc]

theorem run?_unsignedChars (d : Decimal) : ∃ pointed,
    Reading.run? ⟨0, 0, false, false⟩ d.unsignedChars = some ⟨d.size, d.scale, pointed, true⟩ := by
  have fits : d.size ≤ Reading.maxSize := Nat.le_sub_one_of_lt d.size_lt
  unfold unsignedChars
  by_cases noPlaces : d.scale = 0
  · have read := run?_decimal fits []
    rw [List.append_nil] at read
    exact ⟨false, by rw [if_pos noPlaces, read, noPlaces]; rfl⟩
  · have fitsWhole := Nat.le_trans (Nat.div_le_self d.size (10 ^ d.scale)) fits
    refine ⟨true, ?_⟩
    rw [if_neg noPlaces]
    exact (run?_decimal fitsWhole _).trans (run?_places fits d.scale_le)

/-- Without a sign in front, a text is read as digits from the start. -/
theorem plain?_of_digit {d : Nat} (small : d < 10) (cs : List Char) :
    plain? (digitChar d :: cs) =
      (Reading.run? ⟨0, 0, false, false⟩ (digitChar d :: cs)).bind fun r =>
        ofParts? false r.size r.scale := by
  obtain ⟨noMinus, noPlus⟩ := digitChar_ne_sign small
  simp [plain?, noMinus, noPlus]

theorem ofParts?_normalSign (d : Decimal) :
    ofParts? (d.negative && d.size != 0) d.size d.scale = some d.normalSign := by
  rw [ofParts?, dif_pos ⟨d.size_lt, d.scale_le⟩]
  rfl

theorem plain?_toChars (d : Decimal) : plain? d.toChars = some d.normalSign := by
  obtain ⟨pointed, read⟩ := d.run?_unsignedChars
  have normal := d.ofParts?_normalSign
  rw [toChars_eq]
  cases negative : d.negative with
  | true =>
    rw [negative] at normal
    show ((Reading.run? ⟨0, 0, false, false⟩ d.unsignedChars).bind fun r =>
      ofParts? (true && r.size != 0) r.size r.scale) = some d.normalSign
    rw [read, Option.bind_some, normal]
  | false =>
    rw [negative, Bool.false_and] at normal
    have starts : ∃ c cs, c < 10 ∧ d.unsignedChars = digitChar c :: cs := by
      unfold unsignedChars
      split
      · exact exists_decimal_eq d.size
      · obtain ⟨c, cs, small, eq⟩ := exists_decimal_eq (d.size / Nat.pow 10 d.scale)
        exact ⟨c, _, small, by rw [eq, List.cons_append]⟩
    obtain ⟨c, cs, small, eq⟩ := starts
    show plain? d.unsignedChars = some d.normalSign
    rw [eq, plain?_of_digit small, ← eq, read, Option.bind_some, normal]

/-- A decimal is read with its scale, and with its sign unless it is zero. -/
theorem ofText?_text (d : Decimal) : ofText? d.text = some d.normalSign := by
  rw [ofText?, text, String.toList_ofList, ofChars?, plain?_toChars]

end Decimal

end BoxOffice
