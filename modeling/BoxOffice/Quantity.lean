import BoxOffice.Text.Digits

/-!
Numbers of tickets. They are 32-bit numbers with a sign; additions that may leave the range are
made by `plus?`, and all others are made where the sum is known to stay in it.
-/

namespace BoxOffice

abbrev Quantity := Int32

namespace Quantity

def ofInt? (i : Int) : Option Quantity :=
  if h : Int32.minValue.toInt ≤ i ∧ i ≤ Int32.maxValue.toInt then some (Int32.ofIntLE i h.1 h.2)
  else none

def plus? (a b : Quantity) : Option Quantity := ofInt? (a.toInt + b.toInt)

/-- A whole number has a quantity exactly when it is the value of one. -/
theorem ofInt?_eq_some_iff {i : Int} {q : Quantity} : ofInt? i = some q ↔ q.toInt = i := by
  unfold ofInt?
  split
  next inRange =>
    constructor
    · intro h
      rw [← Option.some.inj h, Int32.toInt_ofIntLE]
    · rintro rfl
      rw [Int32.ofIntLE_toInt]
  next outOfRange =>
    constructor
    · intro h
      simp at h
    · rintro rfl
      exact absurd ⟨Int32.minValue_le_toInt q, Int32.toInt_le q⟩ outOfRange

theorem plus?_eq_some_iff {a b q : Quantity} :
    plus? a b = some q ↔ q.toInt = a.toInt + b.toInt := ofInt?_eq_some_iff

def text (q : Quantity) : String := String.ofList (Text.signedDecimal q.toInt)

end Quantity

end BoxOffice
