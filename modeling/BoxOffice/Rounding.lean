/-!
Quotients rounded to the nearest whole number. The two roundings differ in a tie alone.
-/

namespace BoxOffice

/-- The quotient rounded to the nearest whole number, a tie to the even one. -/
def roundDiv (num den : Nat) : Nat :=
  let q := num / den
  let twice := 2 * (num % den)
  if twice < den then q else if den < twice then q + 1 else q + q % 2

/-- The quotient rounded to the nearest whole number, a tie to the larger one. -/
def roundDivUp (num den : Nat) : Nat := (2 * num + den) / (2 * den)

/-- Dividing by two or more, the rounded quotient does not exceed the number divided. -/
theorem roundDiv_le {num den : Nat} (hden : 1 < den) (hnum : 2 ≤ num) :
    roundDiv num den ≤ num := by
  have hq : num / den ≤ num / 2 := Nat.div_le_div_left hden (by omega)
  unfold roundDiv
  simp only
  split
  · omega
  · split <;> omega

end BoxOffice
