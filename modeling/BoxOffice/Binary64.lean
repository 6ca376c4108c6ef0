import BoxOffice.Rounding

/-!
Finite non-negative numbers of 53 binary digits: `mantissa * 2 ^ exponent` with exponents from
-1074 to 971. Every fraction is rounded to the nearest of them, a tie to the even mantissa, and
a fraction past the largest has none.
-/

namespace BoxOffice

structure Binary64 where
  mantissa : Nat
  exponent : Int
  deriving DecidableEq

namespace Binary64

def zero : Binary64 := ⟨0, 0⟩

/-- The exponent with which the mantissa of a positive fraction has 53 binary digits, or the
least exponent when it would lie below it. -/
def exponentOf (num den : Nat) : Int :=
  let guess : Int := (Nat.log2 num : Int) - Nat.log2 den - 52
  let short : Bool :=
    if 0 ≤ guess then num < den * Nat.pow 2 (guess.toNat + 52)
    else if guess + 52 < 0 then num * Nat.pow 2 (-(guess + 52)).toNat < den
    else num < den * Nat.pow 2 (guess + 52).toNat
  max (if short then guess - 1 else guess) (-1074)

def ofRatio? (num den : Nat) : Option Binary64 :=
  if num = 0 then some zero
  else
    let e := exponentOf num den
    let m := roundDiv (num * Nat.pow 2 (-e).toNat) (den * Nat.pow 2 e.toNat)
    let (m, e) := if m = Nat.pow 2 53 then (Nat.pow 2 52, e + 1) else (m, e)
    if m = 0 then some zero else if 971 < e then none else some ⟨m, e⟩

def numerator (x : Binary64) : Nat := x.mantissa * Nat.pow 2 x.exponent.toNat

def denominator (x : Binary64) : Nat := Nat.pow 2 (-x.exponent).toNat

def ofNat? (n : Nat) : Option Binary64 := ofRatio? n 1

def mul? (x y : Binary64) : Option Binary64 :=
  ofRatio? (x.numerator * y.numerator) (x.denominator * y.denominator)

def div? (x y : Binary64) : Option Binary64 :=
  ofRatio? (x.numerator * y.denominator) (x.denominator * y.numerator)

end Binary64

end BoxOffice
