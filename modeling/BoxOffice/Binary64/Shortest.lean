import BoxOffice.Binary64
import BoxOffice.Text.Digits

/-!
The shortest decimal text of a number: of all decimals that round to the number, one with the
fewest digits, and of those the nearest. It is written without an exponent.
-/

namespace BoxOffice.Binary64

open Text

/-- The number of decimal digits of `num / den` before the point, at least one; for a fraction
below one, minus the number of zeros after the point. -/
def magnitude (num den : Nat) : Int :=
  if den ≤ num then (decimalDigits (num / den)).length
  else
    let digits := (decimalDigits (den / num)).length
    if den ≤ num * Nat.pow 10 (digits - 1) then 2 - (digits : Int) else 1 - (digits : Int)

/-- The numbers that round to `x` lie between `lower / denominator` and `upper / denominator`;
the ends are among them exactly when the mantissa is even. -/
structure Rounding where
  lower : Nat
  value : Nat
  upper : Nat
  denominator : Nat
  closed : Bool

def rounding (x : Binary64) : Rounding :=
  let unit := Nat.pow 2 x.exponent.toNat
  let below := if x.mantissa = Nat.pow 2 52 ∧ -1074 < x.exponent then 1 else 2
  { lower := (4 * x.mantissa - below) * unit
    value := 4 * x.mantissa * unit
    upper := (4 * x.mantissa + 2) * unit
    denominator := 4 * x.denominator
    closed := x.mantissa % 2 == 0 }

/-- Whether `digits * 10 ^ k` rounds to the number. -/
def Rounding.holds (r : Rounding) (digits : Nat) (k : Int) : Bool :=
  let scaled := digits * Nat.pow 10 k.toNat * r.denominator
  let shift := Nat.pow 10 (-k).toNat
  if r.closed then r.lower * shift ≤ scaled && scaled ≤ r.upper * shift
  else r.lower * shift < scaled && scaled < r.upper * shift

/-- The decimals on the grid of step `10 ^ k` next to the number, and the nearer of those that
round to it; a tie goes to the larger one. -/
def Rounding.onGrid? (r : Rounding) (k : Int) : Option Nat :=
  let num := r.value * Nat.pow 10 (-k).toNat
  let den := r.denominator * Nat.pow 10 k.toNat
  let low := num / den
  let nearest := roundDivUp num den
  if r.holds nearest k then some nearest
  else if r.holds low k then some low
  else if r.holds (low + 1) k then some (low + 1)
  else none

/-- Digits and the power of ten of their last place, on the first grid that has some. -/
def Rounding.search (r : Rounding) : Nat → Int → Option (Nat × Int)
  | 0, _ => none
  | tries + 1, k =>
    match r.onGrid? k with
    | some digits => some (digits, k)
    | none => r.search tries (k - 1)

def shortest (x : Binary64) : Nat × Int :=
  if x.mantissa = 0 then (0, 0)
  else
    let r := x.rounding
    (r.search 18 (magnitude r.value r.denominator)).getD (0, 0)

/-- `digits * 10 ^ k` written out. -/
def positional (digits : Nat) (k : Int) : List Char :=
  if 0 ≤ k then decimal (digits * Nat.pow 10 k.toNat)
  else
    let places := (-k).toNat
    let whole := digits / Nat.pow 10 places
    let part := digits % Nat.pow 10 places
    if part = 0 then decimal whole
    else
      let row := fixedDigits 10 places part
      decimal whole ++ '.' :: (row.reverse.dropWhile (· == 0)).reverse.map digitChar

def toChars (x : Binary64) : List Char := positional x.shortest.1 x.shortest.2

end BoxOffice.Binary64
