import BoxOffice.Binary64
import BoxOffice.Json.Token

/-!
The number that a numeral denotes: a whole number when it is written without fraction and
exponent and fits 64 bits, and a binary number of 53 digits otherwise. The latter is not always
the nearest one. Up to 19 or 20 digits are taken as a whole number, which is rounded, and the
result is rounded again when the power of ten is applied.
-/

namespace BoxOffice.Json

open Text

inductive Number
  | whole (i : Int)
  | binary (negative : Bool) (size : Binary64)
  deriving DecidableEq

namespace Numeral

def maxDigits : Nat := Nat.pow 2 64 - 1

def maxExponent : Nat := Nat.pow 2 31 - 1

/-- Digits appended to a number while it fits 64 bits, and how many are left over. -/
def gather (n : Nat) : List Nat → Nat × Nat
  | [] => (n, 0)
  | d :: ds => if n * 10 + d ≤ maxDigits then gather (n * 10 + d) ds else (n, ds.length + 1)

/-- The digits that are taken as a whole number, and the power of ten they are to be multiplied
by, as far as it follows from the place of the point. -/
def significand (n : Numeral) : Nat × Int :=
  let (digits, leftOver) := gather 0 n.whole
  let (digits, dropped) := gather digits n.fraction
  (digits, (leftOver : Int) - (n.fraction.length - dropped : Nat))

def maxPower : Nat := 308

def powerOfTen? (power : Nat) : Option Binary64 := Binary64.ofNat? (Nat.pow 10 power)

/-- A number divided by the largest power of ten a number of times, or until nothing is
left. -/
def dividedBy? (x : Binary64) : Nat → Option Binary64
  | 0 => some x
  | rounds + 1 =>
    if x.mantissa = 0 then some x
    else (powerOfTen? maxPower).bind fun ten => (x.div? ten).bind fun x => dividedBy? x rounds

/-- A number times a power of ten, by one multiplication or division by a rounded power of ten;
below the least power it is first divided by the largest. `none` is a number out of range. -/
def scaled? (x : Binary64) (power : Int) : Option Binary64 :=
  if 0 ≤ power then
    if power ≤ maxPower then (powerOfTen? power.natAbs).bind x.mul?
    else if x.mantissa = 0 then some x else none
  else
    let rounds := (power.natAbs - 1) / maxPower
    (dividedBy? x rounds).bind fun x =>
      (powerOfTen? (power.natAbs - rounds * maxPower)).bind x.div?

/-- Exponents end at the limits of 32 bits. -/
def clampExponent (e : Int) : Int := max Int32.minValue.toInt (min Int32.maxValue.toInt e)

def binary? (n : Numeral) : Option Binary64 :=
  let (digits, power) := n.significand
  (Binary64.ofNat? digits).bind fun x =>
    match n.exponent with
    | none => scaled? x power
    | some (negative, exponent) =>
      let e := ofDigits 10 exponent
      if maxExponent < e then
        if digits ≠ 0 ∧ ¬negative then none else some Binary64.zero
      else scaled? x (clampExponent (if negative then power - e else power + e))

/-- The number of a numeral, if it is in range. There is no negative zero among whole
numbers. -/
def value? (n : Numeral) : Option Number :=
  let size := ofDigits 10 n.whole
  let isWhole : Bool := n.fraction == [] && n.exponent == none
  if isWhole ∧ ¬n.negative ∧ size < Nat.pow 2 64 then some (.whole size)
  else if isWhole ∧ n.negative ∧ 0 < size ∧ size ≤ Nat.pow 2 63 then some (.whole (-size))
  else n.binary?.map (.binary n.negative)

end Numeral

end BoxOffice.Json
