import BoxOffice.Rounding

/-!
Decimal numbers of up to 96 binary digits with up to 28 places after the point. A number keeps
its scale, so `5.0` and `5.00` are different representations of one value. It keeps its sign as
well, also where rounding has left nothing of it but zero.
-/

namespace BoxOffice

structure Decimal where
  negative : Bool
  /-- The digits as a number, without the point. -/
  size : Nat
  /-- How many of the digits stand after the point. -/
  scale : Nat
  size_lt : size < Nat.pow 2 96
  scale_le : scale ≤ 28
  deriving DecidableEq

namespace Decimal

def coefficient (d : Decimal) : Int := if d.negative then -d.size else d.size

def ofParts? (negative : Bool) (size scale : Nat) : Option Decimal :=
  if h : size < Nat.pow 2 96 ∧ scale ≤ 28 then some ⟨negative, size, scale, h.1, h.2⟩ else none

/-- `a` is at most `b`, whatever their scales. -/
def valueLe (a b : Decimal) : Bool :=
  a.coefficient * Nat.pow 10 b.scale ≤ b.coefficient * Nat.pow 10 a.scale

/-- `a` and `b` are the same number, whatever their scales. -/
def valueEq (a b : Decimal) : Bool :=
  a.coefficient * Nat.pow 10 b.scale == b.coefficient * Nat.pow 10 a.scale

theorem roundDiv_lt {a n bound : Nat} (h : a < bound) (hbound : 1 < bound) (hn : 1 < n) :
    roundDiv a n < bound := by
  by_cases ha : 2 ≤ a
  · exact Nat.lt_of_le_of_lt (roundDiv_le hn ha) h
  · have hq : a / n = 0 := Nat.div_eq_of_lt (by omega)
    unfold roundDiv
    simp only [hq]
    split
    · omega
    · split <;> omega

def round (d : Decimal) (places : Nat) : Decimal :=
  if h : places < d.scale then
    { negative := d.negative
      size := roundDiv d.size (Nat.pow 10 (d.scale - places))
      scale := places
      size_lt := roundDiv_lt d.size_lt (by decide) (Nat.one_lt_pow (by omega) (by omega))
      scale_le := by have := d.scale_le; omega }
  else d

def ofInt? (i : Int) : Option Decimal := ofParts? (i < 0) i.natAbs 0

end Decimal

end BoxOffice
