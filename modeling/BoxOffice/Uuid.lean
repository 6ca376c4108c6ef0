import BoxOffice.Text.Digits

/-!
Identifiers: 128-bit numbers, ordered as numbers and written as 32 hexadecimal digits in five
groups. Reading also admits the digits without hyphens, and the grouped form in braces or after
`urn:uuid:`.
-/

namespace BoxOffice

structure Uuid where
  value : Nat
  value_lt : value < Nat.pow 2 128
  deriving DecidableEq

namespace Uuid

open Text

instance : LT Uuid := ⟨fun a b => a.value < b.value⟩

instance : LE Uuid := ⟨fun a b => a.value ≤ b.value⟩

instance (a b : Uuid) : Decidable (a < b) := inferInstanceAs (Decidable (a.value < b.value))

instance (a b : Uuid) : Decidable (a ≤ b) := inferInstanceAs (Decidable (a.value ≤ b.value))

@[ext] theorem ext {a b : Uuid} (h : a.value = b.value) : a = b := by
  cases a; cases b; simp_all

/-- The identifier with the last 128 bits of a number. -/
def ofNat (n : Nat) : Uuid := ⟨n % Nat.pow 2 128, Nat.mod_lt _ (Nat.two_pow_pos 128)⟩

/-- The identifier of nothing: all bits are zero. -/
def nil : Uuid := ofNat 0

def isNil (id : Uuid) : Bool := id.value == 0

theorem isNil_eq_false_iff {id : Uuid} : id.isNil = false ↔ id ≠ .nil := by
  rw [isNil, beq_eq_false_iff_ne]
  exact not_congr ⟨fun zero => Uuid.ext zero, fun same => same ▸ rfl⟩

/-- A row of characters cut into groups of the given lengths, a hyphen between any two
groups. -/
def hyphenate : List Nat → List Char → List Char
  | [], cs => cs
  | [n], cs => cs.take n
  | n :: m :: ns, cs => cs.take n ++ '-' :: hyphenate (m :: ns) (cs.drop n)

/-- The lengths of the five groups of hexadecimal digits. -/
def groups : List Nat := [8, 4, 4, 4, 12]

def toChars (id : Uuid) : List Char := hyphenate groups (padded 16 32 id.value)

def text (id : Uuid) : String := String.ofList id.toChars

/-- The digits of a grouped form: groups of the given lengths with a hyphen between any two. -/
def ungroup : List Nat → List Char → Option (List Char)
  | [], cs => if cs = [] then some [] else none
  | [n], cs => if cs.length = n then some cs else none
  | n :: m :: ns, cs =>
    match cs.drop n with
    | '-' :: rest => (ungroup (m :: ns) rest).map (cs.take n ++ ·)
    | _ => none

def ofHex? (cs : List Char) : Option Uuid :=
  if cs.length = 32 then (cs.mapM hexDigit?).map fun ds => ofNat (ofDigits 16 ds) else none

def ofGrouped? (cs : List Char) : Option Uuid := (ungroup groups cs).bind ofHex?

/-- The scheme of the identifier's resource name, which is compared without regard to case. -/
def scheme : List Char := "urn:uuid:".toList

/-- Reads an identifier in one of its four forms; no blanks are admitted around it. -/
def ofChars? (cs : List Char) : Option Uuid :=
  if cs.length = 32 then ofHex? cs
  else if cs.length = 36 then ofGrouped? cs
  else if cs.length = 38 then
    if cs.head? = some '{' ∧ cs.getLast? = some '}' then ofGrouped? (cs.drop 1).dropLast else none
  else if cs.length = 45 then
    if (cs.take 9).map Char.toLower = scheme then ofGrouped? (cs.drop 9) else none
  else none

def ofText? (s : String) : Option Uuid := ofChars? s.toList

end Uuid

end BoxOffice
