import BoxOffice.Decimal
import BoxOffice.Text.Digits

/-!
How decimals are written and read. The written form keeps the scale. The read form is a row of
digits with at most one point, after an optional sign, with underscores between digits. Places
beyond what fits are dropped, and the first of them rounds the last place that is kept, a half
upwards. A text that is not of this form may have a power of ten after the letter e.
-/

namespace BoxOffice.Decimal

open Text

def toChars (d : Decimal) : List Char :=
  let sign := if d.negative then ['-'] else []
  if d.scale = 0 then sign ++ decimal d.size
  else sign ++ decimal (d.size / Nat.pow 10 d.scale) ++
    '.' :: padded 10 d.scale (d.size % Nat.pow 10 d.scale)

def text (d : Decimal) : String := String.ofList d.toChars

/-- What has been read of a decimal: its digits as a number, the places after the point,
whether the point and whether a digit has been seen. -/
structure Reading where
  size : Nat
  scale : Nat
  pointed : Bool
  started : Bool

namespace Reading

def maxSize : Nat := Nat.pow 2 96 - 1

/-- A number below this fits 64 bits with one more digit. -/
def smallLimit : Nat := (Nat.pow 2 64 - 1) / 10 - 255

def isSmall (r : Reading) : Bool := r.size / 10 < smallLimit

/-- The next digit rounds what was read: from five on it carries, and a carry that no longer
fits gives up the last place. -/
def rounded? (r : Reading) (digit : Nat) : Option Reading :=
  if digit < 5 then some r
  else if r.size + 1 ≤ maxSize then some { r with size := r.size + 1 }
  else if r.scale = 0 then none
  else some { r with size := (r.size + 5) / 10, scale := r.scale - 1 }

/-- What comes after the last place that fits: digits and underscores, of which the first digit
rounds. An underscore in front of them stands for a zero when the digits before are few. -/
def finish? (r : Reading) (rest : List Char) : Option Reading :=
  if ¬rest.all fun c => (digit? c).isSome || c == '_' then none
  else if rest.head? = some '_' ∧ r.isSmall then some r
  else r.rounded? ((rest.findSome? digit?).getD 0)

/-- Reads digits, at most one point and separating underscores, up to the end or to the first
place that does not fit. -/
def run? (r : Reading) : List Char → Option Reading
  | [] => if r.started then some r else none
  | c :: cs =>
    if r.pointed ∧ 28 ≤ r.scale then r.finish? (c :: cs)
    else
      match digit? c with
      | some d =>
        if r.size * 10 + d ≤ maxSize then
          run? { r with
            size := r.size * 10 + d
            scale := if r.pointed then r.scale + 1 else 0
            started := true } cs
        else if r.pointed then r.finish? (c :: cs) else none
      | none =>
        if c = '.' ∧ ¬r.pointed then run? { r with pointed := true } cs
        else if c = '_' ∧ r.started then run? r cs
        else none

end Reading

/-- A row of digits with its sign. Zero has none. -/
def plain? (cs : List Char) : Option Decimal :=
  let (negative, rest) := match cs with
    | '-' :: rest => (true, rest)
    | '+' :: rest => (false, rest)
    | rest => (false, rest)
  (Reading.run? ⟨0, 0, false, false⟩ rest).bind fun r =>
    ofParts? (negative && r.size != 0) r.size r.scale

def exponent? (cs : List Char) : Option Nat :=
  let rest := match cs with
    | '+' :: rest => rest
    | rest => rest
  match rest with
  | [] => none
  | _ => (rest.mapM digit?).bind fun ds =>
    if ofDigits 10 ds < Nat.pow 2 32 then some (ofDigits 10 ds) else none

/-- A decimal times a power of ten: the point moves while there are places, and beyond that the
digits grow. -/
def timesPowerOfTen? (d : Decimal) (power : Nat) : Option Decimal :=
  if power ≤ d.scale then ofParts? d.negative d.size (d.scale - power)
  else if 28 < power then none
  else ofParts? d.negative (d.size * Nat.pow 10 (power - d.scale)) 0

/-- A decimal divided by a power of ten, up to the 28th. Places that no longer fit are rounded,
a half away from zero; what becomes zero keeps its sign. -/
def overPowerOfTen? (d : Decimal) (power : Nat) : Option Decimal :=
  if 28 < power then none
  else
    let excess := d.scale + power - 28
    ofParts? d.negative (roundDivUp d.size (Nat.pow 10 excess)) (d.scale + power - excess)

/-- A decimal, the letter e, and the power of ten to multiply by. -/
def scientific? (cs : List Char) : Option Decimal :=
  let base := cs.takeWhile fun c => c ≠ 'e' ∧ c ≠ 'E'
  match cs.dropWhile fun c => c ≠ 'e' ∧ c ≠ 'E' with
  | _ :: '-' :: power => do
    let d ← plain? base
    let n ← exponent? power
    d.overPowerOfTen? n
  | _ :: power => do
    let d ← plain? base
    let n ← exponent? power
    d.timesPowerOfTen? n
  | [] => none

def ofChars? (cs : List Char) : Option Decimal :=
  match plain? cs with
  | some d => some d
  | none => scientific? cs

def ofText? (s : String) : Option Decimal := ofChars? s.toList

end BoxOffice.Decimal
