import BoxOffice.Text.Digits

/-!
Internet addresses of four octets or of eight groups of 16 bits. In the longer form one run of
zero groups may be left out between two colons, and the last two groups may be written as four
octets.
-/

namespace BoxOffice

inductive IpAddress
  | v4 (a b c d : UInt8)
  | v6 (groups : List UInt16) (length_eq : groups.length = 8)
  deriving DecidableEq

namespace IpAddress

open Text

/-- An octet: up to three decimal digits without a superfluous zero in front. -/
def octetFront? (cs : List Char) : Option (UInt8 × List Char) :=
  let (digits, rest) := spanDigits cs
  let n := ofDigits 10 digits
  if digits = [] ∨ 3 < digits.length ∨ (digits.head? = some 0 ∧ 1 < digits.length) ∨ 255 < n then
    none
  else some (UInt8.ofNat n, rest)

def after? (c : Char) : List Char → Option (List Char)
  | d :: rest => if d = c then some rest else none
  | [] => none

def octetsFront? (cs : List Char) : Option ((UInt8 × UInt8 × UInt8 × UInt8) × List Char) := do
  let (a, cs) ← octetFront? cs
  let (b, cs) ← octetFront? (← after? '.' cs)
  let (c, cs) ← octetFront? (← after? '.' cs)
  let (d, cs) ← octetFront? (← after? '.' cs)
  return ((a, b, c, d), cs)

def hexDigitsFront : List Char → List Nat
  | [] => []
  | c :: cs =>
    match hexDigit? c with
    | some d => d :: hexDigitsFront cs
    | none => []

def groupFront? (cs : List Char) : Option (UInt16 × List Char) :=
  let digits := hexDigitsFront cs
  if digits = [] ∨ 4 < digits.length then none
  else some (UInt16.ofNat (ofDigits 16 digits), cs.drop digits.length)

structure Groups where
  groups : List UInt16
  /-- The last two groups were written as octets. -/
  octets : Bool
  rest : List Char

def pair (high low : UInt8) : UInt16 := UInt16.ofNat (high.toNat * 256 + low.toNat)

def readGroups : Nat → Bool → List Char → Groups
  | 0, _, cs => ⟨[], false, cs⟩
  | room + 1, isFirst, cs =>
    let start := if isFirst then some cs else after? ':' cs
    match if 0 < room then start.bind octetsFront? else none with
    | some ((a, b, c, d), rest) => ⟨[pair a b, pair c d], true, rest⟩
    | none =>
      match start.bind groupFront? with
      | some (group, rest) =>
        let more := readGroups room false rest
        { more with groups := group :: more.groups }
      | none => ⟨[], false, cs⟩

def ofGroups? (groups : List UInt16) : Option IpAddress :=
  if h : groups.length = 8 then some (.v6 groups h) else none

/-- An address of eight groups; a double colon stands for at least one of them. -/
def ofGroupedChars? (cs : List Char) : Option IpAddress :=
  let head := readGroups 8 true cs
  if head.groups.length = 8 then if head.rest = [] then ofGroups? head.groups else none
  else if head.octets then none
  else do
    let rest ← after? ':' head.rest
    let rest ← after? ':' rest
    let tail := readGroups (7 - head.groups.length) true rest
    let zeros := List.replicate (8 - head.groups.length - tail.groups.length) 0
    if tail.rest = [] then ofGroups? (head.groups ++ zeros ++ tail.groups) else none

def ofChars? (cs : List Char) : Option IpAddress :=
  match octetsFront? cs with
  | some ((a, b, c, d), rest) => if rest = [] then some (.v4 a b c d) else none
  | none => ofGroupedChars? cs

def octetsChars (a b c d : UInt8) : List Char :=
  decimal a.toNat ++ '.' :: decimal b.toNat ++ '.' :: decimal c.toNat ++ '.' :: decimal d.toNat

def groupChars (group : UInt16) : List Char :=
  let digits := (padded 16 4 group.toNat).dropWhile (· = '0')
  if digits = [] then ['0'] else digits

def groupsChars : List UInt16 → List Char
  | [] => []
  | [group] => groupChars group
  | group :: next :: rest => groupChars group ++ ':' :: groupsChars (next :: rest)

/-- Where the first of the longest runs of zeros begins, and how long it is. -/
def zeroRun : List UInt16 → Nat × Nat
  | [] => (0, 0)
  | group :: rest =>
    let here := ((group :: rest).takeWhile (· = 0)).length
    let (start, length) := zeroRun rest
    if length ≤ here then (0, here) else (start + 1, length)

/-- Writes an address; addresses that stand for one of four octets are written with these. -/
def toChars : IpAddress → List Char
  | .v4 a b c d => octetsChars a b c d
  | .v6 groups _ =>
    match groups with
    | [0, 0, 0, 0, 0, 0xFFFF, high, low] =>
      let octet (n : Nat) : UInt8 := UInt8.ofNat n
      "::ffff:".toList ++ octetsChars (octet (high.toNat / 256)) (octet high.toNat)
        (octet (low.toNat / 256)) (octet low.toNat)
    | groups =>
      let (start, length) := zeroRun groups
      if 1 < length then
        groupsChars (groups.take start) ++
          ':' :: ':' :: groupsChars (groups.drop (start + length))
      else groupsChars groups

def text (ip : IpAddress) : String := String.ofList ip.toChars

/-- The address with a port; an address of groups is put in brackets. -/
def withPort (ip : IpAddress) (port : Nat) : String :=
  match ip with
  | .v4 .. => String.ofList (ip.toChars ++ ':' :: decimal port)
  | .v6 .. => String.ofList ('[' :: ip.toChars ++ ']' :: ':' :: decimal port)

end IpAddress

end BoxOffice
