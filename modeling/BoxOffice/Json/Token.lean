import BoxOffice.Text.Digits

/-!
The tokens of a JSON text. A text is a row of characters in which ill-formed bytes may stand,
as it is when the text arrives as bytes. Tokens are found up to the first place where none
fits; what stands after that place is never looked at.
-/

namespace BoxOffice.Json

open Text

/-- A character, or a part of the text that is none. -/
abbrev Glyph := Option Char

/-- A number as it is written. An absent fraction has no digits. -/
structure Numeral where
  negative : Bool
  whole : List Nat
  fraction : List Nat
  exponent : Option (Bool × List Nat)
  deriving DecidableEq

inductive Token
  | beginObject
  | endObject
  | beginArray
  | endArray
  | colon
  | comma
  | null
  | bool (b : Bool)
  | number (n : Numeral)
  /-- A string; its contents are absent when they are no text: ill-formed bytes or a surrogate
  without its partner. -/
  | text (contents : Option String)
  | bad
  deriving DecidableEq

/-- What a string is made of: characters, numbered code units and ill-formed parts. -/
inductive Piece
  | char (c : Char)
  | unit (n : Nat)
  | illFormed
  deriving DecidableEq

/-- The letter after a backslash, and the character that it stands for. -/
def unescape? : Char → Option Char
  | '"' => some '"'
  | '\\' => some '\\'
  | '/' => some '/'
  | 'b' => some '\x08'
  | 'f' => some '\x0c'
  | 'n' => some '\n'
  | 'r' => some '\r'
  | 't' => some '\t'
  | _ => none

/-- The code unit that four hexadecimal digits denote. -/
def unit? (a b c d : Glyph) : Option Nat := do
  let w ← a.bind hexDigit?
  let x ← b.bind hexDigit?
  let y ← c.bind hexDigit?
  let z ← d.bind hexDigit?
  return ofDigits 16 [w, x, y, z]

/-- The pieces of a string up to its closing quote, and how much of the text they and the quote
take. -/
def stringFront : List Glyph → Option (List Piece × Nat)
  | [] => none
  | some '"' :: _ => some ([], 1)
  | some '\\' :: some 'u' :: a :: b :: c :: d :: rest =>
    match unit? a b c d, stringFront rest with
    | some n, some (pieces, used) => some (.unit n :: pieces, used + 6)
    | _, _ => none
  | some '\\' :: some e :: rest =>
    match unescape? e, stringFront rest with
    | some c, some (pieces, used) => some (.char c :: pieces, used + 2)
    | _, _ => none
  | some c :: rest =>
    if c.toNat < 0x20 ∨ c = '\\' then none
    else (stringFront rest).map fun (pieces, used) => (.char c :: pieces, used + 1)
  | none :: rest => (stringFront rest).map fun (pieces, used) => (.illFormed :: pieces, used + 1)

/-- The text that pieces make, where two surrogates make one character. -/
def joinPieces : List Piece → Option (List Char)
  | [] => some []
  | .char c :: rest => (joinPieces rest).map (c :: ·)
  | .unit high :: .unit low :: rest =>
    if 0xD800 ≤ high ∧ high < 0xDC00 then
      if 0xDC00 ≤ low ∧ low < 0xE000 then
        let n := 0x10000 + (high - 0xD800) * 0x400 + (low - 0xDC00)
        (joinPieces rest).map (Char.ofNat n :: ·)
      else none
    else if 0xDC00 ≤ high ∧ high < 0xE000 then none
    else (joinPieces (.unit low :: rest)).map (Char.ofNat high :: ·)
  | .unit n :: rest =>
    if 0xD800 ≤ n ∧ n < 0xE000 then none else (joinPieces rest).map (Char.ofNat n :: ·)
  | .illFormed :: _ => none

def digitsFront : List Glyph → List Nat
  | some c :: rest =>
    match digit? c with
    | some d => d :: digitsFront rest
    | none => []
  | _ => []

def fractionFront : List Glyph → Option (List Nat × Nat)
  | some '.' :: rest =>
    match digitsFront rest with
    | [] => none
    | digits => some (digits, digits.length + 1)
  | _ => some ([], 0)

def exponentFront : List Glyph → Option (Option (Bool × List Nat) × Nat)
  | some c :: rest =>
    if c = 'e' ∨ c = 'E' then
      let (negative, signs) := match rest with
        | some '-' :: _ => (true, 1)
        | some '+' :: _ => (false, 1)
        | _ => (false, 0)
      match digitsFront (rest.drop signs) with
      | [] => none
      | digits => some (some (negative, digits), digits.length + signs + 1)
    else some (none, 0)
  | _ => some (none, 0)

/-- The number that follows its sign, and how much of the text it takes. A whole part of
several digits does not start with zero. -/
def numeralFront (negative : Bool) (text : List Glyph) : Option (Numeral × Nat) :=
  let whole := digitsFront text
  if whole = [] ∨ (whole.head? = some 0 ∧ 1 < whole.length) then none
  else do
    let rest := text.drop whole.length
    let (fraction, usedByFraction) ← fractionFront rest
    let (exponent, usedByExponent) ← exponentFront (rest.drop usedByFraction)
    return (⟨negative, whole, fraction, exponent⟩,
      whole.length + usedByFraction + usedByExponent)

def wordFront (word : String) (token : Token) (text : List Glyph) : Token × Nat :=
  if text.take word.length = word.toList.map some then (token, word.length) else (.bad, 0)

/-- The token that starts with a character, and how much of the text after the character it
takes. -/
def tokenFront (first : Char) (rest : List Glyph) : Token × Nat :=
  match first with
  | '\x7b' => (.beginObject, 0)
  | '\x7d' => (.endObject, 0)
  | '[' => (.beginArray, 0)
  | ']' => (.endArray, 0)
  | ':' => (.colon, 0)
  | ',' => (.comma, 0)
  | 'n' => wordFront "ull" .null rest
  | 't' => wordFront "rue" (.bool true) rest
  | 'f' => wordFront "alse" (.bool false) rest
  | '"' =>
    match stringFront rest with
    | some (pieces, used) => (.text ((joinPieces pieces).map String.ofList), used)
    | none => (.bad, 0)
  | '-' =>
    match numeralFront true rest with
    | some (n, used) => (.number n, used)
    | none => (.bad, 0)
  | c =>
    match numeralFront false (some c :: rest) with
    | some (n, used) => (.number n, used - 1)
    | none => (.bad, 0)

/-- White space between tokens: four characters, fewer than blanks elsewhere. -/
def isSpace (c : Char) : Bool := c == ' ' || c == '\t' || c == '\n' || c == '\r'

def scanAfter : Nat → List Glyph → List Token
  | _, [] => []
  | used + 1, _ :: rest => scanAfter used rest
  | 0, none :: _ => [.bad]
  | 0, some c :: rest =>
    if isSpace c then scanAfter 0 rest
    else if (tokenFront c rest).1 = .bad then [.bad]
    else (tokenFront c rest).1 :: scanAfter (tokenFront c rest).2 rest

def scan (text : List Glyph) : List Token := scanAfter 0 text

end BoxOffice.Json
