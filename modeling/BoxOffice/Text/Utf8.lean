/-!
UTF-8. A sequence of bytes is read as characters and ill-formed parts: a part ends where no
continuation can make a character of it, so a reader that puts one replacement character for
each part and a reader that refuses them differ only at these parts.
-/

namespace BoxOffice.Text

/-- The six payload bits of a byte that lies in a range of continuation bytes. -/
def continuation? (low high : Nat) : List UInt8 → Option Nat
  | b :: _ => if low ≤ b.toNat ∧ b.toNat ≤ high then some (b.toNat % 64) else none
  | [] => none

/-- The rest of a character whose first byte announced `last` more bytes after the next one;
the next one must lie in a range. Gives the character, if it is complete, and the bytes
used. -/
def continued (payload low high last : Nat) (bytes : List UInt8) : Option Char × Nat :=
  match continuation? low high bytes with
  | none => (none, 0)
  | some a =>
    let payload := payload * 64 + a
    if last = 0 then (some (Char.ofNat payload), 1)
    else
      match continuation? 0x80 0xBF (bytes.drop 1) with
      | none => (none, 1)
      | some b =>
        let payload := payload * 64 + b
        if last = 1 then (some (Char.ofNat payload), 2)
        else
          match continuation? 0x80 0xBF (bytes.drop 2) with
          | none => (none, 2)
          | some c => (some (Char.ofNat (payload * 64 + c)), 3)

/-- The character or ill-formed part that starts with a byte, and how many more bytes it takes.
The ranges of the second byte leave out overlong forms, surrogates and numbers past the last
character. -/
def front (first : UInt8) (bytes : List UInt8) : Option Char × Nat :=
  let b := first.toNat
  if b < 0x80 then (some (Char.ofNat b), 0)
  else if b < 0xC2 then (none, 0)
  else if b < 0xE0 then continued (b % 32) 0x80 0xBF 0 bytes
  else if b < 0xF0 then
    continued (b % 16) (if b = 0xE0 then 0xA0 else 0x80) (if b = 0xED then 0x9F else 0xBF) 1 bytes
  else if b < 0xF5 then
    continued (b % 8) (if b = 0xF0 then 0x90 else 0x80) (if b = 0xF4 then 0x8F else 0xBF) 2 bytes
  else (none, 0)

/-- The characters of a sequence of bytes after some that are already used, with `none` for
each ill-formed part. -/
def glyphsAfter : Nat → List UInt8 → List (Option Char)
  | _, [] => []
  | used + 1, _ :: bytes => glyphsAfter used bytes
  | 0, b :: bytes => (front b bytes).1 :: glyphsAfter (front b bytes).2 bytes

def glyphs (bytes : List UInt8) : List (Option Char) := glyphsAfter 0 bytes

def decodeUtf8? (bytes : List UInt8) : Option (List Char) := (glyphs bytes).mapM id

def decodeUtf8Lossy (bytes : List UInt8) : List Char :=
  (glyphs bytes).map fun g => g.getD '\uFFFD'

def encodeUtf8 (cs : List Char) : List UInt8 := cs.flatMap String.utf8EncodeChar

end BoxOffice.Text
