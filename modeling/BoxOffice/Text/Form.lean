import BoxOffice.Text.Blank
import BoxOffice.Text.Digits
import BoxOffice.Text.Utf8

/-!
Percent escapes in addresses, and the name and value pairs of a query.
-/

namespace BoxOffice.Text

/-- The bytes that a text with percent escapes denotes; a percent sign that no two hexadecimal
digits follow stands for itself. -/
def percentDecode : List UInt8 → List UInt8
  | 0x25 :: a :: b :: rest =>
    match hexDigit? (Char.ofNat a.toNat), hexDigit? (Char.ofNat b.toNat) with
    | some x, some y => UInt8.ofNat (x * 16 + y) :: percentDecode rest
    | _, _ => 0x25 :: percentDecode (a :: b :: rest)
  | b :: rest => b :: percentDecode rest
  | [] => []

/-- The text of one side of a pair: plus signs are blanks, escapes are bytes, and ill-formed
bytes become replacement characters. -/
def formText (cs : List Char) : String :=
  let blanks := cs.map fun c => if c = '+' then ' ' else c
  String.ofList (decodeUtf8Lossy (percentDecode (encodeUtf8 blanks)))

/-- A pair is cut at its first equals sign; without one its value is empty. -/
def formPair (piece : List Char) : String × String :=
  (formText (piece.takeWhile (· ≠ '=')), formText ((piece.dropWhile (· ≠ '=')).drop 1))

/-- The pairs of a query, in order; empty pieces between ampersands are passed over. -/
def formPairs (query : List Char) : List (String × String) :=
  ((pieces '&' query).filter (· ≠ [])).map formPair

end BoxOffice.Text
