import BoxOffice.Text.Digits

/-!
Values as they are written: the JSON values whose numbers are whole, with the members of
objects in the order of writing.
-/

namespace BoxOffice.Json

open Text

inductive Value
  | null
  | bool (b : Bool)
  | number (i : Int)
  | text (s : String)
  | array (items : List Value)
  | object (members : List (String × Value))

namespace Value

/-- A character inside a string. Quotes, backslashes and control characters are escaped, the
latter by a letter where there is one. -/
def escape (c : Char) : List Char :=
  match c with
  | '"' => ['\\', '"']
  | '\\' => ['\\', '\\']
  | '\x08' => ['\\', 'b']
  | '\x0c' => ['\\', 'f']
  | '\n' => ['\\', 'n']
  | '\r' => ['\\', 'r']
  | '\t' => ['\\', 't']
  | c => if c.toNat < 0x20 then '\\' :: 'u' :: padded 16 4 c.toNat else [c]

def stringChars (s : String) : List Char := '"' :: s.toList.flatMap escape ++ ['"']

mutual

def toChars : Value → List Char
  | .null => "null".toList
  | .bool true => "true".toList
  | .bool false => "false".toList
  | .number i => signedDecimal i
  | .text s => stringChars s
  | .array items => '[' :: itemsChars items ++ [']']
  | .object members => '\x7b' :: membersChars members ++ ['\x7d']

def itemsChars : List Value → List Char
  | [] => []
  | [v] => v.toChars
  | v :: w :: vs => v.toChars ++ ',' :: itemsChars (w :: vs)

def membersChars : List (String × Value) → List Char
  | [] => []
  | [(key, v)] => stringChars key ++ ':' :: v.toChars
  | (key, v) :: m :: ms => stringChars key ++ ':' :: v.toChars ++ ',' :: membersChars (m :: ms)

end

def render (v : Value) : String := String.ofList v.toChars

end Value

end BoxOffice.Json
