import BoxOffice.Json.Doc
import BoxOffice.Json.Number
import BoxOffice.Json.Value

/-!
Codecs: how a type is written as a JSON value and read from the tree of a JSON text. Reading
meets the problems of a text in their order. It stops either at a place where the text is no
longer JSON or at a part that is JSON and of the wrong kind.
-/

namespace BoxOffice.Json

/-- Why a text is refused: it stops being JSON, or it is JSON that denotes no value of the
type. -/
inductive Flaw
  | malformed
  | mismatched
  deriving DecidableEq

structure Codec (α : Type) where
  write : α → Value
  read : Doc → Except Flaw α

/-- The flaw of a value that is not of the kind wanted. Strings and numbers are looked at
closely enough to tell that they are none; arrays and objects are not entered. -/
def Doc.mismatch : Doc → Flaw
  | .broken => .malformed
  | .text none => .malformed
  | .number n => if n.value?.isNone then .malformed else .mismatched
  | _ => .mismatched

namespace Codec

def convert {α β : Type} (codec : Codec α) (ofRead : α → β) (toWrite : β → α) : Codec β where
  write b := codec.write (toWrite b)
  read d := (codec.read d).map ofRead

def ofText {α : Type} (print : α → String) (parse? : String → Option α) : Codec α where
  write a := .text (print a)
  read
    | .text (some s) =>
      match parse? s with
      | some a => .ok a
      | none => .error .mismatched
    | d => .error d.mismatch

def text : Codec String := ofText id some

def ofWhole {α : Type} (print : α → Int) (parse? : Int → Option α) : Codec α where
  write a := .number (print a)
  read
    | .number n =>
      match n.value? with
      | some (.whole i) =>
        match parse? i with
        | some a => .ok a
        | none => .error .mismatched
      | _ => .error (Doc.number n).mismatch
    | d => .error d.mismatch

/-- An absent value is written as null. -/
def nullable {α : Type} (codec : Codec α) : Codec (Option α) where
  write
    | some a => codec.write a
    | none => .null
  read
    | .null => .ok none
    | d => (codec.read d).map some

def list {α : Type} (codec : Codec α) : Codec (List α) where
  write as := .array (as.map codec.write)
  read
    | .array ds => ds.mapM codec.read
    | d => .error d.mismatch

/-- A type with finitely many named values. A name may also stand as the only key of an object,
with null as its value. -/
def named {α : Type} (values : List α) (name : α → String) : Codec α where
  write a := .text (name a)
  read
    | .text (some s) =>
      match values.find? (name · = s) with
      | some a => .ok a
      | none => .error .mismatched
    | .object ((some s, d) :: rest) =>
      match values.find? (name · = s), d with
      | none, _ => .error .mismatched
      | some a, .null => if rest.isEmpty then .ok a else .error .malformed
      | some _, d => .error d.mismatch
    | _ => .error .malformed

end Codec

/-- Reads the first value of a text, and leaves alone what follows it. -/
def readFront {α : Type} (codec : Codec α) (text : List Glyph) : Except Flaw α :=
  codec.read (Doc.ofTokens (scan text)).1

/-- Reads a text that holds one value and white space. -/
def readText {α : Type} (codec : Codec α) (text : List Glyph) : Except Flaw α := do
  let (d, rest) := Doc.ofTokens (scan text)
  let a ← codec.read d
  if rest.isEmpty then return a else throw .malformed

end BoxOffice.Json
