import BoxOffice.Json.Codec

/-!
Records: types that are written as objects with one member for each field. Reading admits the
members in any order and passes over members of other names; it also admits an array of the
fields in their order. A field that is absent takes its default, if it has one for that form.
-/

namespace BoxOffice.Json

structure Field (α : Type) where
  name : String
  /-- Another name that the field is read under. -/
  otherName : Option String
  codec : Codec α
  /-- The value of a field that an object does not mention. -/
  missing : Option α
  /-- The value of a field that an array ends before. -/
  omitted : Option α

namespace Field

def required {α : Type} (name : String) (codec : Codec α) : Field α :=
  ⟨name, none, codec, none, none⟩

/-- A field that may be null, which it also is when an object does not mention it. -/
def optional {α : Type} (name : String) (codec : Codec α) : Field (Option α) :=
  ⟨name, none, codec.nullable, some none, none⟩

def orNamed {α : Type} (field : Field α) (name : String) : Field α :=
  { field with otherName := some name }

/-- The same field, with a value to take wherever it is not given. -/
def orElse {α : Type} (field : Field α) (a : α) : Field α :=
  { field with missing := some a, omitted := some a }

def answersTo {α : Type} (field : Field α) (key : String) : Bool :=
  field.name == key || field.otherName == some key

end Field

/-- The fields of a record, in their order, with their types. -/
inductive Fields : List Type → Type 1
  | nil : Fields []
  | cons {α : Type} {αs : List Type} (field : Field α) (rest : Fields αs) : Fields (α :: αs)

abbrev Row : List Type → Type
  | [] => Unit
  | α :: αs => α × Row αs

/-- The values of those fields that have been read. -/
abbrev Slots : List Type → Type
  | [] => Unit
  | α :: αs => Option α × Slots αs

namespace Fields

variable {αs : List Type}

def empty : {αs : List Type} → Fields αs → Slots αs
  | _, .nil => ()
  | _, .cons _ rest => (none, rest.empty)

/-- Reads the value of the field that a key names. A field that has been read refuses another
value, whatever it is. `none` stands for a key that names no field. -/
def fill : {αs : List Type} → Fields αs → Slots αs → String → Doc →
    Option (Except Flaw (Slots αs))
  | _, .nil, _, _, _ => none
  | _, .cons field rest, (slot, slots), key, d =>
    if field.answersTo key then
      match slot with
      | some _ => some (.error .mismatched)
      | none => some ((field.codec.read d).map fun a => (some a, slots))
    else (rest.fill slots key d).map fun filled => filled.map fun slots => (slot, slots)

def readMember (fields : Fields αs) (slots : Slots αs) :
    Option String × Doc → Except Flaw (Slots αs)
  | (some key, d) =>
    match fields.fill slots key d with
    | some filled => filled
    | none => if d.isWhole then .ok slots else .error .malformed
  | (none, _) => .error .malformed

def complete : {αs : List Type} → Fields αs → Slots αs → Except Flaw (Row αs)
  | _, .nil, _ => .ok ()
  | _, .cons field rest, (slot, slots) =>
    match slot.or field.missing with
    | some a => (rest.complete slots).map fun row => (a, row)
    | none => .error .mismatched

def readItems : {αs : List Type} → Fields αs → List Doc → Except Flaw (Row αs)
  | _, .nil, [] => .ok ()
  | _, .nil, _ :: _ => .error .malformed
  | _, .cons field rest, [] =>
    match field.omitted with
    | some a => (rest.readItems []).map fun row => (a, row)
    | none => .error .mismatched
  | _, .cons field rest, d :: ds => do
    let a ← field.codec.read d
    let row ← rest.readItems ds
    return (a, row)

def readMembers (fields : Fields αs) (slots : Slots αs) :
    List (Option String × Doc) → Except Flaw (Slots αs)
  | [] => .ok slots
  | member :: members => do
    let slots ← fields.readMember slots member
    fields.readMembers slots members

def read (fields : Fields αs) : Doc → Except Flaw (Row αs)
  | .object members => do
    let slots ← fields.readMembers fields.empty members
    fields.complete slots
  | .array items => fields.readItems items
  | d => .error d.mismatch

def writeMembers : {αs : List Type} → Fields αs → Row αs → List (String × Value)
  | _, .nil, _ => []
  | _, .cons field rest, (a, row) => (field.name, field.codec.write a) :: rest.writeMembers row

def codec (fields : Fields αs) : Codec (Row αs) where
  write row := .object (fields.writeMembers row)
  read := fields.read

end Fields

end BoxOffice.Json
