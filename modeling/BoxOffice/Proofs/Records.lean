import BoxOffice.Json.Record
import BoxOffice.Proofs.Trees

/-!
Reading of written values. A codec is faithful to a value that it reads back from what it writes.
Faithful codecs make faithful records, as long as no field answers to the name of a later one: the
members are then read one by one, each by its own field.
-/

namespace BoxOffice.Json

open Text

theorem Value.doc_ne_null {v : Value} (notNull : v ≠ .null) : v.doc ≠ .null := by
  cases v with
  | null => exact absurd rfl notNull
  | _ => exact Doc.noConfusion

namespace Numeral

theorem value?_ofInt {i : Int} (least : -2 ^ 63 ≤ i) (largest : i < 2 ^ 64) :
    (Numeral.ofInt i).value? = some (.whole i) := by
  have size : ofDigits 10 (Numeral.ofInt i).whole = i.natAbs := ofDigits_decimalDigits i.natAbs
  have word : Nat.pow 2 64 = 2 ^ 64 := rfl
  have half : Nat.pow 2 63 = 2 ^ 63 := rfl
  rw [value?, size]
  by_cases negative : i < 0
  · have pos : 0 < i.natAbs ∧ i.natAbs ≤ Nat.pow 2 63 := by omega
    simp [Numeral.ofInt, negative, pos, abs_of_neg negative]
  · have small : i.natAbs < Nat.pow 2 64 := by omega
    simp [Numeral.ofInt, negative, small, abs_of_nonneg (Int.not_lt.mp negative)]

end Numeral

namespace Codec

variable {α β : Type} {codec : Codec α} {a b : α}

/-- A written value is read as a value of the type. -/
def Reads (codec : Codec α) (v : Value) (a : α) : Prop := codec.read v.doc = .ok a

theorem Reads.eq {v : Value} (reads : codec.Reads v a) (others : codec.Reads v b) : a = b :=
  Except.ok.inj (reads.symm.trans others)

theorem ofText_reads {print : α → String} {parse? : String → Option α}
    (parse : parse? (print a) = some b) :
    (ofText print parse?).Reads ((ofText print parse?).write a) b := by
  simp [Reads, ofText, Value.doc, parse]

theorem text_reads (s : String) : text.Reads (text.write s) s := ofText_reads rfl

theorem ofWhole_reads {print : α → Int} {parse? : Int → Option α} (least : -2 ^ 63 ≤ print a)
    (largest : print a < 2 ^ 64) (parse : parse? (print a) = some b) :
    (ofWhole print parse?).Reads ((ofWhole print parse?).write a) b := by
  simp [Reads, ofWhole, Value.doc, Numeral.value?_ofInt least largest, parse]

theorem Reads.convert {ofRead : α → β} {v : Value} (reads : codec.Reads v a) (toWrite : β → α) :
    (codec.convert ofRead toWrite).Reads v (ofRead a) := by
  have read : codec.read v.doc = .ok a := reads
  simp [Reads, Codec.convert, read, Except.map]

theorem nullable_read {d : Doc} (notNull : d ≠ .null) :
    codec.nullable.read d = (codec.read d).map some := by
  cases d with
  | null => exact absurd rfl notNull
  | _ => rfl

/-- A value that is not written as null is not taken for an absent one. -/
theorem nullable_reads (notNull : ∀ a, codec.write a ≠ .null) {f : α → α}
    (reads : ∀ a, codec.Reads (codec.write a) (f a)) (o : Option α) :
    codec.nullable.Reads (codec.nullable.write o) (o.map f) := by
  cases o with
  | none => rfl
  | some a =>
    have read : codec.read (codec.write a).doc = .ok (f a) := reads a
    exact (nullable_read (Value.doc_ne_null (notNull a))).trans (by rw [read]; rfl)

theorem nullable_reads_self (notNull : ∀ a, codec.write a ≠ .null)
    (reads : ∀ a, codec.Reads (codec.write a) a) (o : Option α) :
    codec.nullable.Reads (codec.nullable.write o) o := by
  have same := nullable_reads notNull (f := id) reads o
  rwa [Option.map_id, id] at same

theorem list_reads {f : α → α} (reads : ∀ a, codec.Reads (codec.write a) (f a)) (as : List α) :
    codec.list.Reads (codec.list.write as) (as.map f) := by
  have read : (as.map fun a => (codec.write a).doc).mapM codec.read = .ok (as.map f) := by
    induction as with
    | nil => rfl
    | cons a as ih =>
      have read : codec.read (codec.write a).doc = .ok (f a) := reads a
      rw [List.map_cons, List.mapM_cons, read, ih]
      rfl
  simpa [Reads, list, Value.doc, Value.itemDocs_eq_map, Function.comp_def] using read

theorem list_reads_self (reads : ∀ a, codec.Reads (codec.write a) a) (as : List α) :
    codec.list.Reads (codec.list.write as) as := by
  have same := list_reads (f := id) reads as
  rwa [List.map_id] at same

theorem readText_render (codec : Codec α) (v : Value) :
    readText codec (v.render.toList.map some) = codec.read v.doc := by
  rw [readText, Value.render, String.toList_ofList, Doc.ofTokens_scan]
  exact bind_pure (codec.read v.doc)

/-- What is read from the text of the first value is the second. -/
def RereadAs (codec : Codec α) (a b : α) : Prop :=
  readText codec ((codec.write a).render.toList.map some) = .ok b

theorem Reads.rereadAs (reads : codec.Reads (codec.write a) b) : codec.RereadAs a b :=
  (readText_render codec (codec.write a)).trans reads

def RoundTrips (codec : Codec α) (a : α) : Prop :=
  readText codec ((codec.write a).render.toList.map some) = .ok a

theorem roundTrips_iff_reads : codec.RoundTrips a ↔ codec.Reads (codec.write a) a := by
  rw [RoundTrips, readText_render, Reads]

/-- A value is read back exactly if it is what is read. -/
theorem Reads.roundTrips_iff_eq (reads : codec.Reads (codec.write a) b) :
    codec.RoundTrips a ↔ b = a := by
  rw [Codec.roundTrips_iff_reads]
  constructor
  · exact reads.eq
  · rintro rfl
    exact reads

theorem Reads.rereadAs_and_roundTrips_iff {p : Prop} (reads : codec.Reads (codec.write a) b)
    (same : b = a ↔ p) : codec.RereadAs a b ∧ (codec.RoundTrips a ↔ p) :=
  ⟨reads.rereadAs, reads.roundTrips_iff_eq.trans same⟩

end Codec

namespace Fields

variable {α : Type} {αs : List Type}

/-- Members that hold the fields of a record in their order, each under a name of its field that
none of the fields before answers to. -/
inductive Hold : {αs : List Type} → Fields αs → Row αs → List (String × Value) → Prop
  | nil : Hold .nil () []
  | cons {α : Type} {αs : List Type} {field : Field α} {rest : Fields αs} {a : α} {row : Row αs}
      {key : String} {v : Value} {members : List (String × Value)}
      (answers : field.answersTo key = true) (reads : field.codec.Reads v a)
      (others : ∀ m ∈ members, field.answersTo m.1 = false) (hold : Hold rest row members) :
      Hold (.cons field rest) (a, row) ((key, v) :: members)

theorem readMember_cons {field : Field α} {rest : Fields αs} {slot : Option α} {slots : Slots αs}
    {key : String} (other : field.answersTo key = false) (d : Doc) :
    (Fields.cons field rest).readMember (slot, slots) (some key, d) =
      (rest.readMember slots (some key, d)).map fun slots => (slot, slots) := by
  simp only [readMember, fill, other, Bool.false_eq_true, if_false]
  cases rest.fill slots key d with
  | some filled => rfl
  | none => cases d.isWhole <;> rfl

theorem readMembers_cons {field : Field α} {members : List (String × Value)}
    (others : ∀ m ∈ members, field.answersTo m.1 = false) (rest : Fields αs) (slot : Option α)
    (slots : Slots αs) :
    (Fields.cons field rest).readMembers (slot, slots) (Value.memberDocs members) =
      (rest.readMembers slots (Value.memberDocs members)).map fun slots => (slot, slots) := by
  induction members generalizing slots with
  | nil => rfl
  | cons m ms ih =>
    rw [Value.memberDocs, readMembers, readMembers, readMember_cons (others m List.mem_cons_self)]
    cases rest.readMember slots (some m.1, m.2.doc) with
    | ok slots => exact ih (fun m mem => others m (List.mem_cons_of_mem _ mem)) slots
    | error flaw => rfl

theorem Hold.readMembers {fields : Fields αs} {row : Row αs} {members : List (String × Value)}
    (hold : fields.Hold row members) :
    ∃ slots, fields.readMembers fields.empty (Value.memberDocs members) = .ok slots ∧
      fields.complete slots = .ok row := by
  induction hold with
  | nil => exact ⟨(), rfl, rfl⟩
  | @cons _ _ field rest a row key v members answers reads others _ ih =>
    -- The slots of the later fields are filled from the later members alone.
    obtain ⟨slots, filled, complete⟩ := ih
    have read : field.codec.read v.doc = .ok a := reads
    have first : (Fields.cons field rest).readMember (none, rest.empty) (some key, v.doc) =
        .ok (some a, rest.empty) := by
      simp [readMember, fill, answers, read, Except.map]
    refine ⟨(some a, slots), ?_, ?_⟩
    · rw [Value.memberDocs, Fields.readMembers, empty, first]
      exact (readMembers_cons others _ _ _).trans (by rw [filled]; rfl)
    · simp [Fields.complete, complete, Except.map]

theorem Hold.reads {fields : Fields αs} {row : Row αs} {members : List (String × Value)}
    (hold : fields.Hold row members) : fields.codec.Reads (.object members) row := by
  obtain ⟨slots, filled, complete⟩ := hold.readMembers
  simp only [Codec.Reads, codec, Value.doc, read, filled]
  exact complete

def names : {αs : List Type} → Fields αs → List String
  | _, .nil => []
  | _, .cons field rest => field.name :: rest.names

/-- No field answers to the name of a later one. -/
def areDistinct : {αs : List Type} → Fields αs → Bool
  | _, .nil => true
  | _, .cons field rest => rest.names.all (!field.answersTo ·) && rest.areDistinct

def Reread : {αs : List Type} → Fields αs → Row αs → Row αs → Prop
  | _, .nil, _, _ => True
  | _, .cons field rest, (a, row), (b, row') =>
    field.codec.Reads (field.codec.write a) b ∧ rest.Reread row row'

theorem map_fst_writeMembers (fields : Fields αs) (row : Row αs) :
    (fields.writeMembers row).map (·.1) = fields.names := by
  induction fields with
  | nil => rfl
  | cons field rest ih => rw [writeMembers, List.map_cons, ih, names]

theorem Reread.hold {fields : Fields αs} {row row' : Row αs} (reread : fields.Reread row row')
    (distinct : fields.areDistinct = true) : fields.Hold row' (fields.writeMembers row) := by
  induction fields with
  | nil => exact .nil
  | cons field rest ih =>
    obtain ⟨a, row⟩ := row
    obtain ⟨b, row'⟩ := row'
    obtain ⟨others, distinct⟩ := Bool.and_eq_true_iff.mp distinct
    refine .cons ?_ reread.1 (fun m mem => ?_) (ih reread.2 distinct)
    · simp [Field.answersTo]
    · have name : m.1 ∈ rest.names := by
        rw [← map_fst_writeMembers rest row]
        exact List.mem_map_of_mem mem
      simpa using List.all_eq_true.mp others m.1 name

/-- A record is read as what its fields are read as. -/
theorem Reread.reads {fields : Fields αs} {row row' : Row αs} (reread : fields.Reread row row')
    (distinct : fields.areDistinct = true) : fields.codec.Reads (fields.codec.write row) row' :=
  (reread.hold distinct).reads

end Fields

end BoxOffice.Json
