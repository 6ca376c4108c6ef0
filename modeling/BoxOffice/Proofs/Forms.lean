import BoxOffice.Proofs.Digits
import BoxOffice.Proofs.Spelling
import BoxOffice.Text.Blank
import Mathlib.Data.List.TakeDrop
import Mathlib.Data.List.TakeWhile

/-!
Forms of texts. Of the texts that are read for one value those are told here that are accepted:
texts with blanks around them, and identifiers in each of their four forms. A reader that trims a
text and then looks at it is matched with how the text is put together.
-/

namespace BoxOffice

namespace Text

/-! ### Blanks -/

def Blank (cs : List Char) : Prop := ∀ c ∈ cs, isBlank c = true

def Solid (cs : List Char) : Prop := ∀ c ∈ cs, isBlank c = false

def Padded (core cs : List Char) : Prop :=
  ∃ front back, Blank front ∧ Blank back ∧ cs = front ++ core ++ back

variable {cs core : List Char}

theorem padded_trimChars (cs : List Char) : Padded (trimChars cs) cs := by
  let kept := dropBlank cs
  refine ⟨cs.takeWhile isBlank, (kept.reverse.takeWhile isBlank).reverse,
    fun c => List.mem_takeWhile_imp, fun c member => ?_, ?_⟩
  · exact List.mem_takeWhile_imp (List.mem_reverse.1 member)
  · have trimmed : trimChars cs ++ (kept.reverse.takeWhile isBlank).reverse = kept := by
      rw [trimChars, dropBlankEnd, ← List.reverse_append, dropBlank,
        List.takeWhile_append_dropWhile, List.reverse_reverse]
    rw [List.append_assoc, trimmed]
    exact List.takeWhile_append_dropWhile.symm

theorem dropBlank_append (blank : Blank cs) (rest : List Char) :
    dropBlank (cs ++ rest) = dropBlank rest := List.dropWhile_append_of_pos blank

theorem dropBlank_of_solid (solid : Solid core) (some : core ≠ []) (rest : List Char) :
    dropBlank (core ++ rest) = core ++ rest := by
  obtain ⟨c, cs, rfl⟩ := List.exists_cons_of_ne_nil some
  exact List.dropWhile_cons_of_neg (by simp [solid c List.mem_cons_self])

theorem trimChars_of_blank (blank : Blank cs) : trimChars cs = [] := by
  have dropped : dropBlank cs = [] := List.dropWhile_eq_nil_iff.2 blank
  rw [trimChars, dropped]
  rfl

theorem trimChars_eq_nil_iff : trimChars cs = [] ↔ Blank cs := by
  constructor
  · intro none
    obtain ⟨front, back, blankFront, blankBack, split⟩ := padded_trimChars cs
    rw [none, List.append_nil] at split
    exact split ▸ List.forall_mem_append.2 ⟨blankFront, blankBack⟩
  · exact trimChars_of_blank

/-- Blanks around a text that has none itself are trimmed off. -/
theorem Padded.trimChars_eq (padded : Padded core cs) (solid : Solid core) :
    trimChars cs = core := by
  obtain ⟨front, back, blankFront, blankBack, rfl⟩ := padded
  by_cases none : core = []
  · subst none
    rw [List.append_nil]
    exact trimChars_of_blank (List.forall_mem_append.2 ⟨blankFront, blankBack⟩)
  · have blankEnd : Blank back.reverse := fun c member => blankBack c (List.mem_reverse.1 member)
    have solidEnd : Solid core.reverse := fun c member => solid c (List.mem_reverse.1 member)
    have start := dropBlank_of_solid solid none back
    have finish := dropBlank_of_solid solidEnd (by simpa using none) []
    rw [List.append_nil] at finish
    rw [trimChars, List.append_assoc, dropBlank_append blankFront, start, dropBlankEnd,
      List.reverse_append, dropBlank_append blankEnd, finish, List.reverse_reverse]

/-- Where a form admits no blanks, a text has the form after trimming when it is one of the form
with blanks around it. -/
theorem exists_padded_iff {Form : List Char → Prop} (solid : ∀ core, Form core → Solid core) :
    (∃ core, Padded core cs ∧ Form core) ↔ Form (trimChars cs) := by
  constructor
  · rintro ⟨core, padded, form⟩
    rwa [padded.trimChars_eq (solid core form)]
  · exact fun form => ⟨trimChars cs, padded_trimChars cs, form⟩

/-! ### Characters -/

/-- A visible character, and none that separates the pieces of a list. -/
def Graphic (c : Char) : Prop := 0x20 < c.toNat ∧ c.toNat < 0x80 ∧ c ≠ ','

instance (c : Char) : Decidable (Graphic c) :=
  inferInstanceAs (Decidable (0x20 < c.toNat ∧ c.toNat < 0x80 ∧ c ≠ ','))

theorem Graphic.isBlank_eq_false {c : Char} (graphic : Graphic c) : isBlank c = false := by
  obtain ⟨above, below, -⟩ := graphic
  rw [Bool.eq_false_iff]
  intro blank
  simp only [isBlank, Bool.or_eq_true, Bool.and_eq_true, decide_eq_true_eq, beq_iff_eq] at blank
  omega

theorem graphic_of_between {least most c : Char} (above : '-' ≤ least) (below : most ≤ '~')
    (range : least ≤ c ∧ c ≤ most) : Graphic c := by
  have above : 0x2D ≤ c.toNat := Char.le_trans above range.1
  have below : c.toNat ≤ 0x7E := Char.le_trans range.2 below
  refine ⟨by omega, by omega, ?_⟩
  rintro rfl
  exact absurd above (by decide)

theorem graphic_of_hexDigit? {c : Char} {d : Nat} (found : hexDigit? c = some d) : Graphic c := by
  unfold hexDigit? at found
  split at found
  next range => exact graphic_of_between (by decide) (by decide) range
  split at found
  next range => exact graphic_of_between (by decide) (by decide) range
  split at found
  next range => exact graphic_of_between (by decide) (by decide) range
  next => cases found

theorem graphic_of_toLower {c : Char} (graphic : Graphic c.toLower) : Graphic c := by
  unfold Char.toLower at graphic
  split at graphic
  next range => exact graphic_of_between (by decide) (by decide) range
  next => exact graphic

theorem exists_of_mem_mapM {α β : Type} {f : α → Option β} {as : List α} {bs : List β}
    (read : as.mapM f = some bs) {a : α} (member : a ∈ as) : ∃ b, f a = some b := by
  induction as generalizing bs with
  | nil => exact absurd member List.not_mem_nil
  | cons x as ih =>
    rw [List.mapM_cons] at read
    obtain ⟨b, found, read⟩ := Option.bind_eq_some_iff.1 read
    obtain ⟨rest, readRest, -⟩ := Option.bind_eq_some_iff.1 read
    rcases List.mem_cons.1 member with rfl | inRest
    · exact ⟨b, found⟩
    · exact ih readRest inRest

end Text

/-! ### Identifiers -/

namespace Uuid

open Text

/-- Thirty-two hexadecimal digits, of either case, that denote an identifier. -/
def Hex (digits : List Char) (id : Uuid) : Prop :=
  digits.length = 32 ∧ ∃ ds, digits.mapM hexDigit? = some ds ∧ id = ofNat (ofDigits 16 ds)

/-- The forms in which an identifier can be given: plain digits, or five groups of them, which can
also stand in braces or behind the name of the scheme in any case. -/
inductive Spells : List Char → Uuid → Prop
  | plain {digits : List Char} {id : Uuid} (hex : Hex digits id) : Spells digits id
  | grouped {digits : List Char} {id : Uuid} (hex : Hex digits id) :
    Spells (hyphenate groups digits) id
  | braced {digits : List Char} {id : Uuid} (hex : Hex digits id) :
    Spells ('{' :: hyphenate groups digits ++ ['}']) id
  | named {name digits : List Char} {id : Uuid} (scheme_eq : name.map Char.toLower = scheme)
    (hex : Hex digits id) : Spells (name ++ hyphenate groups digits) id

variable {cs digits : List Char} {id : Uuid}

theorem ofHex?_eq_some_iff : ofHex? cs = some id ↔ Hex cs id := by
  unfold ofHex? Hex
  split
  next length => simp [length, eq_comm]
  next length => simp [length]

/-- Groups are found where hyphens stand between them. -/
theorem ungroup_eq_some_iff {lengths : List Nat} :
    ungroup lengths cs = some digits ↔
      cs = hyphenate lengths digits ∧ digits.length = lengths.sum := by
  constructor
  · intro found
    induction lengths generalizing cs digits with
    | nil =>
      rw [ungroup] at found
      split at found
      next none =>
        obtain rfl := Option.some.inj found
        exact ⟨none, rfl⟩
      next => cases found
    | cons n lengths ih =>
      cases lengths with
      | nil =>
        rw [ungroup] at found
        split at found
        next length =>
          obtain rfl := Option.some.inj found
          rw [hyphenate, List.take_of_length_le (Nat.le_of_eq length)]
          exact ⟨rfl, by simpa using length⟩
        next => cases found
      | cons m lengths =>
        rw [ungroup] at found
        split at found
        next rest behind =>
          obtain ⟨others, foundRest, rfl⟩ := Option.map_eq_some_iff.1 found
          obtain ⟨rfl, length⟩ := ih foundRest
          have taken : (cs.take n).length = n := by
            have short : n < cs.length := by
              by_contra long
              rw [List.drop_eq_nil_of_le (Nat.le_of_not_lt long)] at behind
              cases behind
            rw [List.length_take]
            omega
          refine ⟨?_, ?_⟩
          · rw [hyphenate, List.take_left' taken, List.drop_left' taken, ← behind,
              List.take_append_drop]
          · rw [List.length_append, taken, length, List.sum_cons (a := n)]
        next => cases found
  · rintro ⟨rfl, length⟩
    exact ungroup_hyphenate lengths length

theorem ofGrouped?_eq_some_iff :
    ofGrouped? cs = some id ↔ ∃ digits, cs = hyphenate groups digits ∧ Hex digits id := by
  rw [ofGrouped?, Option.bind_eq_some_iff]
  refine exists_congr fun digits => ?_
  rw [ungroup_eq_some_iff, ofHex?_eq_some_iff, and_assoc]
  -- The groups are as long together as the plain form.
  have length : groups.sum = 32 := rfl
  rw [length]
  exact and_congr_right fun _ => ⟨And.right, fun hex => ⟨hex.1, hex⟩⟩

theorem length_hyphenate_groups (hex : Hex digits id) : (hyphenate groups digits).length = 36 := by
  have count : (hyphenate groups digits).length + 1 = digits.length + groups.length :=
    length_hyphenate (by decide) hex.1
  have sums : groups.length = 5 := rfl
  have length := hex.1
  omega

/-- Identifiers are read in exactly these forms. -/
theorem ofChars?_eq_some_iff : ofChars? cs = some id ↔ Spells cs id := by
  constructor
  · intro found
    unfold ofChars? at found
    split at found
    · exact .plain (ofHex?_eq_some_iff.1 found)
    split at found
    · obtain ⟨digits, rfl, hex⟩ := ofGrouped?_eq_some_iff.1 found
      exact .grouped hex
    split at found
    next length =>
      split at found
      next braces =>
        obtain ⟨rest, rfl⟩ := List.head?_eq_some_iff.1 braces.1
        obtain ⟨digits, inner, hex⟩ := ofGrouped?_eq_some_iff.1 found
        have last : ('{' :: rest).getLast? = some '}' := braces.2
        have nonempty : rest ≠ [] := by
          rintro rfl
          cases length
        rw [List.getLast?_cons_of_ne_nil nonempty] at last
        obtain ⟨middle, rfl⟩ := List.getLast?_eq_some_iff.1 last
        rw [List.drop_one, List.tail_cons, List.dropLast_concat] at inner
        exact inner ▸ .braced hex
      next => cases found
    next =>
      split at found
      next =>
        split at found
        next scheme_eq =>
          obtain ⟨digits, behind, hex⟩ := ofGrouped?_eq_some_iff.1 found
          have named := Spells.named scheme_eq hex
          rwa [← behind, List.take_append_drop] at named
        next => cases found
      next => cases found
  · intro spells
    cases spells with
    | plain hex => rw [ofChars?, if_pos hex.1, ofHex?_eq_some_iff.2 hex]
    | grouped hex =>
      have length := length_hyphenate_groups hex
      have found := ofGrouped?_eq_some_iff.2 ⟨_, rfl, hex⟩
      rw [ofChars?, if_neg (by omega), if_pos length, found]
    | @braced digits _ hex =>
      have length : ('{' :: hyphenate groups digits ++ ['}']).length = 38 := by
        simp [length_hyphenate_groups hex]
      have found := ofGrouped?_eq_some_iff.2 ⟨_, rfl, hex⟩
      rw [ofChars?, if_neg (by omega), if_neg (by omega), if_pos length,
        if_pos ⟨rfl, List.getLast?_concat⟩, List.cons_append, List.drop_one, List.tail_cons,
        List.dropLast_concat, found]
    | @named name digits _ scheme_eq hex =>
      have nine : name.length = 9 := by
        rw [← List.length_map (f := Char.toLower), scheme_eq]
        rfl
      have length : (name ++ hyphenate groups digits).length = 45 := by
        rw [List.length_append, nine, length_hyphenate_groups hex]
      have found := ofGrouped?_eq_some_iff.2 ⟨_, rfl, hex⟩
      rw [ofChars?, if_neg (by omega), if_neg (by omega), if_neg (by omega), if_pos length,
        List.take_left' nine, List.drop_left' nine, if_pos scheme_eq, found]

/-! ### Characters of identifiers -/

theorem mem_hyphenate {c : Char} {lengths : List Nat} (member : c ∈ hyphenate lengths cs) :
    c ∈ cs ∨ c = '-' := by
  induction lengths generalizing cs with
  | nil => exact .inl member
  | cons n lengths ih =>
    cases lengths with
    | nil => exact .inl (List.mem_of_mem_take member)
    | cons m lengths =>
      rw [hyphenate, List.mem_append, List.mem_cons] at member
      rcases member with front | hyphen | rest
      · exact .inl (List.mem_of_mem_take front)
      · exact .inr hyphen
      · exact (ih rest).imp_left List.mem_of_mem_drop

theorem Hex.graphic (hex : Hex digits id) : ∀ c ∈ digits, Graphic c := by
  obtain ⟨-, ds, read, -⟩ := hex
  intro c member
  obtain ⟨d, found⟩ := exists_of_mem_mapM read member
  exact graphic_of_hexDigit? found

theorem graphic_of_scheme {name : List Char} (scheme_eq : name.map Char.toLower = scheme) :
    ∀ c ∈ name, Graphic c := by
  intro c member
  have lower : c.toLower ∈ scheme := scheme_eq ▸ List.mem_map_of_mem member
  have all : scheme.all (fun c => decide (Graphic c)) = true := rfl
  exact graphic_of_toLower (of_decide_eq_true (List.all_eq_true.1 all c.toLower lower))

/-- No form of an identifier has a blank or a comma in it. -/
theorem Spells.graphic (spells : Spells cs id) : ∀ c ∈ cs, Graphic c := by
  have inGroups {digits : List Char} (hex : Hex digits id) :
      ∀ c ∈ hyphenate groups digits, Graphic c := by
    intro c member
    rcases mem_hyphenate member with inDigits | rfl
    · exact hex.graphic c inDigits
    · decide
  cases spells with
  | plain hex => exact hex.graphic
  | grouped hex => exact inGroups hex
  | braced hex =>
    simp only [List.cons_append, List.forall_mem_cons, List.forall_mem_append, List.not_mem_nil,
      false_implies, implies_true, and_true]
    exact ⟨by decide, inGroups hex, by decide⟩
  | named scheme_eq hex =>
    exact List.forall_mem_append.2 ⟨graphic_of_scheme scheme_eq, inGroups hex⟩

theorem Spells.solid (spells : Spells cs id) : Solid cs := fun c member =>
  (spells.graphic c member).isBlank_eq_false

end Uuid

end BoxOffice
