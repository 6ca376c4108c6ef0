import BoxOffice.IpAddress
import BoxOffice.Proofs.Digits
import Mathlib.Data.List.Induction

/-!
Texts of addresses. An address of four octets is written in one way; one of eight groups may leave
out a run of zeros and write its last two groups as octets. The reader goes as far as it can at
every place, and it is shown here that this misses none of the texts and admits no other.
-/

namespace BoxOffice

namespace Text

variable {c : Char} {d : Nat} {cs : List Char} {ds : List Nat}

/-! ### Digits -/

theorem eq_digitChar_of_digit? (found : digit? c = some d) : d < 10 ∧ c = digitChar d := by
  unfold digit? at found
  split at found
  next between =>
    obtain rfl := Option.some.inj found
    have least : 48 ≤ c.toNat := between.1
    have most : c.toNat ≤ 57 := between.2
    have small : c.toNat - '0'.toNat < 10 := by
      have zero : '0'.toNat = 48 := rfl
      omega
    refine ⟨small, ?_⟩
    have whole : '0'.toNat + (c.toNat - '0'.toNat) = c.toNat := Nat.add_sub_of_le least
    rw [digitChar, if_pos small, whole, Char.ofNat_toNat]
  next => cases found

/-- A text goes on with digits for as long as it can. -/
theorem spanDigits_spec (cs : List Char) :
    cs = (spanDigits cs).1.map digitChar ++ (spanDigits cs).2 ∧
      (∀ d ∈ (spanDigits cs).1, d < 10) ∧ EndsDigits (spanDigits cs).2 := by
  induction cs with
  | nil => exact ⟨rfl, List.forall_mem_nil _, endsDigits_nil⟩
  | cons c cs ih =>
    cases found : digit? c with
    | none =>
      have stop : spanDigits (c :: cs) = ([], c :: cs) := by rw [spanDigits, found]
      rw [stop]
      exact ⟨rfl, List.forall_mem_nil _, endsDigits_cons found cs⟩
    | some d =>
      have more : spanDigits (c :: cs) = (d :: (spanDigits cs).1, (spanDigits cs).2) := by
        rw [spanDigits, found]
      obtain ⟨small, rfl⟩ := eq_digitChar_of_digit? found
      obtain ⟨split, digits, ends⟩ := ih
      rw [more]
      exact ⟨congrArg _ split, List.forall_mem_cons.2 ⟨small, digits⟩, ends⟩

theorem ofDigits_pos {base : Nat} (pos : 0 < base) (first : d ≠ 0) (ds : List Nat) :
    0 < ofDigits base (d :: ds) := by
  rw [ofDigits_cons]
  have power : 0 < base ^ ds.length := Nat.pow_pos pos
  have := Nat.mul_pos (Nat.pos_of_ne_zero first) power
  omega

/-- Digits without a superfluous zero in front are those of their number. -/
theorem decimalDigits_ofDigits (some : ds ≠ []) (digits : ∀ d ∈ ds, d < 10)
    (lead : ds.head? = .some 0 → ds.length = 1) : decimalDigits (ofDigits 10 ds) = ds := by
  induction ds using List.reverseRecOn with
  | nil => exact absurd rfl some
  | append_singleton ds d ih =>
    have small : d < 10 := digits d (by simp)
    rw [ofDigits_concat]
    cases ds with
    | nil =>
      have zero : ofDigits 10 [] = 0 := rfl
      rw [zero, Nat.zero_mul, Nat.zero_add, decimalDigits, if_pos small]
      rfl
    | cons e ds =>
      have first : e ≠ 0 := by
        rintro rfl
        have one := lead rfl
        simp at one
      have front : decimalDigits (ofDigits 10 (e :: ds)) = e :: ds :=
        ih (List.cons_ne_nil _ _) (fun x member => digits x (List.mem_append_left _ member))
          fun zero => absurd (Option.some.inj zero) first
      have pos : 0 < ofDigits 10 (e :: ds) := ofDigits_pos (by decide) first ds
      rw [decimalDigits, if_neg (by omega), Nat.mul_comm, Nat.mul_add_div (by decide),
        Nat.div_eq_of_lt small, Nat.add_zero, front, Nat.mul_add_mod, Nat.mod_eq_of_lt small]

theorem length_decimalDigits_le {n k : Nat} (small : n < 10 ^ (k + 1)) :
    (decimalDigits n).length ≤ k + 1 := by
  induction k generalizing n with
  | zero =>
    rw [decimalDigits, if_pos (by simpa using small)]
    exact Nat.le_refl 1
  | succ k ih =>
    rw [decimalDigits]
    split
    · exact Nat.le_add_left ..
    · have fewer := ih (n := n / 10) (by rw [Nat.div_lt_iff_lt_mul (by decide)]; exact small)
      rw [List.length_append]
      exact Nat.add_le_add_right fewer 1

theorem length_of_mapM {α β : Type} {f : α → Option β} {xs : List α} {ys : List β}
    (found : xs.mapM f = some ys) : ys.length = xs.length := by
  induction xs generalizing ys with
  | nil =>
    obtain rfl := Option.some.inj found
    rfl
  | cons x xs ih =>
    rw [List.mapM_cons] at found
    obtain ⟨y, -, found⟩ := Option.bind_eq_some_iff.1 found
    obtain ⟨ys, others, same⟩ := Option.bind_eq_some_iff.1 found
    obtain rfl := Option.some.inj same
    rw [List.length_cons, List.length_cons, ih others]

end Text

namespace IpAddress

open Text

variable {cs rest piece : List Char} {a b c d : UInt8} {g : UInt16}

/-! ### Octets -/

theorem octetFront?_eq_some_iff :
    octetFront? cs = some (a, rest) ↔ cs = decimal a.toNat ++ rest ∧ EndsDigits rest := by
  constructor
  · intro found
    obtain ⟨split, digits, ends⟩ := spanDigits_spec cs
    simp only [octetFront?] at found
    split at found
    · cases found
    next proper =>
      obtain ⟨rfl, rfl⟩ := Prod.mk.inj (Option.some.inj found)
      obtain ⟨nonempty, others⟩ := not_or.1 proper
      obtain ⟨-, others⟩ := not_or.1 others
      obtain ⟨lead, least⟩ := not_or.1 others
      have fits : ofDigits 10 (spanDigits cs).1 < 256 :=
        Nat.lt_succ_of_le (Nat.le_of_not_lt least)
      have value : (UInt8.ofNat (ofDigits 10 (spanDigits cs).1)).toNat =
          ofDigits 10 (spanDigits cs).1 := UInt8.toNat_ofNat_of_lt' fits
      have written : decimalDigits (ofDigits 10 (spanDigits cs).1) = (spanDigits cs).1 := by
        refine decimalDigits_ofDigits nonempty digits fun zero => ?_
        have pos := List.length_pos_iff.2 nonempty
        have single : ¬1 < (spanDigits cs).1.length := fun long => lead ⟨zero, long⟩
        omega
      refine ⟨?_, ends⟩
      rw [value, decimal, written]
      exact split
  · rintro ⟨rfl, ends⟩
    have span : spanDigits (decimal a.toNat ++ rest) = (decimalDigits a.toNat, rest) :=
      spanDigits_append lt_of_mem_decimalDigits ends
    have small : a.toNat < 256 := a.toNat_lt
    have short : (decimalDigits a.toNat).length ≤ 3 :=
      length_decimalDigits_le (small.trans (by decide))
    have lead : ¬((decimalDigits a.toNat).head? = some 0 ∧
        1 < (decimalDigits a.toNat).length) := by
      rintro ⟨zero, long⟩
      rcases Nat.eq_zero_or_pos a.toNat with none | pos
      · rw [none, decimalDigits] at long
        exact absurd long (by decide)
      · exact head?_decimalDigits pos zero
    have proper : ¬(decimalDigits a.toNat = [] ∨ 3 < (decimalDigits a.toNat).length ∨
        ((decimalDigits a.toNat).head? = some 0 ∧ 1 < (decimalDigits a.toNat).length) ∨
        255 < a.toNat) :=
      not_or.2 ⟨decimalDigits_ne_nil _, not_or.2 ⟨short.not_gt, not_or.2 ⟨lead, by omega⟩⟩⟩
    simp only [octetFront?, span, ofDigits_decimalDigits]
    rw [if_neg proper, UInt8.ofNat_toNat]

theorem after?_eq_some_iff {x : Char} : after? x cs = some rest ↔ cs = x :: rest := by
  cases cs with
  | nil => simp [after?]
  | cons y cs =>
    rw [after?]
    split
    next same => simp [same]
    next other => simp [other]

theorem octetsChars_append (a b c d : UInt8) (rest : List Char) :
    octetsChars a b c d ++ rest = decimal a.toNat ++ '.' :: (decimal b.toNat ++
      '.' :: (decimal c.toNat ++ '.' :: (decimal d.toNat ++ rest))) := by
  simp [octetsChars]

theorem octetsFront?_eq_some_iff : octetsFront? cs = some ((a, b, c, d), rest) ↔
    cs = octetsChars a b c d ++ rest ∧ EndsDigits rest := by
  have point {rest : List Char} : EndsDigits ('.' :: rest) := endsDigits_cons rfl rest
  simp only [octetsFront?, Option.bind_eq_bind, Option.bind_eq_some_iff, Prod.exists,
    octetFront?_eq_some_iff, after?_eq_some_iff, Option.pure_def, Option.some.injEq,
    Prod.mk.injEq]
  constructor
  · rintro ⟨_, _, ⟨rfl, -⟩, _, rfl, _, _, ⟨rfl, -⟩, _, rfl, _, _, ⟨rfl, -⟩, _, rfl, _, _,
      ⟨rfl, ends⟩, ⟨rfl, rfl, rfl, rfl⟩, rfl⟩
    exact ⟨(octetsChars_append ..).symm, ends⟩
  · rintro ⟨rfl, ends⟩
    exact ⟨a, _, ⟨octetsChars_append .., point⟩, _, rfl, b, _, ⟨rfl, point⟩, _, rfl,
      c, _, ⟨rfl, point⟩, _, rfl, d, _, ⟨rfl, ends⟩, ⟨rfl, rfl, rfl, rfl⟩, rfl⟩

/-! ### Groups -/

def EndsHex (rest : List Char) : Prop := ∀ c ∈ rest.head?, hexDigit? c = none

theorem endsHex_of_colon (colon : ∀ c ∈ rest.head?, c = ':') : EndsHex rest := fun c member => by
  rw [colon c member]
  rfl

theorem endsHex_cons {x : Char} (other : hexDigit? x = none) (rest : List Char) :
    EndsHex (x :: rest) := by
  rintro c ⟨⟩
  exact other

/-- Up to four hexadecimal digits, of either case, that denote a group. -/
def IsGroup (piece : List Char) (g : UInt16) : Prop :=
  ∃ ds, piece.mapM hexDigit? = some ds ∧ ds ≠ [] ∧ ds.length ≤ 4 ∧ g = .ofNat (ofDigits 16 ds)

theorem hexDigitsFront_append {ds : List Nat} (digits : piece.mapM hexDigit? = some ds)
    (ends : EndsHex rest) : hexDigitsFront (piece ++ rest) = ds := by
  induction piece generalizing ds with
  | nil =>
    obtain rfl := Option.some.inj digits
    cases rest with
    | nil => rfl
    | cons x rest =>
      rw [List.nil_append, hexDigitsFront, ends x rfl]
      rfl
  | cons x piece ih =>
    rw [List.mapM_cons] at digits
    obtain ⟨first, found, digits⟩ := Option.bind_eq_some_iff.1 digits
    obtain ⟨others, more, same⟩ := Option.bind_eq_some_iff.1 digits
    obtain rfl := Option.some.inj same
    rw [List.cons_append, hexDigitsFront, found, ih more]

/-- A text goes on with hexadecimal digits for as long as it can. -/
theorem hexDigitsFront_spec (cs : List Char) : ∃ piece rest, cs = piece ++ rest ∧
    piece.mapM hexDigit? = some (hexDigitsFront cs) ∧ EndsHex rest := by
  induction cs with
  | nil => exact ⟨[], [], rfl, rfl, endsHex_of_colon (by rintro c ⟨⟩)⟩
  | cons x cs ih =>
    cases found : hexDigit? x with
    | none =>
      refine ⟨[], x :: cs, rfl, ?_, endsHex_cons found cs⟩
      rw [hexDigitsFront, found]
      rfl
    | some d =>
      obtain ⟨piece, rest, rfl, digits, ends⟩ := ih
      refine ⟨x :: piece, rest, rfl, ?_, ends⟩
      rw [hexDigitsFront, found, List.mapM_cons, found, digits]
      rfl

theorem groupFront?_eq_some_iff : groupFront? cs = some (g, rest) ↔
    ∃ piece, IsGroup piece g ∧ cs = piece ++ rest ∧ EndsHex rest := by
  constructor
  · intro found
    obtain ⟨piece, behind, split, digits, ends⟩ := hexDigitsFront_spec cs
    simp only [groupFront?] at found
    split at found
    · cases found
    next proper =>
      obtain ⟨rfl, rfl⟩ := Prod.mk.inj (Option.some.inj found)
      obtain ⟨nonempty, short⟩ := not_or.1 proper
      have dropped : cs.drop (hexDigitsFront cs).length = behind := by
        rw [length_of_mapM digits, split, List.drop_left]
      rw [dropped]
      exact ⟨piece, ⟨_, digits, nonempty, Nat.le_of_not_lt short, rfl⟩, split, ends⟩
  · rintro ⟨piece, ⟨ds, digits, nonempty, short, rfl⟩, rfl, ends⟩
    have front := hexDigitsFront_append digits ends
    have proper : ¬(ds = [] ∨ 4 < ds.length) := not_or.2 ⟨nonempty, short.not_gt⟩
    simp only [groupFront?, front]
    rw [if_neg proper, length_of_mapM digits, List.drop_left]

/-- Texts between colons; unless they come first, there is a colon in front of them. -/
def joined : Bool → List (List Char) → List Char
  | _, [] => []
  | isFirst, piece :: pieces => (if isFirst then piece else ':' :: piece) ++ joined false pieces

/-- Texts of groups. The last may be of two groups, written as four octets, and is told of. -/
inductive Spelled : Bool → List (List Char) → List UInt16 → Prop
  | nil : Spelled false [] []
  | group {octets : Bool} {piece : List Char} {pieces : List (List Char)} {g : UInt16}
    {gs : List UInt16} (isGroup : IsGroup piece g) (rest : Spelled octets pieces gs) :
    Spelled octets (piece :: pieces) (g :: gs)
  | octets (a b c d : UInt8) : Spelled true [octetsChars a b c d] [pair a b, pair c d]

variable {octets isFirst : Bool} {pieces : List (List Char)} {gs : List UInt16}

/-- Where the next group starts: behind a colon, unless it is the first. -/
def start? (isFirst : Bool) (cs : List Char) : Option (List Char) :=
  if isFirst then some cs else after? ':' cs

theorem start?_eq_some_iff {text : List Char} :
    start? isFirst cs = some text ↔ cs = if isFirst then text else ':' :: text := by
  cases isFirst with
  | true => exact Option.some_inj
  | false => exact after?_eq_some_iff

theorem joined_cons (isFirst : Bool) (piece : List Char) (pieces : List (List Char)) :
    joined isFirst (piece :: pieces) ++ rest =
      if isFirst then piece ++ (joined false pieces ++ rest)
      else ':' :: (piece ++ (joined false pieces ++ rest)) := by
  cases isFirst <;> simp [joined]

theorem readGroups_succ (room : Nat) (isFirst : Bool) (cs : List Char) :
    readGroups (room + 1) isFirst cs =
      match if 0 < room then (start? isFirst cs).bind octetsFront? else none with
      | some ((a, b, c, d), rest) => ⟨[pair a b, pair c d], true, rest⟩
      | none =>
        match (start? isFirst cs).bind groupFront? with
        | some (group, rest) =>
          { readGroups room false rest with groups := group :: (readGroups room false rest).groups }
        | none => ⟨[], false, cs⟩ := rfl

/-- The front of the text is spelled by the groups that are read from it. -/
theorem exists_spelled (room : Nat) (isFirst : Bool) (cs : List Char) : ∃ pieces,
    Spelled (readGroups room isFirst cs).octets pieces (readGroups room isFirst cs).groups ∧
      cs = joined isFirst pieces ++ (readGroups room isFirst cs).rest ∧
      (readGroups room isFirst cs).groups.length ≤ room := by
  induction room generalizing isFirst cs with
  | zero => exact ⟨[], .nil, rfl, Nat.le_refl 0⟩
  | succ room ih =>
    rw [readGroups_succ]
    split
    next a b c d rest found =>
      obtain ⟨roomy, found⟩ := Option.ite_none_right_eq_some.1 found
      obtain ⟨text, started, found⟩ := Option.bind_eq_some_iff.1 found
      obtain ⟨rfl, -⟩ := octetsFront?_eq_some_iff.1 found
      refine ⟨[octetsChars a b c d], .octets a b c d, ?_, Nat.succ_le_succ roomy⟩
      rw [joined_cons]
      exact start?_eq_some_iff.1 started
    next =>
      split
      next g rest found =>
        obtain ⟨text, started, found⟩ := Option.bind_eq_some_iff.1 found
        obtain ⟨piece, isGroup, rfl, -⟩ := groupFront?_eq_some_iff.1 found
        obtain ⟨pieces, spelled, split, fits⟩ := ih false rest
        refine ⟨piece :: pieces, .group isGroup spelled, ?_, Nat.succ_le_succ fits⟩
        rw [joined_cons, ← split]
        exact start?_eq_some_iff.1 started
      next => exact ⟨[], .nil, rfl, Nat.zero_le _⟩

/-- Nothing is left, or there is a double colon: here the reader of groups stops. -/
def Stops (rest : List Char) : Prop := rest = [] ∨ ∃ more, rest = ':' :: ':' :: more

theorem Stops.head (stops : Stops rest) (pieces : List (List Char)) :
    ∀ c ∈ (joined false pieces ++ rest).head?, c = ':' := by
  cases pieces with
  | nil =>
    rcases stops with rfl | ⟨more, rfl⟩
    · rintro c ⟨⟩
    · exact fun _ member => (Option.some.inj member).symm
  | cons piece pieces => exact fun _ member => (Option.some.inj member).symm

theorem Stops.endsDigits (stops : Stops rest) : EndsDigits rest := by
  rcases stops with rfl | ⟨more, rfl⟩
  · exact endsDigits_nil
  · exact endsDigits_cons rfl _

/-- Behind the digits of a group, a colon is no point. -/
theorem octetsFront?_eq_none (isGroup : IsGroup piece g) (colon : ∀ c ∈ rest.head?, c = ':') :
    octetsFront? (piece ++ rest) = none := by
  rw [Option.eq_none_iff_forall_ne_some]
  rintro ⟨⟨a, b, c, d⟩, more⟩ found
  obtain ⟨split, -⟩ := octetsFront?_eq_some_iff.1 found
  obtain ⟨ds, digits, -⟩ := isGroup
  have octet : (decimal a.toNat).mapM hexDigit? = some (decimalDigits a.toNat) :=
    mapM_hexDigit? fun d member => (lt_of_mem_decimalDigits d member).trans (by decide)
  rw [octetsChars_append] at split
  -- Both are as long as the hexadecimal digits at the front.
  have front := hexDigitsFront_append digits (endsHex_of_colon colon)
  rw [split, hexDigitsFront_append octet (endsHex_cons rfl _)] at front
  have length : piece.length = (decimal a.toNat).length := by
    rw [← length_of_mapM digits, ← front, length_of_mapM octet]
  obtain ⟨-, rfl⟩ := List.append_inj split length
  cases colon '.' rfl

theorem Stops.start?_bind_eq_none {α : Type} {read : List Char → Option α}
    (nothing : read [] = none) (colon : ∀ more, read (':' :: more) = none) (stops : Stops rest) :
    (start? isFirst rest).bind read = none := by
  rcases stops with rfl | ⟨more, rfl⟩ <;> cases isFirst
  · rfl
  · exact nothing
  · exact colon more
  · exact colon (':' :: more)

theorem readGroups_joined (spelled : Spelled octets pieces gs) {room : Nat}
    (fits : gs.length ≤ room) (isFirst : Bool) (stops : Stops rest) :
    readGroups room isFirst (joined isFirst pieces ++ rest) = ⟨gs, octets, rest⟩ := by
  induction spelled generalizing room isFirst with
  | nil =>
    cases room with
    | zero => rfl
    | succ room =>
      have noOctets : (start? isFirst rest).bind octetsFront? = none :=
        stops.start?_bind_eq_none rfl fun _ => rfl
      have noGroup : (start? isFirst rest).bind groupFront? = none :=
        stops.start?_bind_eq_none rfl fun _ => rfl
      rw [joined, List.nil_append, readGroups_succ, noOctets, noGroup]
      simp
  | @group octets piece pieces g gs isGroup others ih =>
    obtain ⟨room, rfl⟩ := Nat.exists_eq_succ_of_ne_zero (n := room) (by rintro rfl; cases fits)
    have started : start? isFirst (joined isFirst (piece :: pieces) ++ rest) =
        some (piece ++ (joined false pieces ++ rest)) :=
      start?_eq_some_iff.2 (joined_cons ..)
    have colon := stops.head pieces
    have found := groupFront?_eq_some_iff.2 ⟨piece, isGroup, rfl, endsHex_of_colon colon⟩
    have more := ih (Nat.le_of_succ_le_succ fits) false
    simp only [Nat.succ_eq_add_one, readGroups_succ, started, Option.bind_some,
      octetsFront?_eq_none isGroup colon, found, ite_self, more]
  | octets a b c d =>
    obtain ⟨room, rfl⟩ := Nat.exists_eq_succ_of_ne_zero (n := room) (by rintro rfl; cases fits)
    have roomy : 0 < room := Nat.le_of_succ_le_succ fits
    have started : start? isFirst (joined isFirst [octetsChars a b c d] ++ rest) =
        some (octetsChars a b c d ++ rest) :=
      start?_eq_some_iff.2 (joined_cons ..)
    have found : octetsFront? (octetsChars a b c d ++ rest) = some ((a, b, c, d), rest) :=
      octetsFront?_eq_some_iff.2 ⟨rfl, stops.endsDigits⟩
    simp only [Nat.succ_eq_add_one, readGroups_succ, started, Option.bind_some, if_pos roomy,
      found]

/-! ### Addresses -/

/-- The texts of an address: four octets, eight groups, or fewer with a double colon that stands for
zeros. -/
inductive Denotes : List Char → IpAddress → Prop
  | octets (a b c d : UInt8) : Denotes (octetsChars a b c d) (.v4 a b c d)
  | full {octets : Bool} {pieces : List (List Char)} {gs : List UInt16}
    (spelled : Spelled octets pieces gs) (length_eq : gs.length = 8) :
    Denotes (joined true pieces) (.v6 gs length_eq)
  | shortened {octets : Bool} {front back : List (List Char)} {high low : List UInt16}
    (head : Spelled false front high) (tail : Spelled octets back low)
    (length_eq : (high ++ List.replicate (8 - high.length - low.length) 0 ++ low).length = 8)
    (short : high.length + low.length < 8) :
    Denotes (joined true front ++ ':' :: ':' :: joined true back)
      (.v6 (high ++ List.replicate (8 - high.length - low.length) 0 ++ low) length_eq)

variable {ip : IpAddress}

theorem ofGroups?_eq_some_iff : ofGroups? gs = some ip ↔ ∃ h, ip = .v6 gs h := by
  rw [ofGroups?]
  split
  next length => simp [length, eq_comm]
  next length => simp [length]

/-- A text of groups does not start with an address of octets, unless it is one. -/
theorem octetsFront?_joined (spelled : Spelled octets pieces gs)
    (other : octets = true → gs.length ≠ 2) (stops : Stops rest) :
    octetsFront? (joined true pieces ++ rest) = none := by
  cases spelled with
  | nil =>
    rcases stops with rfl | ⟨more, rfl⟩ <;> rfl
  | @group _ piece pieces g gs isGroup others =>
    rw [joined_cons]
    exact octetsFront?_eq_none isGroup (stops.head pieces)
  | octets => exact absurd rfl (other rfl)

theorem denotes_of_ofGroupedChars? (found : ofGroupedChars? cs = some ip) : Denotes cs ip := by
  obtain ⟨front, spelled, split, fits⟩ := exists_spelled 8 true cs
  simp only [ofGroupedChars?] at found
  generalize readGroups 8 true cs = head at found spelled split fits
  split at found
  next length =>
    obtain ⟨nothing, found⟩ := Option.ite_none_right_eq_some.1 found
    obtain ⟨_, rfl⟩ := ofGroups?_eq_some_iff.1 found
    rw [split, nothing, List.append_nil]
    exact .full spelled length
  next few =>
    obtain ⟨noOctets, found⟩ := Option.ite_none_left_eq_some.1 found
    obtain ⟨rest, first, found⟩ := Option.bind_eq_some_iff.1 found
    obtain ⟨rest', second, found⟩ := Option.bind_eq_some_iff.1 found
    obtain ⟨back, spelled', split', fits'⟩ :=
      exists_spelled (7 - head.groups.length) true rest'
    generalize readGroups (7 - head.groups.length) true rest' = tail at found spelled' split' fits'
    obtain ⟨nothing, found⟩ := Option.ite_none_right_eq_some.1 found
    obtain ⟨_, rfl⟩ := ofGroups?_eq_some_iff.1 found
    rw [after?_eq_some_iff] at first second
    rw [nothing, List.append_nil] at split'
    rw [Bool.eq_false_iff.2 noOctets] at spelled
    rw [split, first, second, split']
    exact .shortened spelled spelled' _ (by omega)

/-- Addresses are read from exactly these texts. -/
theorem ofChars?_eq_some_iff : ofChars? cs = some ip ↔ Denotes cs ip := by
  constructor
  · intro found
    rw [ofChars?] at found
    split at found
    next a b c d rest octets =>
      obtain ⟨nothing, found⟩ := Option.ite_none_right_eq_some.1 found
      obtain ⟨rfl, -⟩ := octetsFront?_eq_some_iff.1 octets
      obtain rfl := Option.some.inj found
      rw [nothing, List.append_nil]
      exact .octets a b c d
    next => exact denotes_of_ofGroupedChars? found
  · intro denotes
    cases denotes with
    | octets a b c d =>
      have found : octetsFront? (octetsChars a b c d) = some ((a, b, c, d), []) :=
        octetsFront?_eq_some_iff.2 ⟨(List.append_nil _).symm, endsDigits_nil⟩
      rw [ofChars?, found]
      rfl
    | @full octets pieces gs spelled length =>
      have stops : Stops [] := .inl rfl
      have noOctets := octetsFront?_joined spelled (fun _ => by omega) stops
      have read := readGroups_joined spelled (Nat.le_of_eq length) true stops
      rw [List.append_nil] at noOctets read
      simp only [ofChars?, noOctets, ofGroupedChars?, read, if_pos length, if_true]
      exact ofGroups?_eq_some_iff.2 ⟨length, rfl⟩
    | @shortened octets front back high low head tail length short =>
      have stops : Stops (':' :: ':' :: joined true back) := .inr ⟨_, rfl⟩
      have noOctets :=
        octetsFront?_joined head (fun octets => absurd octets Bool.false_ne_true) stops
      have roomy : high.length ≤ 8 := by omega
      have roomy' : low.length ≤ 7 - high.length := by omega
      have readHead := readGroups_joined head roomy true stops
      have readTail := readGroups_joined tail roomy' true (.inl rfl)
      rw [List.append_nil] at readTail
      have few : high.length ≠ 8 := by omega
      have colon {rest : List Char} : after? ':' (':' :: rest) = some rest := rfl
      simp only [ofChars?, noOctets, ofGroupedChars?, readHead, if_neg few, colon,
        Option.bind_eq_bind, Option.bind_some, readTail, if_true]
      exact ofGroups?_eq_some_iff.2 ⟨length, rfl⟩

end IpAddress

end BoxOffice
