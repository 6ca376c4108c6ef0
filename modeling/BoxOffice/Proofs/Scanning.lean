import BoxOffice.Json.Token
import BoxOffice.Json.Value
import BoxOffice.Proofs.Digits
import Mathlib.Tactic.IntervalCases

/-!
Scanning of what was written. The text of a value is a row of tokens without space between them.
Strings and numbers are the only tokens whose ends have to be found: a string ends at the first
quote that is not escaped, and a number where the value does, as it is followed by a comma or a
closing bracket.
-/

namespace BoxOffice.Json

open Text

/-! ### Strings -/

/-- A unit below the surrogates is a character by itself. -/
theorem joinPieces_unit {n : Nat} (low : n < 0xD800) (pieces : List Piece) :
    joinPieces (.unit n :: pieces) = (joinPieces pieces).map (Char.ofNat n :: ·) := by
  have notHigh : ¬(0xD800 ≤ n ∧ n < 0xDC00) := by omega
  have notLow : ¬(0xDC00 ≤ n ∧ n < 0xE000) := by omega
  have notSurrogate : ¬(0xD800 ≤ n ∧ n < 0xE000) := by omega
  rcases pieces with _ | ⟨_ | _ | _, pieces⟩ <;>
    simp [joinPieces, notHigh, notLow, notSurrogate]

theorem unit?_padded {n : Nat} (small : n < 16 ^ 4) : ∃ a b c d, padded 16 4 n = [a, b, c, d] ∧
    unit? (some a) (some b) (some c) (some d) = some n := by
  have four : fixedDigits 16 4 n =
      [n / 16 / 16 / 16 % 16, n / 16 / 16 % 16, n / 16 % 16, n % 16] := rfl
  have value := ofDigits_fixedDigits_of_lt small
  have digit (m : Nat) : hexDigit? (digitChar (m % 16)) = some (m % 16) :=
    hexDigit?_digitChar (Nat.mod_lt m (by decide))
  rw [four] at value
  refine ⟨_, _, _, _, congrArg (List.map digitChar) four, ?_⟩
  simp [unit?, digit, value]

theorem stringFront_char {c : Char} (notQuote : c ≠ '"') (notBackslash : c ≠ '\\')
    (visible : ¬c.toNat < 0x20) (text : List Glyph) : stringFront (some c :: text) =
      (stringFront text).map fun (pieces, used) => (.char c :: pieces, used + 1) := by
  rw [stringFront]
  · rw [if_neg (by simp [visible, notBackslash])]
  · exact notQuote
  · exact fun _ _ _ _ _ _ same => notBackslash same
  · exact fun _ _ _ same => notBackslash same

theorem stringFront_escape (c : Char) {text : List Glyph} {pieces : List Piece} {used : Nat}
    (front : stringFront text = some (pieces, used)) :
    ∃ piece, stringFront ((Value.escape c).map some ++ text) =
        some (piece :: pieces, used + (Value.escape c).length) ∧
      ∀ joined, joinPieces pieces = some joined →
        joinPieces (piece :: pieces) = some (c :: joined) := by
  have plain (c : Char) (joined : List Char) (join : joinPieces pieces = some joined) :
      joinPieces (.char c :: pieces) = some (c :: joined) := by
    rw [joinPieces, join]
    rfl
  unfold Value.escape
  -- Only the last case may take a character for itself; all others have an escape of one letter.
  split
  case h_8 notQuote notBackslash _ _ _ _ _ =>
    by_cases control : c.toNat < 0x20
    · obtain ⟨w, x, y, z, digits, value⟩ := unit?_padded (Nat.lt_trans control (by decide))
      refine ⟨.unit c.toNat, ?_, fun joined join => ?_⟩
      · simp [control, digits, stringFront, value, front]
      · rw [joinPieces_unit (Nat.lt_trans control (by decide)), join, Option.map_some,
          Char.ofNat_toNat]
    · refine ⟨.char c, ?_, plain c⟩
      rw [if_neg control]
      exact (stringFront_char notQuote notBackslash control text).trans (by rw [front]; rfl)
  all_goals exact ⟨.char _, by simp [stringFront, unescape?, front], plain _⟩

/-- A string ends at its own quote, and its pieces make the characters that were escaped. -/
theorem stringFront_flatMap_escape (cs : List Char) (rest : List Glyph) :
    ∃ pieces, stringFront ((cs.flatMap Value.escape).map some ++ some '"' :: rest) =
        some (pieces, (cs.flatMap Value.escape).length + 1) ∧
      joinPieces pieces = some cs := by
  induction cs with
  | nil => exact ⟨[], by simp [stringFront], rfl⟩
  | cons c cs ih =>
    obtain ⟨pieces, front, joined⟩ := ih
    obtain ⟨piece, front, join⟩ := stringFront_escape c front
    refine ⟨piece :: pieces, ?_, join cs joined⟩
    rw [List.flatMap_cons, List.map_append, List.append_assoc, front, List.length_append,
      Nat.add_right_comm, Nat.add_comm (List.length _)]

/-! ### Tokens -/

theorem scanAfter_append (used rest : List Glyph) :
    scanAfter used.length (used ++ rest) = scan rest := by
  induction used with
  | nil => rfl
  | cons glyph used ih => exact ih

theorem scan_cons {c : Char} {rest : List Glyph} {token : Token} {used : Nat}
    (notSpace : isSpace c = false) (front : tokenFront c rest = (token, used))
    (good : token ≠ .bad) : scan (some c :: rest) = token :: scanAfter used rest := by
  rw [scan, scanAfter, notSpace, front]
  simp [good]

/-- The text of a string is one token. -/
theorem scan_stringChars (s : String) (rest : List Char) :
    scan ((Value.stringChars s ++ rest).map some) = .text (some s) :: scan (rest.map some) := by
  obtain ⟨pieces, front, joined⟩ := stringFront_flatMap_escape s.toList (rest.map some)
  have written : (Value.stringChars s ++ rest).map some =
      some '"' :: ((s.toList.flatMap Value.escape).map some ++ some '"' :: rest.map some) := by
    simp [Value.stringChars]
  have token :
      tokenFront '"' ((s.toList.flatMap Value.escape).map some ++ some '"' :: rest.map some) =
        (.text (some s), (s.toList.flatMap Value.escape).length + 1) := by
    rw [tokenFront, front]
    simp [joined]
  have after := scanAfter_append ((s.toList.flatMap Value.escape).map some ++ [some '"'])
    (rest.map some)
  rw [List.append_assoc, List.singleton_append, List.length_append, List.length_map] at after
  rw [written, scan_cons (by decide) token Token.noConfusion]
  exact congrArg _ after

@[simp] theorem scan_beginArray (text : List Glyph) :
    scan (some '[' :: text) = .beginArray :: scan text := rfl

@[simp] theorem scan_endArray (text : List Glyph) :
    scan (some ']' :: text) = .endArray :: scan text := rfl

@[simp] theorem scan_beginObject (text : List Glyph) :
    scan (some '\x7b' :: text) = .beginObject :: scan text := rfl

@[simp] theorem scan_endObject (text : List Glyph) :
    scan (some '\x7d' :: text) = .endObject :: scan text := rfl

@[simp] theorem scan_colon (text : List Glyph) :
    scan (some ':' :: text) = .colon :: scan text := rfl

@[simp] theorem scan_comma (text : List Glyph) :
    scan (some ',' :: text) = .comma :: scan text := rfl

/-! ### Numbers -/

inductive Delimited : List Char → Prop
  | nothing : Delimited []
  | comma (rest : List Char) : Delimited (',' :: rest)
  | bracket (rest : List Char) : Delimited (']' :: rest)
  | brace (rest : List Char) : Delimited ('\x7d' :: rest)

variable {rest : List Char}

theorem Delimited.endsDigits (delimited : Delimited rest) : EndsDigits rest := by
  cases delimited <;> rintro c ⟨⟩ <;> rfl

theorem Delimited.fractionFront_eq (delimited : Delimited rest) :
    fractionFront (rest.map some) = some ([], 0) := by
  cases delimited <;> rfl

theorem Delimited.exponentFront_eq (delimited : Delimited rest) :
    exponentFront (rest.map some) = some (none, 0) := by
  cases delimited <;> rfl

theorem digitsFront_map_some (cs : List Char) :
    digitsFront (cs.map some) = (spanDigits cs).1 := by
  induction cs with
  | nil => rfl
  | cons c cs ih =>
    rw [List.map_cons, digitsFront, spanDigits]
    cases digit? c with
    | none => rfl
    | some d => exact congrArg (d :: ·) ih

def Numeral.ofInt (i : Int) : Numeral := ⟨decide (i < 0), decimalDigits i.natAbs, [], none⟩

theorem numeralFront_decimal (negative : Bool) (n : Nat) (delimited : Delimited rest) :
    numeralFront negative ((decimal n ++ rest).map some) =
      some (⟨negative, decimalDigits n, [], none⟩, (decimal n).length) := by
  have digits : digitsFront ((decimal n ++ rest).map some) = decimalDigits n := by
    rw [digitsFront_map_some, decimal,
      spanDigits_append lt_of_mem_decimalDigits delimited.endsDigits]
  -- A number that starts with a zero and goes on would be refused.
  have noZero : ¬(decimalDigits n = [] ∨
      ((decimalDigits n).head? = some 0 ∧ 1 < (decimalDigits n).length)) := by
    rintro (none | ⟨zero, several⟩)
    · exact decimalDigits_ne_nil n none
    · rcases Nat.eq_zero_or_pos n with rfl | pos
      · simp [decimalDigits] at several
      · exact head?_decimalDigits pos zero
  have length : (decimalDigits n).length = (decimal n).length := (List.length_map digitChar).symm
  have behind : ((decimal n ++ rest).map some).drop (decimal n).length = rest.map some := by
    rw [List.map_append, List.drop_left' (List.length_map some)]
  rw [length] at noZero
  simp only [numeralFront, digits, length, behind, delimited.fractionFront_eq]
  rw [if_neg noZero]
  simp [delimited.exponentFront_eq]

theorem tokenFront_digitChar {d : Nat} (small : d < 10) (rest : List Glyph) :
    tokenFront (digitChar d) rest =
      match numeralFront false (some (digitChar d) :: rest) with
      | some (n, used) => (.number n, used - 1)
      | none => (.bad, 0) := by
  interval_cases d <;> rfl

theorem isSpace_digitChar {d : Nat} (small : d < 10) : isSpace (digitChar d) = false := by
  revert d
  decide

/-- The text of a whole number is one token. -/
theorem scan_signedDecimal (i : Int) (delimited : Delimited rest) :
    scan ((signedDecimal i ++ rest).map some) =
      .number (Numeral.ofInt i) :: scan (rest.map some) := by
  have after (front : List Char) :
      scanAfter front.length ((front ++ rest).map some) = scan (rest.map some) := by
    rw [List.map_append, ← List.length_map some, scanAfter_append]
  unfold signedDecimal
  split
  next negative =>
    have token : tokenFront '-' ((decimal i.natAbs ++ rest).map some) =
        (.number (Numeral.ofInt i), (decimal i.natAbs).length) := by
      rw [tokenFront, numeralFront_decimal true _ delimited, Numeral.ofInt, decide_eq_true negative]
    exact (scan_cons (by decide) token Token.noConfusion).trans (congrArg _ (after _))
  next nonneg =>
    have numeral := numeralFront_decimal false i.natAbs delimited
    obtain ⟨d, cs, small, written⟩ := exists_decimal_eq i.natAbs
    have notSpace := isSpace_digitChar small
    rw [written] at numeral ⊢
    have token : tokenFront (digitChar d) ((cs ++ rest).map some) =
        (.number (Numeral.ofInt i), cs.length) := by
      rw [tokenFront_digitChar small, ← List.map_cons, ← List.cons_append, numeral, Numeral.ofInt,
        decide_eq_false nonneg]
      rfl
    exact (scan_cons notSpace token Token.noConfusion).trans (congrArg _ (after _))

/-! ### Values -/

namespace Value

mutual

def tokens : Value → List Token
  | .null => [.null]
  | .bool b => [.bool b]
  | .number i => [.number (Numeral.ofInt i)]
  | .text s => [.text (some s)]
  | .array items => .beginArray :: itemTokens items ++ [.endArray]
  | .object members => .beginObject :: memberTokens members ++ [.endObject]

def itemTokens : List Value → List Token
  | [] => []
  | [v] => v.tokens
  | v :: w :: vs => v.tokens ++ .comma :: itemTokens (w :: vs)

def memberTokens : List (String × Value) → List Token
  | [] => []
  | [(key, v)] => .text (some key) :: .colon :: v.tokens
  | (key, v) :: m :: ms =>
    .text (some key) :: .colon :: v.tokens ++ .comma :: memberTokens (m :: ms)

end

mutual

theorem scan_toChars : (v : Value) → {rest : List Char} → Delimited rest →
    scan ((v.toChars ++ rest).map some) = v.tokens ++ scan (rest.map some)
  | .null, _, _ => rfl
  | .bool true, _, _ => rfl
  | .bool false, _, _ => rfl
  | .number i, _, delimited => scan_signedDecimal i delimited
  | .text s, rest, _ => scan_stringChars s rest
  | .array items, rest, _ => by
    have inner := scan_itemsChars items (.bracket rest)
    simpa [toChars, tokens] using inner
  | .object members, rest, _ => by
    have inner := scan_membersChars members (.brace rest)
    simpa [toChars, tokens] using inner

theorem scan_itemsChars : (items : List Value) → {rest : List Char} → Delimited rest →
    scan ((itemsChars items ++ rest).map some) = itemTokens items ++ scan (rest.map some)
  | [], _, _ => rfl
  | [v], _, delimited => scan_toChars v delimited
  | v :: w :: vs, rest, delimited => by
    have first := scan_toChars v (.comma (itemsChars (w :: vs) ++ rest))
    have others := scan_itemsChars (w :: vs) delimited
    simp only [List.map_append, List.map_cons, scan_comma] at first others
    simp only [itemsChars, itemTokens, List.map_append, List.map_cons, List.append_assoc,
      List.cons_append, first, others]

theorem scan_membersChars : (members : List (String × Value)) → {rest : List Char} →
    Delimited rest → scan ((membersChars members ++ rest).map some) =
      memberTokens members ++ scan (rest.map some)
  | [], _, _ => rfl
  | [(key, v)], rest, delimited => by
    have name := scan_stringChars key (':' :: (v.toChars ++ rest))
    have value := scan_toChars v delimited
    simp only [List.map_append, List.map_cons, scan_colon] at name value
    simp only [membersChars, memberTokens, List.map_append, List.map_cons, List.append_assoc,
      List.cons_append, name, value]
  | (key, v) :: m :: ms, rest, delimited => by
    have name := scan_stringChars key
      (':' :: (v.toChars ++ ',' :: (membersChars (m :: ms) ++ rest)))
    have value := scan_toChars v (.comma (membersChars (m :: ms) ++ rest))
    have others := scan_membersChars (m :: ms) delimited
    simp only [List.map_append, List.map_cons, scan_colon, scan_comma] at name value others
    simp only [membersChars, memberTokens, List.map_append, List.map_cons, List.append_assoc,
      List.cons_append, name, value, others]

end

end Value

end BoxOffice.Json
