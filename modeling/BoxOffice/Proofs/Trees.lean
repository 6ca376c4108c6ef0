import BoxOffice.Json.Doc
import BoxOffice.Proofs.Scanning

/-!
Trees of what was written. The machine that builds trees needs no more than the tokens of a value to
have its tree, whatever is open around it: it comes out with the tree of the value put where it
belongs. So the text of a value is read as the tree of the value, with nothing behind it.
-/

namespace BoxOffice.Json

namespace Value

mutual

def doc : Value → Doc
  | .null => .null
  | .bool b => .bool b
  | .number i => .number (Numeral.ofInt i)
  | .text s => .text (some s)
  | .array items => .array (itemDocs items)
  | .object members => .object (memberDocs members)

def itemDocs : List Value → List Doc
  | [] => []
  | v :: vs => v.doc :: itemDocs vs

def memberDocs : List (String × Value) → List (Option String × Doc)
  | [] => []
  | (key, v) :: ms => (some key, v.doc) :: memberDocs ms

end

theorem itemDocs_eq_map (items : List Value) : itemDocs items = items.map doc := by
  induction items with
  | nil => rfl
  | cons v vs ih => rw [itemDocs, ih, List.map_cons]

/-- No value starts like the end of an array. -/
theorem exists_tokens_eq (v : Value) : ∃ token rest, v.tokens = token :: rest ∧
    token ≠ .endArray := by
  cases v <;> exact ⟨_, _, rfl, Token.noConfusion⟩

theorem exists_itemTokens_eq {items : List Value} (nonempty : items ≠ []) : ∃ token rest,
    itemTokens items = token :: rest ∧ token ≠ .endArray := by
  obtain ⟨v, vs, rfl⟩ := List.exists_cons_of_ne_nil nonempty
  obtain ⟨token, rest, eq, starts⟩ := v.exists_tokens_eq
  cases vs with
  | nil => exact ⟨token, rest, eq, starts⟩
  | cons w vs => exact ⟨token, _, by rw [itemTokens, eq, List.cons_append], starts⟩

end Value

namespace Doc

/-- The machine after a value is complete: it is put into what is open. -/
def resume (frames : List Frame) (d : Doc) (tokens : List Token) : Doc × List Token :=
  match frames with
  | [] => (d, tokens)
  | frame :: frames => build (frame.push d :: frames) .separator tokens

variable {frames frames' : List Frame} {awaited awaited' : Awaited} {token : Token} {d : Doc}

theorem build_of_goOn (moves : move awaited frames token = .goOn frames' awaited')
    (tokens : List Token) :
    build frames awaited (token :: tokens) = build frames' awaited' tokens := by
  rw [build, moves]

theorem build_of_complete (moves : move awaited frames token = .complete d frames')
    (tokens : List Token) :
    build frames awaited (token :: tokens) = resume frames' d tokens := by
  rw [build, moves]
  cases frames' <;> rfl

theorem build_firstItem {frame : Frame} (starts : token ≠ .endArray) (tokens : List Token) :
    build (frame :: frames) .firstItem (token :: tokens) =
      build (frame :: frames) .value (token :: tokens) := by
  rw [build, build, move, move, if_neg starts]

theorem build_firstKey (s : Option String) (tokens : List Token) :
    build (.object [] none :: frames) .firstKey (.text s :: tokens) =
      build (.object [] none :: frames) .key (.text s :: tokens) := rfl

theorem build_key (members : List (Option String × Doc)) (key s : Option String)
    (tokens : List Token) :
    build (.object members key :: frames) .key (.text s :: .colon :: tokens) =
      build (.object members s :: frames) .value tokens := rfl

theorem resume_item (ds : List Doc) (tokens : List Token) :
    resume (.array ds :: frames) d (.comma :: tokens) =
      build (.array (d :: ds) :: frames) .value tokens := rfl

theorem resume_lastItem (ds : List Doc) (tokens : List Token) :
    resume (.array ds :: frames) d (.endArray :: tokens) =
      resume frames (.array (ds.reverse ++ [d])) tokens := by
  rw [← List.reverse_cons]
  exact build_of_complete rfl tokens

theorem resume_member (ds : List (Option String × Doc)) (key : Option String)
    (tokens : List Token) :
    resume (.object ds key :: frames) d (.comma :: tokens) =
      build (.object ((key, d) :: ds) none :: frames) .key tokens := rfl

theorem resume_lastMember (ds : List (Option String × Doc)) (key : Option String)
    (tokens : List Token) :
    resume (.object ds key :: frames) d (.endObject :: tokens) =
      resume frames (.object (ds.reverse ++ [(key, d)])) tokens := by
  rw [← List.reverse_cons]
  exact build_of_complete rfl tokens

open Value

mutual

theorem build_tokens : (v : Value) → (frames : List Frame) → (rest : List Token) →
    build frames .value (v.tokens ++ rest) = resume frames v.doc rest
  | .null, _, rest | .bool _, _, rest | .number _, _, rest | .text _, _, rest =>
    build_of_complete rfl rest
  | .array [], _, rest => build_of_complete rfl rest
  | .array (v :: vs), frames, rest => by
    obtain ⟨token, tokens, eq, starts⟩ := exists_itemTokens_eq (List.cons_ne_nil v vs)
    -- The machine knows from the first token that the array is not empty.
    have items := build_itemTokens (v :: vs) (List.cons_ne_nil v vs) [] frames rest
    rw [eq, List.cons_append, ← build_firstItem starts, ← List.cons_append, ← eq] at items
    rw [Value.tokens, List.append_assoc]
    exact (build_of_goOn rfl _).trans items
  | .object [], _, rest => build_of_complete rfl rest
  | .object (m :: ms), frames, rest => by
    have members := build_memberTokens (m :: ms) (List.cons_ne_nil m ms) [] none frames rest
    rw [Value.tokens, List.append_assoc]
    refine (build_of_goOn rfl _).trans (Eq.trans ?_ members)
    cases ms <;> exact build_firstKey _ _

theorem build_itemTokens : (items : List Value) → items ≠ [] → (ds : List Doc) →
    (frames : List Frame) → (rest : List Token) →
    build (.array ds :: frames) .value (itemTokens items ++ .endArray :: rest) =
      resume frames (.array (ds.reverse ++ itemDocs items)) rest
  | [], nonempty, _, _, _ => absurd rfl nonempty
  | [v], _, ds, frames, rest =>
    (build_tokens v (.array ds :: frames) (.endArray :: rest)).trans (resume_lastItem ds rest)
  | v :: w :: vs, _, ds, frames, rest => by
    have others := build_itemTokens (w :: vs) (List.cons_ne_nil w vs) (v.doc :: ds) frames rest
    rw [itemTokens, List.append_assoc, List.cons_append, build_tokens, resume_item, others,
      List.reverse_cons, List.append_assoc]
    rfl

theorem build_memberTokens : (members : List (String × Value)) → members ≠ [] →
    (ds : List (Option String × Doc)) → (key : Option String) → (frames : List Frame) →
    (rest : List Token) →
    build (.object ds key :: frames) .key (memberTokens members ++ .endObject :: rest) =
      resume frames (.object (ds.reverse ++ memberDocs members)) rest
  | [], nonempty, _, _, _, _ => absurd rfl nonempty
  | [(name, v)], _, ds, key, frames, rest => by
    rw [memberTokens, List.cons_append, List.cons_append, build_key, build_tokens,
      resume_lastMember]
    rfl
  | (name, v) :: m :: ms, _, ds, key, frames, rest => by
    have others := build_memberTokens (m :: ms) (List.cons_ne_nil m ms)
      ((some name, v.doc) :: ds) none frames rest
    rw [memberTokens, List.append_assoc, List.cons_append, List.cons_append, build_key,
      List.cons_append, build_tokens, resume_member, others, List.reverse_cons, List.append_assoc]
    rfl

end

/-- The text of a value is read as its tree, and to the end. -/
theorem ofTokens_scan (v : Value) : ofTokens (scan (v.toChars.map some)) = (v.doc, []) := by
  have tokens := v.scan_toChars .nothing
  rw [List.append_nil] at tokens
  rw [tokens, ofTokens, build_tokens]
  rfl

end Doc

end BoxOffice.Json
