import BoxOffice.Proofs.Forms
import BoxOffice.Proofs.Lookups
import BoxOffice.Proofs.Opening
import BoxOffice.Proofs.Requests
import BoxOffice.Proofs.Rereading

/-!
What a listing is answered. The filter of a store admits every class when it is empty, so it is left
to the reading of the query that nobody is shown the whole table: a list of identifiers that names
none, without an event, is refused, as is one with a text that can be read in no way. In all other
cases the classes that are asked for are listed, each of them once.
-/

namespace BoxOffice.Http.Listing

open Text (Blank Padded trimChars)

variable {l : Listing} {s : Store} {text : String} {texts : List String} {id : Uuid}

/-! ### The texts of a list -/

/-- The texts between the commas of the list of identifiers. There are none without a list. -/
def Cut (l : Listing) (texts : List String) : Prop :=
  match l.ids with
  | none => texts = []
  | some list => texts ≠ [] ∧ (∀ text ∈ texts, ',' ∉ text.toList) ∧
      String.intercalate "," texts = list

/-- The text is a form of an identifier, perhaps with blanks around it. -/
def Names (text : String) (id : Uuid) : Prop :=
  ∃ core, Padded core text.toList ∧ Uuid.Spells core id

/-- There is nothing in the text that counts, or it names an identifier. -/
def Readable (text : String) : Prop := Blank text.toList ∨ ∃ id, Names text id

def named? (text : String) : Option Uuid := Uuid.ofChars? (trimChars text.toList)

theorem named?_eq_some_iff : named? text = some id ↔ Names text id := by
  rw [named?, Uuid.ofChars?_eq_some_iff]
  exact (Text.exists_padded_iff fun core spells => Uuid.Spells.solid spells).symm

theorem named?_of_blank (blank : Blank text.toList) : named? text = none := by
  rw [named?, Text.trimChars_of_blank blank]
  rfl

theorem Names.not_blank (names : Names text id) : ¬Blank text.toList := fun blank => by
  have none := named?_of_blank blank
  rw [named?_eq_some_iff.2 names] at none
  cases none

theorem exists_cut (l : Listing) : ∃ texts, l.Cut texts := by
  unfold Cut
  cases l.ids with
  | none => exact ⟨[], rfl⟩
  | some list => exact Origins.exists_pieces list

theorem exists_names_of_mem {ids : List Uuid} (names : List.Forall₂ Names texts ids)
    (member : text ∈ texts) : ∃ id, Names text id := by
  induction names with
  | nil => cases member
  | cons first _ ih =>
    rcases List.mem_cons.1 member with rfl | inRest
    · exact ⟨_, first⟩
    · exact ih inRest

/-- Texts that name identifiers are found again when they are joined. -/
theorem cut_of_names {event : Option Uuid} {ids : List Uuid} (nonempty : texts ≠ [])
    (names : List.Forall₂ Names texts ids) :
    Cut ⟨event, some (String.intercalate "," texts)⟩ texts := by
  refine ⟨nonempty, fun text member => ?_, rfl⟩
  obtain ⟨_, core, ⟨front, back, blankFront, blankBack, eq⟩, spells⟩ :=
    exists_names_of_mem names member
  have comma : ∀ cs : List Char, Blank cs → ',' ∉ cs := fun cs blank member => by
    have isBlank := blank ',' member
    cases isBlank
  have inCore : ',' ∉ core := fun member => (spells.graphic ',' member).2.2 rfl
  simp [eq, comma front blankFront, comma back blankBack, inCore]

/-! ### Reading -/

def trimmed (texts : List String) : List (List Char) :=
  (texts.map fun text => trimChars text.toList).filter (· ≠ [])

theorem idPieces_of_cut (cut : l.Cut texts) : (l.ids.map idPieces).getD [] = trimmed texts := by
  unfold Cut at cut
  cases given : l.ids with
  | none =>
    rw [given] at cut
    rw [cut]
    rfl
  | some list =>
    rw [given] at cut
    obtain ⟨nonempty, whole, rfl⟩ := cut
    have pieces_eq : Text.pieces ',' (String.intercalate "," texts).toList =
        texts.map String.toList := by
      rw [String.toList_intercalate]
      exact Text.pieces_intercalate (by simpa using nonempty) (by simpa using whole)
    rw [Option.map_some, Option.getD_some, idPieces, pieces_eq, List.map_map]
    rfl

/-- Texts are read one after the other, blank ones passed over. -/
theorem readIds_trimmed_cons (text : String) (texts : List String) :
    readIds (trimmed (text :: texts)) =
      if trimChars text.toList = [] then readIds (trimmed texts)
      else
        match named? text with
        | some id => (readIds (trimmed texts)).map (id :: ·)
        | none => .error (.noTicketClassId (Text.trim text)) := by
  by_cases blank : trimChars text.toList = []
  · rw [if_pos blank, trimmed, List.map_cons, List.filter_cons_of_neg (by simp [blank])]
    rfl
  · rw [if_neg blank, trimmed, List.map_cons, List.filter_cons_of_pos (by simp [blank]), readIds]
    rfl

/-- Readable texts give the identifiers that they name. -/
theorem readIds_of_readable (readable : ∀ text ∈ texts, Readable text) :
    readIds (trimmed texts) = .ok (texts.filterMap named?) := by
  induction texts with
  | nil => rfl
  | cons text texts ih =>
    obtain ⟨first, others⟩ := List.forall_mem_cons.1 readable
    rw [readIds_trimmed_cons, ih others]
    rcases first with blank | ⟨id, names⟩
    · rw [if_pos (Text.trimChars_of_blank blank), List.filterMap_cons_none (named?_of_blank blank)]
    · have found := named?_eq_some_iff.2 names
      rw [if_neg (mt Text.trimChars_eq_nil_iff.1 names.not_blank), found,
        List.filterMap_cons_some found]
      rfl

/-- The first text that cannot be read is told. -/
theorem readIds_of_not_readable {before after : List String}
    (readable : ∀ text ∈ before, Readable text) (unreadable : ¬Readable text) :
    readIds (trimmed (before ++ text :: after)) = .error (.noTicketClassId (Text.trim text)) := by
  induction before with
  | nil =>
    have some : trimChars text.toList ≠ [] := fun none =>
      unreadable (.inl (Text.trimChars_eq_nil_iff.1 none))
    have none : named? text = none := Option.eq_none_iff_forall_ne_some.2 fun id found =>
      unreadable (.inr ⟨id, named?_eq_some_iff.1 found⟩)
    rw [List.nil_append, readIds_trimmed_cons, if_neg some, none]
  | cons first before ih =>
    obtain ⟨firstReadable, others⟩ := List.forall_mem_cons.1 readable
    rw [List.cons_append, readIds_trimmed_cons, ih others]
    split
    · rfl
    next some =>
      rcases firstReadable with blank | ⟨id, names⟩
      · exact absurd (Text.trimChars_of_blank blank) some
      · rw [named?_eq_some_iff.2 names]
        rfl

/-- Either all texts can be read, or there is a first one that cannot. -/
theorem readable_or_exists_first (texts : List String) :
    (∀ text ∈ texts, Readable text) ∨ ∃ before text after, texts = before ++ text :: after ∧
      (∀ text ∈ before, Readable text) ∧ ¬Readable text := by
  induction texts with
  | nil => exact .inl fun _ member => absurd member List.not_mem_nil
  | cons first texts ih =>
    by_cases readable : Readable first
    · rcases ih with all | ⟨before, text, after, rfl, others, unreadable⟩
      · exact .inl (List.forall_mem_cons.2 ⟨readable, all⟩)
      · exact .inr ⟨first :: before, text, after, rfl,
          List.forall_mem_cons.2 ⟨readable, others⟩, unreadable⟩
    · exact .inr ⟨[], first, texts, rfl, fun _ member => absurd member List.not_mem_nil, readable⟩

/-! ### Answers -/

/-- What the store answers to a listing, or why it is not asked. -/
def answer (l : Listing) (s : Store) : Except Refusal (List TicketClass) :=
  (l.filter.mapError .invalid).map s.list

def told : Except Refusal (List TicketClass) → Response
  | .ok rows =>
    .ofBody 200 (.json (envelope "Ticket classes retrieved"
      (Wire.writeAnswer (.ticketClasses rows))))
  | .error refusal => .ofFault refusal.fault

/-- The class is among those that are asked for: it is of the event, if one is given, and it is
named, if any identifier is. -/
structure Asks (l : Listing) (texts : List String) (c : TicketClass) : Prop where
  ofEvent : ∀ event ∈ l.event, c.event = event
  isNamed : (∃ text ∈ texts, ¬Blank text.toList) → ∃ text ∈ texts, Names text c.id

inductive Answers (l : Listing) (s : Store) (texts : List String) :
    Except Refusal (List TicketClass) → Prop
  | unreadable {before after : List String} {text : String}
    (split : texts = before ++ text :: after) (readable : ∀ text ∈ before, Readable text)
    (not : ¬Readable text) :
      Answers l s texts (.error (.invalid (.noTicketClassId (Text.trim text))))
  | unlimited (blank : ∀ text ∈ texts, Blank text.toList) (noEvent : l.event = none) :
      Answers l s texts (.error (.invalid .filterMissing))
  | listed {rows : List TicketClass} (readable : ∀ text ∈ texts, Readable text)
    (limited : l.event ≠ none ∨ ∃ text ∈ texts, ¬Blank text.toList)
    (rows_iff : ∀ c, c ∈ rows ↔ c ∈ s.ticketClasses.rows ∧ l.Asks texts c)
    (once : (rows.map (·.id)).Nodup) (inOrder : InOrderOfCreation TicketClass.createdAt rows) :
      Answers l s texts (.ok rows)

/-- No identifier is named when all texts are blank. -/
theorem filterMap_named?_eq_nil_iff (readable : ∀ text ∈ texts, Readable text) :
    texts.filterMap named? = [] ↔ ∀ text ∈ texts, Blank text.toList := by
  rw [List.filterMap_eq_nil_iff]
  refine forall₂_congr fun text member => ⟨fun none => ?_, named?_of_blank⟩
  rcases readable text member with blank | ⟨id, names⟩
  · exact blank
  · rw [named?_eq_some_iff.2 names] at none
    cases none

theorem mem_filterMap_named?_iff : id ∈ texts.filterMap named? ↔ ∃ text ∈ texts, Names text id := by
  simp only [List.mem_filterMap, named?_eq_some_iff]

theorem admits_iff {event : Option Uuid} {ids : List Uuid} {c : TicketClass} :
    (⟨event, ids⟩ : TicketClass.Filter).admits c = true ↔
      (∀ e ∈ event, c.event = e) ∧ (ids = [] ∨ c.id ∈ ids) := by
  have ofEvent : event.all (· = c.event) = true ↔ ∀ e ∈ event, c.event = e := by
    cases event <;> simp [eq_comm]
  rw [TicketClass.Filter.admits, Bool.and_eq_true, Bool.or_eq_true, List.isEmpty_iff,
    List.contains_iff_mem, ofEvent]

/-- The filter of a listing admits the classes that are asked for. -/
theorem admits_iff_asks (readable : ∀ text ∈ texts, Readable text) {c : TicketClass} :
    (⟨l.event, texts.filterMap named?⟩ : TicketClass.Filter).admits c = true ↔
      l.Asks texts c := by
  have some : (∃ text ∈ texts, ¬Blank text.toList) ↔ ¬∀ text ∈ texts, Blank text.toList := by
    simp
  rw [admits_iff, filterMap_named?_eq_nil_iff readable, mem_filterMap_named?_iff,
    or_iff_not_imp_left, ← some]
  exact ⟨fun both => ⟨both.1, both.2⟩, fun asks => ⟨asks.ofEvent, asks.isNamed⟩⟩

theorem answer_of_readable (cut : l.Cut texts) (readable : ∀ text ∈ texts, Readable text) :
    l.answer s =
      if l.event = none ∧ texts.filterMap named? = [] then .error (.invalid .filterMissing)
      else .ok (s.list ⟨l.event, texts.filterMap named?⟩) := by
  rw [answer, filter, idPieces_of_cut cut, readIds_of_readable readable]
  have unlimited : (l.event.isNone && (texts.filterMap named?).isEmpty) = true ↔
      l.event = none ∧ texts.filterMap named? = [] := by
    rw [Bool.and_eq_true, Option.isNone_iff_eq_none, List.isEmpty_iff]
  by_cases none : l.event = none ∧ texts.filterMap named? = []
  · rw [if_pos none]
    simp only [ok_bind, if_pos (unlimited.2 none)]
    rfl
  · rw [if_neg none]
    simp only [ok_bind, if_neg (mt unlimited.1 none)]
    rfl

theorem answers_of_cut (cut : l.Cut texts) : l.Answers s texts (l.answer s) := by
  rcases readable_or_exists_first texts with readable | ⟨before, text, after, rfl, readable, not⟩
  · rw [answer_of_readable cut readable]
    split
    next none =>
      exact .unlimited ((filterMap_named?_eq_nil_iff readable).1 none.2) none.1
    next some =>
      refine .listed readable ?_ (fun c => ?_) (s.nodup_ids_list _) (s.list_inOrder _)
      · rw [filterMap_named?_eq_nil_iff readable, not_and_or] at some
        simpa using some
      · rw [Store.mem_list_iff, admits_iff_asks readable]
  · rw [answer, filter, idPieces_of_cut cut, readIds_of_not_readable readable not]
    exact .unreadable rfl readable not

/-! ### Requests -/

/-- Texts that name identifiers select exactly the classes with these. -/
theorem answer_of_names {event : Option Uuid} {ids : List Uuid} (nonempty : texts ≠ [])
    (names : List.Forall₂ Names texts ids) :
    ∃ rows, answer ⟨event, some (String.intercalate "," texts)⟩ s = .ok rows ∧
      ∀ c, c ∈ rows ↔
        c ∈ s.ticketClasses.rows ∧ (∀ e ∈ event, c.event = e) ∧ c.id ∈ ids := by
  have found : texts.filterMap named? = ids := by
    clear nonempty
    induction names with
    | nil => rfl
    | cons first _ ih => rw [List.filterMap_cons_some (named?_eq_some_iff.2 first), ih]
  have readable : ∀ text ∈ texts, Readable text := fun _ member =>
    .inr (exists_names_of_mem names member)
  have someId : ids ≠ [] := by
    rintro rfl
    exact nonempty (List.forall₂_nil_right_iff.1 names)
  have cut : Cut ⟨event, some (String.intercalate "," texts)⟩ texts :=
    cut_of_names nonempty names
  have answered := answer_of_readable (s := s) cut readable
  rw [found, if_neg fun none => someId none.2] at answered
  refine ⟨_, answered, fun c => ?_⟩
  rw [Store.mem_list_iff, admits_iff, or_iff_right someId]

/-- A query that can be read is told what the store answers to it. -/
theorem run_list {d : Desk} {r : Request} (stored : d.store = some s)
    (query : ofQuery? r.query = some l) : (Plan.list r).run d = (told (l.answer s), d) := by
  rw [answer]
  cases given : l.filter with
  | error reason =>
    have plan : Plan.list r = .refuse reason := by simp only [Plan.list, query, given]
    rw [plan]
    rfl
  | ok f =>
    have plan : Plan.list r = .ask (.list f) 200 "Ticket classes retrieved" id := by
      simp only [Plan.list, query, given]
    have looked : (Operation.list f).run d = (.ok (.ticketClasses (s.list f)), d) := by
      rw [Operation.run, Desk.list, Desk.look, Desk.reach, stored]
      rfl
    simp only [plan, Plan.run, looked]
    rfl

/-- Classes that are listed are told by data that are read as these classes. -/
theorem exists_carries_of_told (rows : List TicketClass) :
    ∃ v, (told (.ok rows)).body = .json (success "Ticket classes retrieved" v) ∧
      Wire.Carries v (.ticketClasses rows) :=
  ⟨_, rfl, Wire.carries_writeAnswer _⟩

/-! ### What is asked is answered -/

/-- A listing with the given texts between its commas is answered exactly: what is read, what is
refused, and which classes are listed otherwise. -/
structure Exact (l : Listing) (s : Store) (texts : List String) : Prop where
  reads_iff : (∃ ids, readIds ((l.ids.map idPieces).getD []) = .ok ids) ↔
    ∀ text ∈ texts, Readable text
  refused_iff : (∃ reason, l.answer s = .error (.invalid reason)) ↔
    (∃ text ∈ texts, ¬Readable text) ∨ l.event = none ∧ ∀ text ∈ texts, Blank text.toList
  answers : l.Answers s texts (l.answer s)

theorem Answers.refused_iff {answer : Except Refusal (List TicketClass)}
    (answers : l.Answers s texts answer) :
    (∃ reason, answer = .error (.invalid reason)) ↔
      (∃ text ∈ texts, ¬Readable text) ∨ l.event = none ∧ ∀ text ∈ texts, Blank text.toList := by
  cases answers with
  | @unreadable before after text split _ not =>
    exact ⟨fun _ => .inl ⟨text, by simp [split], not⟩, fun _ => ⟨_, rfl⟩⟩
  | unlimited blank noEvent => exact ⟨fun _ => .inr ⟨noEvent, blank⟩, fun _ => ⟨_, rfl⟩⟩
  | listed readable limited =>
    refine ⟨fun ⟨_, refused⟩ => (nomatch refused), ?_⟩
    rintro (⟨text, member, not⟩ | ⟨noEvent, blank⟩)
    · exact absurd (readable text member) not
    · rcases limited with event | ⟨text, member, some⟩
      · exact absurd noEvent event
      · exact absurd (blank text member) some

theorem exact_of_cut (cut : l.Cut texts) : l.Exact s texts where
  reads_iff := by
    rw [idPieces_of_cut cut]
    rcases readable_or_exists_first texts with readable | ⟨before, text, after, rfl, readable, not⟩
    · exact ⟨fun _ => readable, fun _ => ⟨_, readIds_of_readable readable⟩⟩
    · rw [readIds_of_not_readable readable not]
      exact ⟨fun ⟨_, read⟩ => (nomatch read), fun all => absurd (all text (by simp)) not⟩
  refused_iff := (answers_of_cut cut).refused_iff
  answers := answers_of_cut cut

/-- A listing is answered exactly what it asks for, and so is each request for one: what is between
the commas is read or refused, and no listing without a limit is answered. Identifiers that are
written in any of their forms and joined select the classes with these, and the data of a response
are read as the classes that are listed. -/
theorem listings_exact (l : Listing) (s : Store) :
    (∃ texts, l.Cut texts) ∧ (∀ texts, l.Cut texts → l.Exact s texts) ∧
      (∀ (event : Option Uuid) (texts : List String) (ids : List Uuid), texts ≠ [] →
        List.Forall₂ Names texts ids →
          ∃ rows, answer ⟨event, some (String.intercalate "," texts)⟩ s = .ok rows ∧
            ∀ c, c ∈ rows ↔
              c ∈ s.ticketClasses.rows ∧ (∀ e ∈ event, c.event = e) ∧ c.id ∈ ids) ∧
      ∀ (d : Desk) (r : Request), d.store = some s → r.Gets → r.path = "/ticket-classes".toList →
        (ofQuery? r.query = some l → (Plan.ofRequest r).run d = (told (l.answer s), d) ∧
          ∀ rows, l.answer s = .ok rows →
            ∃ v, ((Plan.ofRequest r).run d).1.body =
                .json (success "Ticket classes retrieved" v) ∧
              Wire.Carries v (.ticketClasses rows)) ∧
        (ofQuery? r.query = none →
          (Plan.ofRequest r).run d =
            (.ofFault (.validation "Failed to deserialize query string"), d)) := by
  refine ⟨l.exists_cut, fun texts cut => exact_of_cut cut,
    fun event texts ids nonempty names => answer_of_names nonempty names,
    fun d r stored gets path => ?_⟩
  have plan : Plan.ofRequest r = Plan.list r :=
    Plan.ofRequest_of_route gets.ofName?_eq path .ticketClasses
  rw [plan]
  constructor
  · intro query
    refine ⟨run_list stored query, fun rows listed => ?_⟩
    rw [run_list stored query, listed]
    exact exists_carries_of_told rows
  · intro unread
    simp only [Plan.list, unread, Plan.run]

end BoxOffice.Http.Listing

namespace BoxOffice

/-- A client asks for one class twice, in two forms and with blanks around them. -/
def Concert.twice : Http.Request where
  method := "GET"
  target :=
    "/ticket-classes?ids=+00000000-0000-4000-8000-000000000001,00000000000040008000000000000001+"
  headers := []
  body := []

namespace Http.Listing

/-- The class is listed. -/
theorem listings_exact_concert :
    ∃ s rows v, Concert.pending.store = some s ∧
      (∀ c, c ∈ rows ↔ c ∈ s.ticketClasses.rows ∧ c.id = IdSupply.numbered 0) ∧
      (Plan.ofRequest Concert.twice).run Concert.pending = (told (.ok rows), Concert.pending) ∧
      ((Plan.ofRequest Concert.twice).run Concert.pending).1.body =
        .json (success "Ticket classes retrieved" v) ∧
      Wire.Carries v (.ticketClasses rows) := by
  obtain ⟨s, stored⟩ : ∃ s, Concert.pending.store = some s := ⟨_, rfl⟩
  let texts := [" 00000000-0000-4000-8000-000000000001", "00000000000040008000000000000001 "]
  obtain ⟨-, -, joined, requests⟩ := listings_exact ⟨none, some (String.intercalate "," texts)⟩ s
  have names : List.Forall₂ Names texts [IdSupply.numbered 0, IdSupply.numbered 0] :=
    .cons (named?_eq_some_iff.1 rfl) (.cons (named?_eq_some_iff.1 rfl) .nil)
  obtain ⟨rows, listed, rows_iff⟩ := joined none texts _ (by simp [texts]) names
  obtain ⟨run, tells⟩ := (requests Concert.pending Concert.twice stored (.inl rfl) rfl).1 rfl
  obtain ⟨v, body, carries⟩ := tells rows listed
  rw [listed] at run
  exact ⟨s, rows, v, stored, fun c => (rows_iff c).trans (by simp), run, body, carries⟩

end Http.Listing

end BoxOffice
