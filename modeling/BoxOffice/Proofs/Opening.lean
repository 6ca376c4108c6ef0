import BoxOffice.Proofs.Addresses
import BoxOffice.Proofs.Runs
import BoxOffice.Settings
import Mathlib.Logic.Function.Basic

/-!
Opening with settings. Settings are accepted without a look at the origins that they list: the list
is only cut at its commas when the site is opened, and each piece is taken or passed over by itself.
There is one piece that is neither: an asterisk cannot stand among origins, and with it there is no
site.
-/

namespace BoxOffice

namespace Http.Origins

/-- The origin that a piece of a list stands for, unless it is blank or cannot stand in a header. -/
def usable? (piece : String) : Option String :=
  let entry := Text.trimChars piece.toList
  if entry ≠ [] ∧ isHeaderText entry = true then some (String.ofList entry) else none

/-- A list without the commas between its pieces. -/
theorem exists_pieces (list : String) :
    ∃ texts : List String, texts ≠ [] ∧ (∀ text ∈ texts, ',' ∉ text.toList) ∧
      String.intercalate "," texts = list := by
  refine ⟨(Text.pieces ',' list.toList).map String.ofList, ?_, ?_, ?_⟩
  · simpa using Text.pieces_ne_nil ',' list.toList
  · intro text member
    obtain ⟨piece, inList, rfl⟩ := List.mem_map.1 member
    rw [String.toList_ofList]
    exact Text.notMem_of_mem_pieces inList
  · rw [← String.toList_inj, String.toList_intercalate, List.map_map]
    simpa [Function.comp_def] using Text.intercalate_pieces ',' list.toList

/-- Every piece of a list is taken or passed over by itself. -/
theorem entries_intercalate {texts : List String} (nonempty : texts ≠ [])
    (whole : ∀ text ∈ texts, ',' ∉ text.toList) :
    entries (String.intercalate "," texts) = texts.filterMap usable? := by
  have pieces_eq : Text.pieces ',' (String.intercalate "," texts).toList =
      texts.map String.toList := by
    rw [String.toList_intercalate]
    exact Text.pieces_intercalate (by simpa using nonempty) (by simpa using whole)
  rw [entries, pieces_eq]
  clear nonempty whole pieces_eq
  induction texts with
  | nil => rfl
  | cons text texts ih =>
    let entry := Text.trimChars text.toList
    by_cases usable : entry ≠ [] ∧ isHeaderText entry = true
    · have taken : usable? text = some (String.ofList entry) := if_pos usable
      have kept : (entry ≠ [] && isHeaderText entry) = true := by simpa using usable
      rw [List.filterMap_cons_some taken, ← ih, List.map_cons, List.map_cons, List.filter_cons,
        if_pos kept, List.map_cons]
    · have passed : usable? text = none := if_neg usable
      have dropped : ¬(entry ≠ [] && isHeaderText entry) = true := by simpa using usable
      rw [List.filterMap_cons_none passed, ← ih, List.map_cons, List.map_cons, List.filter_cons,
        if_neg dropped]

/-- The one piece that is not an origin though it can stand in a header. -/
theorem asterisk_mem_filterMap_iff {texts : List String} :
    "*" ∈ texts.filterMap usable? ↔ ∃ text ∈ texts, Text.trim text = "*" := by
  rw [List.mem_filterMap]
  refine exists_congr fun text => and_congr_right fun _ => ?_
  constructor
  · intro taken
    simp only [usable?] at taken
    split at taken
    · exact Option.some.inj taken
    · cases taken
  · intro asterisk
    have entry_eq : Text.trimChars text.toList = ['*'] := by
      rw [← String.toList_ofList (l := Text.trimChars text.toList)]
      exact congrArg String.toList asterisk
    simp only [usable?, entry_eq]
    rfl

/-- A list is refused for an asterisk only. -/
theorem ofList?_eq (list : String) :
    ofList? list =
      if "*" ∈ entries list then none
      else some (if entries list = [] then .any else .only (entries list)) := by
  unfold ofList?
  cases entries list with
  | nil => rfl
  | cons entry rest =>
    simp only [List.contains_iff_mem, reduceCtorEq, if_false]

end Http.Origins

namespace Settings

open Http

variable {lookup : String → Option String} {s : Settings}

theorem given_update_of_ne {key : String} (other : key ≠ "CORS_ALLOWED_ORIGINS")
    (value : Option String) :
    given (Function.update lookup "CORS_ALLOWED_ORIGINS" value) key = given lookup key := by
  rw [given, given, Function.update_of_ne other]

theorem given_update_self (value : Option String) :
    given (Function.update lookup "CORS_ALLOWED_ORIGINS" value) "CORS_ALLOWED_ORIGINS" =
      value.filter fun text => Text.trim text ≠ "" := by
  rw [given, Function.update_self]

theorem readGiven_update_of_ne {α : Type} {key : String} (other : key ≠ "CORS_ALLOWED_ORIGINS")
    (value : Option String) (default : α) (parse : List Char → Except Reason α) :
    readGiven (Function.update lookup "CORS_ALLOWED_ORIGINS" value) key default parse =
      readGiven lookup key default parse := by
  rw [readGiven, readGiven, given_update_of_ne other]

def listing (s : Settings) (value : Option String) : Settings :=
  { s with allowedOrigins := value.filter fun text => Text.trim text ≠ "" }

theorem read_update (lookup : String → Option String) (value : Option String) :
    read (Function.update lookup "CORS_ALLOWED_ORIGINS" value) =
      (·.listing value) <$> read lookup := by
  simp (disch := decide) only [read, readFormat, readNat, given_update_of_ne, given_update_self,
    readGiven_update_of_ne, map_bind, map_pure]
  rfl

/-- What is listed is no reason to refuse settings, and nothing but the list depends on it. -/
theorem ofLookup_update (lookup : String → Option String) (value : Option String) :
    ofLookup (Function.update lookup "CORS_ALLOWED_ORIGINS" value) =
      (·.listing value) <$> ofLookup lookup := by
  -- The list is not looked at when the settings are checked.
  have checked (s : Settings) : (s.listing value).check = s.check := rfl
  simp only [ofLookup, read_update, bind_map_left, checked, map_bind, map_pure]

theorem allowedOrigins_of_ofLookup (accepted : ofLookup lookup = .ok s) :
    s.allowedOrigins = given lookup "CORS_ALLOWED_ORIGINS" := by
  have same := ofLookup_update lookup (lookup "CORS_ALLOWED_ORIGINS")
  rw [Function.update_eq_self, accepted] at same
  exact congrArg allowedOrigins (Except.ok.inj same)

/-- What comes of the origins that settings list, piece by piece: there is a site unless one of the
pieces is an asterisk, and it admits the origins that the others stand for, or every origin if none
of them stands for one. -/
structure OpensBy (s : Settings) (texts : List String) : Prop where
  whole : ∀ text ∈ texts, ',' ∉ text.toList
  joined : String.intercalate "," texts = s.allowedOrigins.getD Origins.localList
  opens_iff : s.site?.isSome = true ↔ ∀ text ∈ texts, Text.trim text ≠ "*"
  admits : ∀ site, s.site? = some site →
    site = ⟨s.production,
      if texts.filterMap Origins.usable? = [] then .any
      else .only (texts.filterMap Origins.usable?)⟩

/-- Whatever settings are given, there is one way in which their origins are read. -/
theorem exists_opensBy (s : Settings) : ∃ texts, s.OpensBy texts := by
  obtain ⟨texts, nonempty, whole, joined⟩ :=
    Origins.exists_pieces (s.allowedOrigins.getD Origins.localList)
  have entries_eq := Origins.entries_intercalate nonempty whole
  have site_eq : s.site? =
      (Origins.ofList? (s.allowedOrigins.getD Origins.localList)).map (⟨s.production, ·⟩) := rfl
  rw [← joined, Origins.ofList?_eq, entries_eq] at site_eq
  have asterisk_iff : "*" ∈ texts.filterMap Origins.usable? ↔
      ∃ text ∈ texts, Text.trim text = "*" := Origins.asterisk_mem_filterMap_iff
  by_cases asterisk : "*" ∈ texts.filterMap Origins.usable?
  · rw [if_pos asterisk] at site_eq
    obtain ⟨text, member, same⟩ := asterisk_iff.1 asterisk
    refine ⟨texts, whole, joined, ?_, fun site opened => ?_⟩
    · rw [site_eq]
      exact ⟨fun opened => (nomatch opened), fun none => absurd same (none text member)⟩
    · cases site_eq.symm.trans opened
  · rw [if_neg asterisk] at site_eq
    refine ⟨texts, whole, joined, ?_, fun site opened => ?_⟩
    · rw [site_eq]
      exact ⟨fun _ text member same => asterisk (asterisk_iff.2 ⟨text, member, same⟩),
        fun _ => rfl⟩
    · exact (Option.some.inj (site_eq.symm.trans opened)).symm

/-- Settings that are accepted can be opened unless an asterisk is among their origins. All other
pieces of the list that cannot be used are passed over one by one, and no list is a reason to refuse
the settings. -/
theorem opens_unless_asterisk (accepted : ofLookup lookup = .ok s) :
    s.allowedOrigins = given lookup "CORS_ALLOWED_ORIGINS" ∧ (∃ texts, s.OpensBy texts) ∧
      ∀ value, ofLookup (Function.update lookup "CORS_ALLOWED_ORIGINS" value) =
        .ok (s.listing value) := by
  refine ⟨allowedOrigins_of_ofLookup accepted, s.exists_opensBy, fun value => ?_⟩
  rw [ofLookup_update, accepted]
  rfl

end Settings

def Concert.origins (list : String) (key : String) : Option String :=
  if key = "CORS_ALLOWED_ORIGINS" then some list else none

namespace Settings

/-- Of three pieces one is blank and one cannot stand in a header. The site admits the third. -/
theorem opens_unless_asterisk_concert :
    ∃ s, ofLookup (Concert.origins " https://tickets.example.com , ,bad\norigin") = .ok s ∧
      s.site? = some ⟨false, .only ["https://tickets.example.com"]⟩ ∧
      (∃ texts, s.OpensBy texts) ∧
      ∀ value, ofLookup (Function.update
        (Concert.origins " https://tickets.example.com , ,bad\norigin") "CORS_ALLOWED_ORIGINS"
          value) = .ok (s.listing value) := by
  obtain ⟨s, accepted, built⟩ : ∃ s,
      ofLookup (Concert.origins " https://tickets.example.com , ,bad\norigin") = .ok s ∧
        s.site? = some ⟨false, .only ["https://tickets.example.com"]⟩ := ⟨_, rfl, rfl⟩
  obtain ⟨-, opens, listed⟩ := opens_unless_asterisk accepted
  exact ⟨s, accepted, built, opens, listed⟩

/-- Settings with an asterisk for the origins are accepted, and there is no site with them. -/
theorem asterisk_not_opened :
    ∃ s, ofLookup (Concert.origins "*") = .ok s ∧ s.site? = none := ⟨_, rfl, rfl⟩

end Settings

end BoxOffice
