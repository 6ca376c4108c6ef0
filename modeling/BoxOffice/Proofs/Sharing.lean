import BoxOffice.Proofs.Opening
import BoxOffice.Proofs.Securing

/-!
Sharing responses with other origins. A browser lets a page of another origin read a response if a
header of the response admits the origin. The header is there for exactly the origins that are
listed and names the one that asks; only where nothing that is listed can stand in a header, it
admits every origin. Hence a piece of the list that cannot be used makes no difference, wherever it
stands.
-/

namespace BoxOffice.Http

/-! ### What may stand in a header -/

/-- A byte that may stand in the value of a header: a tab, or none of the control characters. -/
def HeaderByte (b : UInt8) : Prop := b = 9 ∨ 0x20 ≤ b ∧ b ≠ 0x7F

theorem headerByte_iff {b : UInt8} :
    HeaderByte b ↔ b.toNat = 9 ∨ 0x20 ≤ b.toNat ∧ b.toNat ≠ 0x7F := by
  rw [HeaderByte, ← UInt8.toNat_inj, UInt8.le_iff_toNat_le, ne_eq, ← UInt8.toNat_inj]
  rfl

/-- Only characters of a single byte can be refused: the bytes of all others are past those of the
control characters. -/
theorem forall_headerByte_iff {c : Char} : (∀ b ∈ String.utf8EncodeChar c, HeaderByte b) ↔
    c = '\t' ∨ 0x20 ≤ c.toNat ∧ c.toNat ≠ 0x7F := by
  have tab_iff : c = '\t' ↔ c.toNat = 9 := Char.toNat_inj.symm
  have val_eq : c.val.toNat = c.toNat := rfl
  simp only [String.utf8EncodeChar, headerByte_iff, tab_iff, val_eq]
  -- One case for each length of what encodes a character.
  split
  next => simp; omega
  next =>
    split
    next => simp; omega
    next =>
      split
      next => simp; omega
      next => simp; omega

namespace Origins

theorem isHeaderText_iff {cs : List Char} :
    isHeaderText cs = true ↔ ∀ b ∈ Text.encodeUtf8 cs, HeaderByte b := by
  rw [isHeaderText, List.all_eq_true, Text.encodeUtf8, List.forall_mem_flatMap]
  refine forall₂_congr fun c _ => ?_
  rw [forall_headerByte_iff]
  simp

/-! ### Listed origins -/

structure Cut (list : String) (texts : List String) : Prop where
  nonempty : texts ≠ []
  whole : ∀ text ∈ texts, ',' ∉ text.toList
  joined : String.intercalate "," texts = list

/-- What a text stands for is left of it without the blanks around it. It is not empty, and it can
stand in a header. -/
structure StandsFor (text origin : String) : Prop where
  trimmed : Text.trim text = origin
  nonempty : origin ≠ ""
  fits : ∀ b ∈ Text.encodeUtf8 origin.toList, HeaderByte b

def Listed (texts : List String) (origin : String) : Prop := ∃ text ∈ texts, StandsFor text origin

/-- The origins that the texts of a list come to. -/
def ofTexts (texts : List String) : Origins :=
  if texts.filterMap usable? = [] then .any else .only (texts.filterMap usable?)

variable {list origin : String} {texts others : List String} {sent : Option String}

theorem exists_cut (list : String) : ∃ texts, Cut list texts := by
  obtain ⟨texts, nonempty, whole, joined⟩ := exists_pieces list
  exact ⟨texts, nonempty, whole, joined⟩

theorem usable?_eq_some_iff {text : String} :
    usable? text = some origin ↔ StandsFor text origin := by
  constructor
  · intro found
    simp only [usable?] at found
    split at found
    next usable =>
      obtain ⟨nonempty, fits⟩ := usable
      cases found
      refine ⟨rfl, mt String.ofList_eq_empty_iff.1 nonempty, ?_⟩
      rwa [String.toList_ofList, ← isHeaderText_iff]
    next => cases found
  · rintro ⟨rfl, nonempty, fits⟩
    rw [Text.trim, String.toList_ofList, ← isHeaderText_iff] at fits
    exact if_pos ⟨mt String.ofList_eq_empty_iff.2 nonempty, fits⟩

theorem mem_filterMap_usable?_iff : origin ∈ texts.filterMap usable? ↔ Listed texts origin := by
  simp only [List.mem_filterMap, usable?_eq_some_iff, Listed]

theorem filterMap_usable?_eq_nil_iff :
    texts.filterMap usable? = [] ↔ ∀ origin, ¬Listed texts origin := by
  simp only [List.eq_nil_iff_forall_not_mem, mem_filterMap_usable?_iff]

theorem listed_asterisk_iff : Listed texts "*" ↔ ∃ text ∈ texts, Text.trim text = "*" := by
  rw [← mem_filterMap_usable?_iff, asterisk_mem_filterMap_iff]

/-- Without an asterisk a list is read text by text. -/
theorem ofList?_of_cut (cut : Cut list texts) (noAsterisk : ¬Listed texts "*") :
    ofList? list = some (ofTexts texts) := by
  have entries_eq : entries list = texts.filterMap usable? := by
    rw [← cut.joined, entries_intercalate cut.nonempty cut.whole]
  rw [ofList?_eq, entries_eq, if_neg (mt mem_filterMap_usable?_iff.1 noAsterisk), ofTexts]

theorem grant_of_listed (listed : Listed texts origin) :
    (ofTexts texts).grant (some origin) = [("access-control-allow-origin", origin)] := by
  have member := mem_filterMap_usable?_iff.2 listed
  rw [ofTexts, if_neg (List.ne_nil_of_mem member), grant, if_pos (List.contains_iff_mem.2 member)]

theorem grant_of_not_listed (some : ∃ origin, Listed texts origin)
    (not : ∀ origin ∈ sent, ¬Listed texts origin) : (ofTexts texts).grant sent = [] := by
  have usable : texts.filterMap usable? ≠ [] := by
    rw [Ne, filterMap_usable?_eq_nil_iff]
    simpa using some
  rw [ofTexts, if_neg usable]
  cases sent with
  | none => rfl
  | some origin =>
    have absent := mt mem_filterMap_usable?_iff.1 (not origin rfl)
    rw [grant, if_neg (mt List.contains_iff_mem.1 absent)]

theorem grant_of_none_listed (none : ∀ origin, ¬Listed texts origin) :
    (ofTexts texts).grant sent = [("access-control-allow-origin", "*")] := by
  rw [ofTexts, if_pos (filterMap_usable?_eq_nil_iff.2 none)]
  rfl

theorem grant_congr (same : ∀ origin, Listed others origin ↔ Listed texts origin) :
    (ofTexts others).grant sent = (ofTexts texts).grant sent := by
  by_cases some : ∃ origin, Listed texts origin
  · have someOther : ∃ origin, Listed others origin := by simpa only [same] using some
    by_cases asks : ∃ origin ∈ sent, Listed texts origin
    · obtain ⟨origin, rfl, listed⟩ := asks
      rw [grant_of_listed listed, grant_of_listed ((same origin).2 listed)]
    · push Not at asks
      rw [grant_of_not_listed some asks,
        grant_of_not_listed someOther fun origin member => mt (same origin).1 (asks origin member)]
  · push Not at some
    have noOther : ∀ origin, ¬Listed others origin := fun origin => mt (same origin).1 (some origin)
    rw [grant_of_none_listed some, grant_of_none_listed noOther]

end Origins

/-! ### Responses -/

def Response.sharedWith (response : Response) : List String :=
  valuesOf response.headers "access-control-allow-origin"

namespace Site

variable {site : Site}

/-- The headers that a site adds for other origins tell of none but those that it grants. -/
theorem valuesOf_grant_append {own granted others : List (String × String)}
    (before : valuesOf own "access-control-allow-origin" = [])
    (after : valuesOf others "access-control-allow-origin" = []) :
    valuesOf (own ++ (granted ++ others)) "access-control-allow-origin" =
      valuesOf granted "access-control-allow-origin" := by
  rw [valuesOf_append, valuesOf_append, before, after, List.nil_append, List.append_nil]

theorem sharedWith_preflight (site : Site) (r : Request) :
    (site.preflight r).sharedWith =
      valuesOf (site.origins.grant (r.header? "origin")) "access-control-allow-origin" := by
  rw [Response.sharedWith, preflight, Response.withHeaders]
  simp only [List.append_assoc]
  refine valuesOf_grant_append rfl ?_
  cases Route.ofPath? r.path with
  | none => rfl
  | some route =>
    rw [valuesOf_append]
    exact (own_allow route).valuesOf_eq_nil (by decide)

/-- Only what the site grants is told of other origins, whatever the request comes to. -/
theorem sharedWith_serve (site : Site) (d : Desk) (r : Request) :
    (site.serve d r).1.sharedWith =
      valuesOf (site.origins.grant (r.header? "origin")) "access-control-allow-origin" := by
  by_cases preflight : r.method = "OPTIONS"
  · rw [serve, if_pos preflight, sharedWith_preflight]
  · have own := Service.own_routes d r
    have security : valuesOf (securityHeaders site.production) "access-control-allow-origin" = [] :=
      valuesOf_eq_nil fun member =>
        absurd (names_securityHeaders_subset site.production member) (by decide)
    rw [serve, if_neg preflight]
    show valuesOf ((Service.routes d r).1.headers ++ (securityHeaders site.production ++
      (site.origins.grant (r.header? "origin") ++ _))) _ = _
    rw [← List.append_assoc]
    refine valuesOf_grant_append ?_ rfl
    rw [valuesOf_append, own.valuesOf_eq_nil (by decide), security]
    rfl

/-- A site is known from what it grants. -/
theorem serve_congr_of_grant {production : Bool} {origins origins' : Origins}
    (same : ∀ sent, origins.grant sent = origins'.grant sent) :
    serve ⟨production, origins⟩ = serve ⟨production, origins'⟩ := by
  funext d r
  simp only [serve, preflight, addedHeaders, sharedHeaders, same]

/-- Of other origins, exactly those that the texts stand for are told that a response is shared with
them, and the response names the one that asks. It is shared with everyone if the texts stand for
none. -/
structure SharesWith (site : Site) (texts : List String) : Prop where
  carries_iff : (∃ origin, Origins.Listed texts origin) → ∀ (d : Desk) (r : Request),
    (site.serve d r).1.sharedWith ≠ [] ↔
      ∃ origin, r.header? "origin" = some origin ∧ Origins.Listed texts origin
  names : ∀ (d : Desk) (r : Request) (origin : String), r.header? "origin" = some origin →
    Origins.Listed texts origin → (site.serve d r).1.sharedWith = [origin]
  everyone : (∀ origin, ¬Origins.Listed texts origin) → ∀ (d : Desk) (r : Request),
    (site.serve d r).1.sharedWith = ["*"]

theorem sharesWith_ofTexts (production : Bool) (texts : List String) :
    SharesWith ⟨production, .ofTexts texts⟩ texts where
  carries_iff some d r := by
    rw [sharedWith_serve]
    constructor
    · intro carries
      by_contra! asks
      have none := Origins.grant_of_not_listed some asks
      rw [none] at carries
      exact carries rfl
    · rintro ⟨origin, asks, listed⟩
      rw [asks, Origins.grant_of_listed listed]
      exact List.cons_ne_nil _ _
  names d r origin asks listed := by
    rw [sharedWith_serve, asks, Origins.grant_of_listed listed]
    rfl
  everyone none d r := by
    rw [sharedWith_serve, Origins.grant_of_none_listed none]
    rfl

/-- With any list of origins that has no asterisk among its texts there is a site, and it shares its
responses with exactly the origins that the texts stand for, or with everyone if they stand for
none. Another list of the same origins makes no difference to any response: texts that are blank or
cannot stand in a header do not count, nor do blanks around a text. -/
theorem origins_admitted_exactly (production : Bool) (allowed : Option String) :
    (∃ texts, Origins.Cut (allowed.getD Origins.localList) texts) ∧
      ∀ texts, Origins.Cut (allowed.getD Origins.localList) texts →
        (∀ text ∈ texts, Text.trim text ≠ "*") →
          ∃ site, build? production allowed = some site ∧ site.SharesWith texts ∧
            ∀ (list : String) (others : List String), Origins.Cut list others →
              (∀ origin, Origins.Listed others origin ↔ Origins.Listed texts origin) →
                ∃ site', build? production (some list) = some site' ∧ site'.serve = site.serve := by
  refine ⟨Origins.exists_cut _, fun texts cut noAsterisk => ?_⟩
  have unlisted : ¬Origins.Listed texts "*" := by
    rw [Origins.listed_asterisk_iff]
    exact fun ⟨text, member, asterisk⟩ => noAsterisk text member asterisk
  have built : build? production allowed = some ⟨production, .ofTexts texts⟩ := by
    rw [build?, Origins.ofList?_of_cut cut unlisted]
    rfl
  refine ⟨_, built, sharesWith_ofTexts production texts, fun list others cut' same => ?_⟩
  refine ⟨⟨production, .ofTexts others⟩, ?_, serve_congr_of_grant fun _ => Origins.grant_congr same⟩
  rw [build?, Option.getD_some, Origins.ofList?_of_cut cut' (mt (same "*").1 unlisted)]
  rfl

/-- Of three texts one is blank and one cannot stand in a header. The site answers like one for the
third alone: a browser that asks from there is told so, and a client that does not tell its origin
is not told of any. -/
theorem origins_admitted_exactly_concert :
    ∃ site, build? true (some " http://localhost:3000 , ,bad\norigin") = some site ∧
      (site.serve Concert.opened Concert.preflight).1.sharedWith = ["http://localhost:3000"] ∧
      (site.serve Concert.opened Concert.astray).1.sharedWith = [] ∧
      ∃ site', build? true (some "http://localhost:3000") = some site' ∧
        site'.serve = site.serve := by
  let texts := [" http://localhost:3000 ", " ", "bad\norigin"]
  let alone := ["http://localhost:3000"]
  have cut : Origins.Cut " http://localhost:3000 , ,bad\norigin" texts :=
    ⟨by decide, by decide, by decide⟩
  have cutAlone : Origins.Cut "http://localhost:3000" alone := ⟨by decide, by decide, by decide⟩
  have listed_iff {list : List String} (usable : list.filterMap Origins.usable? = alone)
      (origin : String) : Origins.Listed list origin ↔ origin = "http://localhost:3000" := by
    rw [← Origins.mem_filterMap_usable?_iff, usable, List.mem_singleton]
  have same (origin : String) : Origins.Listed alone origin ↔ Origins.Listed texts origin := by
    rw [listed_iff (by decide), listed_iff (by decide)]
  have listed : Origins.Listed texts "http://localhost:3000" := (listed_iff (by decide) _).2 rfl
  obtain ⟨site, built, shares, alike⟩ :=
    (origins_admitted_exactly true (some _)).2 texts cut (by decide)
  refine ⟨site, built, ?_, ?_, alike _ _ cutAlone same⟩
  · have asks : Concert.preflight.header? "origin" = some "http://localhost:3000" := by
      simp [Request.header?, Concert.preflight]
    exact shares.names _ _ _ asks listed
  · by_contra carries
    obtain ⟨origin, asks, -⟩ := (shares.carries_iff ⟨_, listed⟩ _ _).1 carries
    cases asks

end Site

end BoxOffice.Http
