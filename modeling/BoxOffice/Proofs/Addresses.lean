import BoxOffice.Http.Site
import Mathlib.Data.List.Basic

/-!
Addresses. The pieces of a text, put together again with the separator between them, are the
text, and no piece has a separator in it; so there is only one way to cut a text. The route of a
path is therefore known from how the path is put together.
-/

namespace BoxOffice

namespace Text

variable {separator : Char}

theorem pieces_cons_separator (separator : Char) (cs : List Char) :
    pieces separator (separator :: cs) = [] :: pieces separator cs := by
  rw [pieces]
  split
  next none => exact absurd none (pieces_ne_nil separator cs)
  next found => rw [if_pos rfl, found]

theorem pieces_cons_of_ne {c : Char} {cs piece : List Char} {rest : List (List Char)}
    (other : c ≠ separator) (found : pieces separator cs = piece :: rest) :
    pieces separator (c :: cs) = (c :: piece) :: rest := by
  rw [pieces, found]
  exact if_neg other

theorem pieces_of_notMem {piece : List Char} (whole : separator ∉ piece) :
    pieces separator piece = [piece] := by
  induction piece with
  | nil => rfl
  | cons c cs ih =>
    obtain ⟨other, whole⟩ := List.ne_and_not_mem_of_not_mem_cons whole
    exact pieces_cons_of_ne (Ne.symm other) (ih whole)

theorem pieces_append {piece : List Char} (whole : separator ∉ piece) (rest : List Char) :
    pieces separator (piece ++ separator :: rest) = piece :: pieces separator rest := by
  induction piece with
  | nil => exact pieces_cons_separator ..
  | cons c cs ih =>
    obtain ⟨other, whole⟩ := List.ne_and_not_mem_of_not_mem_cons whole
    exact pieces_cons_of_ne (Ne.symm other) (ih whole)

theorem pieces_intercalate {ps : List (List Char)} (nonempty : ps ≠ [])
    (whole : ∀ piece ∈ ps, separator ∉ piece) :
    pieces separator ([separator].intercalate ps) = ps := by
  induction ps with
  | nil => exact absurd rfl nonempty
  | cons piece rest ih =>
    have wholeFirst := whole piece List.mem_cons_self
    cases rest with
    | nil => rw [List.intercalate_singleton, pieces_of_notMem wholeFirst]
    | cons next rest =>
      have found := ih (List.cons_ne_nil next rest)
        fun other member => whole other (List.mem_cons_of_mem _ member)
      rw [List.intercalate_cons_cons, List.append_assoc, List.singleton_append,
        pieces_append wholeFirst, found]

theorem intercalate_pieces (separator : Char) (cs : List Char) :
    [separator].intercalate (pieces separator cs) = cs := by
  induction cs with
  | nil => rfl
  | cons c cs ih =>
    obtain ⟨piece, rest, found⟩ := List.exists_cons_of_ne_nil (pieces_ne_nil separator cs)
    rw [found] at ih
    by_cases same : c = separator
    · subst same
      rw [pieces_cons_separator, found, List.intercalate_cons_cons, ih]
      rfl
    · rw [pieces_cons_of_ne same found]
      cases rest <;> simpa [List.intercalate] using ih

theorem notMem_of_mem_pieces {cs piece : List Char} (member : piece ∈ pieces separator cs) :
    separator ∉ piece := by
  induction cs generalizing piece with
  | nil => simp [pieces] at member; simp [member]
  | cons c cs ih =>
    obtain ⟨first, rest, found⟩ := List.exists_cons_of_ne_nil (pieces_ne_nil separator cs)
    by_cases same : c = separator
    · subst same
      rw [pieces_cons_separator] at member
      rcases List.mem_cons.1 member with rfl | inRest
      · exact List.not_mem_nil
      · exact ih inRest
    · rw [found] at ih
      rw [pieces_cons_of_ne same found] at member
      rcases List.mem_cons.1 member with rfl | inRest
      · exact List.not_mem_cons_of_ne_of_not_mem (Ne.symm same) (ih List.mem_cons_self)
      · exact ih (List.mem_cons_of_mem _ inRest)

end Text

namespace Http.Route

/-- How the path of a route is put together. -/
inductive Addresses : Route → List Char → Prop
  | health : Addresses .health "/health".toList
  | ticketClasses : Addresses .ticketClasses "/ticket-classes".toList
  | ticketClass {id : List Char} (given : id ≠ []) (whole : '/' ∉ id) :
    Addresses (.ticketClass id) ("/ticket-classes/".toList ++ id)
  | availability {id : List Char} (whole : '/' ∉ id) :
    Addresses (.availability id) ("/ticket-classes/".toList ++ id ++ "/availability".toList)
  | check : Addresses .check "/availability/check".toList
  | reservations : Addresses .reservations "/reservations".toList
  | orderReservations {order : List Char} (whole : '/' ∉ order) :
    Addresses (.orderReservations order) ("/orders/".toList ++ order ++ "/reservations".toList)
  | confirmation {order : List Char} (whole : '/' ∉ order) :
    Addresses (.confirmation order) ("/orders/".toList ++ order ++ "/confirm".toList)
  | withdrawal {order : List Char} (whole : '/' ∉ order) :
    Addresses (.withdrawal order) ("/orders/".toList ++ order ++ "/release".toList)

theorem addresses_of_ofPath? {path : List Char} {route : Route}
    (found : ofPath? path = some route) : route.Addresses path := by
  have joined := Text.intercalate_pieces '/' path
  have whole : ∀ piece ∈ Text.pieces '/' path, '/' ∉ piece := fun _ => Text.notMem_of_mem_pieces
  unfold ofPath? at found
  generalize Text.pieces '/' path = pieces at *
  have texts {ts : List String} (same : pieces.map String.ofList = ts) :
      pieces = ts.map String.toList := by
    rw [← same, List.map_map]
    simp
  subst joined
  split at found
  case h_1 same =>
    cases found
    rw [texts same]
    exact .health
  case h_2 same =>
    cases found
    rw [texts same]
    exact .ticketClasses
  case h_3 id same =>
    split at found
    next => cases found
    next given =>
      cases found
      rw [texts same] at whole ⊢
      have address : Addresses _ _ :=
        .ticketClass (by simpa using given) (whole id.toList (by simp))
      simpa [List.intercalate] using address
  case h_4 id same =>
    cases found
    rw [texts same] at whole ⊢
    have address : Addresses _ _ := .availability (whole id.toList (by simp))
    simpa [List.intercalate] using address
  case h_5 same =>
    cases found
    rw [texts same]
    exact .check
  case h_6 same =>
    cases found
    rw [texts same]
    exact .reservations
  case h_7 order same =>
    cases found
    rw [texts same] at whole ⊢
    have address : Addresses _ _ := .orderReservations (whole order.toList (by simp))
    simpa [List.intercalate] using address
  case h_8 order same =>
    cases found
    rw [texts same] at whole ⊢
    have address : Addresses _ _ := .confirmation (whole order.toList (by simp))
    simpa [List.intercalate] using address
  case h_9 order same =>
    cases found
    rw [texts same] at whole ⊢
    have address : Addresses _ _ := .withdrawal (whole order.toList (by simp))
    simpa [List.intercalate] using address
  case h_10 => cases found

/-- The pieces of a path in which a segment stands between two names. -/
theorem pieces_between (name action : List Char) {segment : List Char} (nameWhole : '/' ∉ name)
    (whole : '/' ∉ segment) (actionWhole : '/' ∉ action) :
    Text.pieces '/' ('/' :: (name ++ '/' :: (segment ++ '/' :: action))) =
      [[], name, segment, action] := by
  rw [Text.pieces_cons_separator, Text.pieces_append nameWhole, Text.pieces_append whole,
    Text.pieces_of_notMem actionWhole]

theorem Addresses.ofPath?_eq {path : List Char} {route : Route} (addresses : route.Addresses path) :
    ofPath? path = some route := by
  cases addresses with
  | health | ticketClasses | check | reservations => rfl
  | @ticketClass id given whole =>
    have pieces_eq : Text.pieces '/' ("/ticket-classes/".toList ++ id) =
        [[], "ticket-classes".toList, id] := by
      show Text.pieces '/' ('/' :: ("ticket-classes".toList ++ '/' :: id)) = _
      rw [Text.pieces_cons_separator, Text.pieces_append (by decide), Text.pieces_of_notMem whole]
    rw [ofPath?, pieces_eq]
    simp [given]
  | @availability id whole =>
    have pieces_eq : Text.pieces '/' ("/ticket-classes/".toList ++ id ++ "/availability".toList) =
        [[], "ticket-classes".toList, id, "availability".toList] :=
      pieces_between "ticket-classes".toList "availability".toList (by decide) whole (by decide)
    rw [ofPath?, pieces_eq]
    simp
  | @orderReservations order whole =>
    have pieces_eq : Text.pieces '/' ("/orders/".toList ++ order ++ "/reservations".toList) =
        [[], "orders".toList, order, "reservations".toList] :=
      pieces_between "orders".toList "reservations".toList (by decide) whole (by decide)
    rw [ofPath?, pieces_eq]
    simp
  | @confirmation order whole =>
    have pieces_eq : Text.pieces '/' ("/orders/".toList ++ order ++ "/confirm".toList) =
        [[], "orders".toList, order, "confirm".toList] :=
      pieces_between "orders".toList "confirm".toList (by decide) whole (by decide)
    rw [ofPath?, pieces_eq]
    simp
  | @withdrawal order whole =>
    have pieces_eq : Text.pieces '/' ("/orders/".toList ++ order ++ "/release".toList) =
        [[], "orders".toList, order, "release".toList] :=
      pieces_between "orders".toList "release".toList (by decide) whole (by decide)
    rw [ofPath?, pieces_eq]
    simp

theorem ofPath?_eq_some_iff {path : List Char} {route : Route} :
    ofPath? path = some route ↔ route.Addresses path :=
  ⟨addresses_of_ofPath?, Addresses.ofPath?_eq⟩

end Http.Route

end BoxOffice
