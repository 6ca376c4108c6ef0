import BoxOffice.Proofs.Checking
import BoxOffice.Proofs.Runs

/-!
Rearranging the lines of an availability check. Lines that are merged are kept by class, so it is
forgotten in which order they came. But a check looks at one line after the other, and it has two
ways to stop before the last: at a line that asks for no tickets, which it refuses, and at a sum
that no class can have, which it denies. A list with reasons for both is answered by the one that
comes first. For all other lists the order makes no difference.
-/

namespace BoxOffice

/-! ### Lines -/

namespace Line

variable {items items' : List Line}

theorem tickets_append (items items' : List Line) (id : Uuid) :
    tickets (items ++ items') id = tickets items id + tickets items' id := by
  simp [tickets]

theorem tickets_perm (perm : items.Perm items') (id : Uuid) :
    tickets items id = tickets items' id :=
  ((perm.filter _).map _).sum_eq

def positives (items : List Line) : List Line := items.filter (0 < ·.quantity.toInt)

theorem mem_positives_iff {line : Line} :
    line ∈ positives items ↔ line ∈ items ∧ 0 < line.quantity.toInt := by
  simp [positives]

theorem positives_append (items items' : List Line) :
    positives (items ++ items') = positives items ++ positives items' := List.filter_append ..

theorem positives_eq_self (positive : ∀ line ∈ items, 0 < line.quantity.toInt) :
    positives items = items :=
  List.filter_eq_self.2 fun line member => by simpa using positive line member

theorem positives_perm (perm : items.Perm items') : (positives items).Perm (positives items') :=
  perm.filter _

/-- Lines that ask for more tickets of one class than any class can have. -/
def Excessive (items : List Line) : Prop := ∃ id, 2 ^ 31 ≤ tickets items id

theorem Excessive.perm (excessive : Excessive items) (perm : items.Perm items') :
    Excessive items' := by
  obtain ⟨id, tooMany⟩ := excessive
  exact ⟨id, tickets_perm perm id ▸ tooMany⟩

/-- A check of the lines stops at a sum that no class can have, before any line that asks for no
tickets. -/
def StopsEarly (items : List Line) : Prop :=
  ∃ front, front <+: items ∧ (∀ line ∈ front, 0 < line.quantity.toInt) ∧ Excessive front

theorem Excessive.append (excessive : Excessive items)
    (positive : ∀ line ∈ items', 0 < line.quantity.toInt) : Excessive (items ++ items') := by
  obtain ⟨id, tooMany⟩ := excessive
  have more := tickets_nonneg positive id
  refine ⟨id, ?_⟩
  rw [tickets_append]
  omega

/-- The lines before the first one that asks for no tickets. -/
theorem exists_first_not_positive (some : ∃ line ∈ items, ¬0 < line.quantity.toInt) :
    ∃ front line rest, items = front ++ line :: rest ∧
      (∀ other ∈ front, 0 < other.quantity.toInt) ∧ ¬0 < line.quantity.toInt := by
  obtain ⟨line, member, low⟩ := some
  have found : (items.find? fun line => ¬0 < line.quantity.toInt).isSome := by
    rw [List.find?_isSome]
    exact ⟨line, member, by simpa using low⟩
  obtain ⟨first, found⟩ := Option.isSome_iff_exists.1 found
  obtain ⟨low, front, rest, split, before⟩ := List.find?_eq_some_iff_append.1 found
  exact ⟨front, first, rest, split, by simpa using before, by simpa using low⟩

/-- What stops a check early stands before the first line that asks for no tickets. -/
theorem stopsEarly_iff {front rest : List Line} {line : Line}
    (before : ∀ other ∈ front, 0 < other.quantity.toInt) (low : ¬0 < line.quantity.toInt) :
    StopsEarly (front ++ line :: rest) ↔ Excessive front := by
  constructor
  · rintro ⟨start, isFront, positive, excessive⟩
    have isBefore : start <+: front := by
      rcases List.prefix_or_prefix_of_prefix isFront (List.prefix_append front (line :: rest)) with
        isBefore | ⟨more, rfl⟩
      · exact isBefore
      · -- If more than the front came before the stop, the line would be a part of it.
        cases more with
        | nil => rw [List.append_nil]
        | cons first more =>
          have same : first = line := by
            rw [List.prefix_append_right_inj] at isFront
            exact (List.cons_prefix_cons.1 isFront).1
          exact absurd (positive line (by simp [same])) low
    obtain ⟨more, rfl⟩ := isBefore
    exact excessive.append fun other member => before other (List.mem_append_right _ member)
  · exact fun excessive => ⟨front, List.prefix_append .., before, excessive⟩

end Line

/-! ### Merging -/

namespace Lines

variable {items items' : List Line} {merged merged' : Lines}

/-- Merged lines are known from the classes that they are for and the quantities of these. -/
theorem mem_rows_iff {line : Line} : line ∈ merged.rows ↔
    (∃ other ∈ merged.rows, other.ticketClass = line.ticketClass) ∧
      merged.quantity line.ticketClass = line.quantity := by
  constructor
  · exact fun member => ⟨⟨line, member, rfl⟩, quantity_of_mem member⟩
  · rintro ⟨⟨other, member, sameClass⟩, quantity⟩
    have sameQuantity : other.quantity = line.quantity := by
      rw [← quantity_of_mem member, sameClass, quantity]
    cases line
    cases other
    simp_all

/-- Lines in another order are merged to the same. -/
theorem Merges.eq_of_perm (merges : Merges .empty items merged)
    (merges' : Merges .empty items' merged') (perm : items.Perm items') : merged = merged' := by
  refine Table.eq_of_rows_eq (Table.rows_eq_of_mem_iff merged.sorted merged'.sorted fun line => ?_)
  have named (id : Uuid) : (∃ other ∈ merged.rows, other.ticketClass = id) ↔
      ∃ other ∈ merged'.rows, other.ticketClass = id := by
    rw [merges.named_iff_of_empty, merges'.named_iff_of_empty]
    simp only [perm.mem_iff]
  have quantity (id : Uuid) : merged.quantity id = merged'.quantity id := by
    rw [← Int32.toInt_inj, merges.quantity_eq, merges'.quantity_eq, Line.tickets_perm perm]
  rw [mem_rows_iff, mem_rows_iff, named, quantity]

end Lines

namespace Wanted

open Line (Excessive positives)

variable {items items' : List Line}

theorem ofItems_append (lines : Lines) (front rest : List Line) :
    ofItems lines (front ++ rest) =
      match ofItems lines front with
      | .ok (.lines merged) => ofItems merged rest
      | stopped => stopped := by
  induction front generalizing lines with
  | nil => rfl
  | cons line front ih =>
    rw [List.cons_append, ofItems, ofItems]
    split
    · rfl
    · split
      next next _ => exact ih next
      next => rfl

/-- Lines that ask for tickets are denied if they are excessive, and else merged. -/
theorem ofItems_of_positive (positive : ∀ line ∈ items, 0 < line.quantity.toInt) :
    (Excessive items ∧ ofItems .empty items = .ok .tooMany) ∨
      ¬Excessive items ∧ ∃ merged, ofItems .empty items = .ok (.lines merged) ∧
        Lines.Merges .empty items merged := by
  rcases ofItems_empty_cases positive with ⟨merged, eq, merges⟩ | ⟨eq, line, -, tooMany⟩
  · refine .inr ⟨?_, merged, eq, merges⟩
    rintro ⟨id, tooMany⟩
    have top := Quantity.toInt_lt (merged.quantity id)
    have none : (Lines.quantity .empty id).toInt = 0 := rfl
    rw [merges.quantity_eq, none] at top
    omega
  · exact .inl ⟨⟨line.ticketClass, tooMany⟩, eq⟩

theorem ofItems_perm (perm : items.Perm items')
    (positive : ∀ line ∈ items, 0 < line.quantity.toInt) :
    ofItems .empty items = ofItems .empty items' := by
  have positive' : ∀ line ∈ items', 0 < line.quantity.toInt := fun line member =>
    positive line (perm.mem_iff.2 member)
  rcases ofItems_of_positive positive with ⟨excessive, eq⟩ | ⟨modest, merged, eq, merges⟩ <;>
    rcases ofItems_of_positive positive' with
      ⟨excessive', eq'⟩ | ⟨modest', merged', eq', merges'⟩
  · rw [eq, eq']
  · exact absurd (excessive.perm perm) modest'
  · exact absurd (excessive'.perm perm.symm) modest
  · rw [eq, eq', merges.eq_of_perm merges' perm]

/-- What comes first of the two reasons to stop decides: the first line that asks for no tickets, or
lines before it that are excessive. -/
theorem ofItems_of_first {front : List Line} {line : Line} (rest : List Line)
    (before : ∀ other ∈ front, 0 < other.quantity.toInt) (low : ¬0 < line.quantity.toInt) :
    (Excessive front ∧ ofItems .empty (front ++ line :: rest) = .ok .tooMany) ∨
      ¬Excessive front ∧ ofItems .empty (front ++ line :: rest) =
        .error (.quantityNotPositive line.ticketClass) := by
  have refused : line.quantity ≤ 0 := by
    rw [Int32.le_iff_toInt_le, Int32.toInt_zero]
    omega
  rcases ofItems_of_positive before with ⟨excessive, eq⟩ | ⟨modest, merged, eq, -⟩
  · exact .inl ⟨excessive, by rw [ofItems_append, eq]⟩
  · refine .inr ⟨modest, ?_⟩
    rw [ofItems_append, eq]
    show ofItems merged (line :: rest) = _
    rw [ofItems, if_pos refused]

end Wanted

/-! ### Checks -/

/-- Two answers to a check come to the same: they are equal, or both refuse what is asked. -/
inductive SameVerdict : Except Refusal Bool → Except Refusal Bool → Prop
  | same (answer : Except Refusal Bool) : SameVerdict answer answer
  | invalid (reason reason' : Invalid) :
    SameVerdict (.error (.invalid reason)) (.error (.invalid reason'))

namespace Desk

open Line (Excessive StopsEarly positives)

variable {items items' : List Line}

theorem check_congr (d : Desk) (same : Wanted.ofItems .empty items = Wanted.ofItems .empty items') :
    (d.check items).1 = (d.check items').1 := by
  rw [check, check, same]

theorem check_of_tooMany (d : Desk) (eq : Wanted.ofItems .empty items = .ok .tooMany) :
    (d.check items).1 = .ok false := by
  rw [check, eq]

theorem check_of_error (d : Desk) {reason : Invalid}
    (eq : Wanted.ofItems .empty items = .error reason) :
    (d.check items).1 = .error (.invalid reason) := by
  rw [check, eq]
  rfl

/-- Lines of which one asks for no tickets are refused, unless a check stops before it. -/
theorem check_of_not_positive (d : Desk) (some : ∃ line ∈ items, ¬0 < line.quantity.toInt) :
    (¬StopsEarly items ∧ ∃ reason, (d.check items).1 = .error (.invalid reason)) ∨
      StopsEarly items ∧ (d.check items).1 = .ok false := by
  obtain ⟨front, line, rest, rfl, before, low⟩ := Line.exists_first_not_positive some
  rw [Line.stopsEarly_iff before low]
  rcases Wanted.ofItems_of_first rest before low with ⟨excessive, eq⟩ | ⟨modest, eq⟩
  · exact .inr ⟨excessive, d.check_of_tooMany eq⟩
  · exact .inl ⟨modest, _, d.check_of_error eq⟩

/-- Lines that are not excessive by themselves stop no check early, however they are arranged. -/
theorem check_of_modest (d : Desk) (modest : ¬Excessive (positives items))
    (perm : items.Perm items') (some : ∃ line ∈ items', ¬0 < line.quantity.toInt) :
    ∃ reason, (d.check items').1 = .error (.invalid reason) := by
  rcases d.check_of_not_positive some with
    ⟨-, refused⟩ | ⟨⟨front, ⟨rest, rfl⟩, before, excessive⟩, -⟩
  · exact refused
  · refine absurd (Excessive.perm ?_ (Line.positives_perm perm.symm)) modest
    rw [Line.positives_append, Line.positives_eq_self before]
    exact excessive.append fun other member => (Line.mem_positives_iff.1 member).2

/-- Of lines that give both reasons to stop one arrangement is denied and one is refused. -/
theorem exists_perm_of_mixed (d : Desk) (some : ∃ line ∈ items, ¬0 < line.quantity.toInt)
    (excessive : Excessive (positives items)) :
    (∃ items', items.Perm items' ∧ (d.check items').1 = .ok false) ∧
      ∃ items' reason, items.Perm items' ∧ (d.check items').1 = .error (.invalid reason) := by
  obtain ⟨line, member, low⟩ := some
  have split : items.Perm
      (positives items ++ items.filter fun line => !decide (0 < line.quantity.toInt)) :=
    (List.filter_append_perm _ items).symm
  have positive : ∀ other ∈ positives items, 0 < other.quantity.toInt :=
    fun other inPositives => (Line.mem_positives_iff.1 inPositives).2
  have others : line ∈ items.filter fun line => !decide (0 < line.quantity.toInt) := by
    simpa [member] using low
  constructor
  · refine ⟨_, split, ?_⟩
    rcases d.check_of_not_positive ⟨line, List.mem_append_right _ others, low⟩ with
      ⟨goesOn, -⟩ | ⟨-, denied⟩
    · exact absurd ⟨_, List.prefix_append .., positive, excessive⟩ goesOn
    · exact denied
  · obtain ⟨before, after, isFirst⟩ := List.append_of_mem member
    have isFirst : items.Perm (line :: (before ++ after)) := isFirst ▸ List.perm_middle
    have none : ∀ other ∈ ([] : List Line), 0 < other.quantity.toInt := by simp
    rcases Wanted.ofItems_of_first (before ++ after) none low with
      ⟨⟨id, tooMany⟩, -⟩ | ⟨-, eq⟩
    · rw [Line.tickets_nil] at tooMany
      omega
    · exact ⟨_, _, isFirst, d.check_of_error eq⟩

/-- Whatever is stored, all arrangements of the lines of a check get the same verdict, unless the
lines give both reasons to stop: one asks for no tickets, and the others for more of one class than
any class can have. A line that asks for no tickets is refused wherever it stands, unless the check
stops before it. -/
theorem rearranged_alike_iff (d : Desk) (items : List Line) :
    ((∀ items', items.Perm items' → SameVerdict (d.check items).1 (d.check items').1) ↔
      (∀ line ∈ items, 0 < line.quantity.toInt) ∨ ¬Excessive (positives items)) ∧
    ((∃ line ∈ items, ¬0 < line.quantity.toInt) →
      (¬StopsEarly items ∧ ∃ reason, (d.check items).1 = .error (.invalid reason)) ∨
        StopsEarly items ∧ (d.check items).1 = .ok false) := by
  refine ⟨⟨fun alike => ?_, ?_⟩, d.check_of_not_positive⟩
  · by_contra mixed
    simp only [not_or, not_forall, not_not] at mixed
    obtain ⟨⟨line, member, low⟩, excessive⟩ := mixed
    obtain ⟨⟨arranged, perm, denied⟩, arranged', reason, perm', refused⟩ :=
      d.exists_perm_of_mixed ⟨line, member, low⟩ excessive
    have toDenied := alike arranged perm
    have toRefused := alike arranged' perm'
    rw [denied] at toDenied
    rw [refused] at toRefused
    generalize (d.check items).1 = answer at toDenied toRefused
    cases toDenied
    cases toRefused
  · rintro (positive | modest) items' perm
    · rw [d.check_congr (Wanted.ofItems_perm perm positive)]
      exact .same _
    · by_cases positive : ∀ line ∈ items, 0 < line.quantity.toInt
      · rw [d.check_congr (Wanted.ofItems_perm perm positive)]
        exact .same _
      · simp only [not_forall] at positive
        obtain ⟨line, member, low⟩ := positive
        obtain ⟨reason, refused⟩ := d.check_of_modest modest (.refl items) ⟨line, member, low⟩
        obtain ⟨reason', refused'⟩ :=
          d.check_of_modest modest perm ⟨line, perm.mem_iff.1 member, low⟩
        rw [refused, refused']
        exact .invalid reason reason'

/-- More of one class than can be counted, and then nothing of another. -/
def excessFirst : List Line :=
  [⟨.ofNat 1, Int32.maxValue⟩, ⟨.ofNat 1, 1⟩, ⟨.ofNat 2, 0⟩]

/-- The mixture of standing places and a seat may be listed in any order; the excess stops a check
before the last line. -/
theorem rearranged_alike_concert :
    mixture.Perm mixture.reverse ∧
      SameVerdict ((Concert.opened.after Concert.operations).check mixture).1
        ((Concert.opened.after Concert.operations).check mixture.reverse).1 ∧
      (∃ line ∈ excessFirst, ¬0 < line.quantity.toInt) ∧ StopsEarly excessFirst := by
  have perm : mixture.Perm mixture.reverse := (List.reverse_perm mixture).symm
  have some : ∃ line ∈ excessFirst, ¬0 < line.quantity.toInt := by decide
  have alike := (rearranged_alike_iff (Concert.opened.after Concert.operations) mixture).1.2
    (.inl (by decide)) mixture.reverse perm
  refine ⟨perm, alike, some, ?_⟩
  rcases (rearranged_alike_iff Concert.opened excessFirst).2 some with
    ⟨-, reason, refused⟩ | ⟨stops, -⟩
  · cases refused
  · exact stops

/-- The line that asks for no tickets is refused where it comes first, and passed over where it
comes last. -/
theorem rearranged_not_alike :
    excessFirst.Perm excessFirst.reverse ∧
      (Concert.opened.check excessFirst).1 = .ok false ∧
      (Concert.opened.check excessFirst.reverse).1 =
        .error (.invalid (.quantityNotPositive (.ofNat 2))) ∧
      ¬SameVerdict (Concert.opened.check excessFirst).1
        (Concert.opened.check excessFirst.reverse).1 := by
  have denied : (Concert.opened.check excessFirst).1 = .ok false := rfl
  have refused : (Concert.opened.check excessFirst.reverse).1 =
      .error (.invalid (.quantityNotPositive (.ofNat 2))) := rfl
  refine ⟨(List.reverse_perm excessFirst).symm, denied, refused, ?_⟩
  rw [denied, refused]
  intro alike
  cases alike

end Desk

end BoxOffice
