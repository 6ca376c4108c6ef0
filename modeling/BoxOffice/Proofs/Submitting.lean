import BoxOffice.Proofs.Integrity
import BoxOffice.Proofs.Rollback
import BoxOffice.Proofs.Rules

/-!
Submitting drafts and changes. A submission passes three layers of checks: the rules for its fields,
the rules for the class that it makes, and the store. Each layer refuses for reasons of its own, and
some of the store's repeat those of the layer before. Here the layers are folded into one list of
reasons, in the order in which they are given, and the repeated ones turn out to be given never.
-/

namespace BoxOffice

open TicketClass (ProperWindow checkWindow)

theorem ok_bind {ε α β : Type} (a : α) (f : α → Except ε β) :
    (.ok a >>= f : Except ε β) = f a := rfl

theorem error_bind {ε α β : Type} (e : ε) (f : α → Except ε β) :
    (.error e >>= f : Except ε β) = .error e := rfl

/-! ### Classes -/

namespace TicketClass

/-- What a draft makes: a class that is as it was given, with nothing around its name and its code
in capitals. -/
structure Draft.Makes (draft : Draft) (c : TicketClass) (now : Instant) : Prop where
  event : c.event = draft.event
  name : c.name = Text.trim draft.name
  price : c.price = draft.price
  currency : c.currency = capitals draft.currency
  total : c.total = draft.total
  saleStart : c.saleStart = draft.saleStart
  saleEnd : c.saleEnd = draft.saleEnd
  times : c.createdAt = now ∧ c.updatedAt = now

/-- What changes make of a class: what is given takes the place of what there was, and all else
stays. -/
structure Changes.Makes (ch : Changes) (old new : TicketClass) (now : Instant) : Prop where
  name : new.name = (ch.name.map Text.trim).getD old.name
  price : new.price = ch.price.getD old.price
  currency : new.currency = (ch.currency.map capitals).getD old.currency
  total : new.total = ch.total.getD old.total
  saleStart : new.saleStart = ch.saleStart.or old.saleStart
  saleEnd : new.saleEnd = ch.saleEnd.or old.saleEnd
  status : new.status = ch.status.getD old.status
  kept : new.id = old.id ∧ new.event = old.event ∧ new.createdAt = old.createdAt
  counters : new.reserved = old.reserved ∧ new.sold = old.sold
  updatedAt : new.updatedAt = now

/-- A total that is given covers what is reserved and sold. -/
def Changes.Cover (ch : Changes) (c : TicketClass) : Prop :=
  ∀ total ∈ ch.total, c.reserved.toInt + c.sold.toInt ≤ total.toInt

/-- The window that changes make of that of a class does not end before it starts. -/
def Changes.KeepWindow (ch : Changes) (c : TicketClass) : Prop :=
  ProperWindow (ch.saleStart.or c.saleStart) (ch.saleEnd.or c.saleEnd)

variable {ch : Changes} {c : TicketClass} {now : Instant} {held : Int}

theorem Changes.not_cover_iff : ¬ch.Cover c ↔
    ∃ total ∈ ch.total, total.toInt < c.reserved.toInt + c.sold.toInt := by
  simp [Cover]

theorem makes_ticketClass {draft : Draft} (valid : draft.validate = .ok ()) (id : Uuid)
    (now : Instant) : draft.Makes (draft.ticketClass id now) now := by
  obtain ⟨-, -, -, checked, -⟩ := Draft.validate_eq_ok_iff.1 valid
  exact ⟨rfl, rfl, rfl, normalCurrency_eq_capitals checked, rfl, rfl, rfl, ⟨rfl, rfl⟩⟩

theorem makes_merge (valid : ch.validate = .ok ()) (c : TicketClass) (now : Instant) :
    ch.Makes c (ch.merge c now) now := by
  obtain ⟨-, -, checked, -⟩ := Changes.validate_eq_ok_iff.1 valid
  have capital : ch.currency.map normalCurrency = ch.currency.map capitals :=
    Option.map_congr fun code given => normalCurrency_eq_capitals (checked code given)
  refine ⟨rfl, rfl, ?_, rfl, rfl, rfl, rfl, ⟨rfl, rfl, rfl⟩, ⟨rfl, rfl⟩, rfl⟩
  rw [← capital]
  rfl

/-- To make the same changes again is to change nothing. -/
theorem merge_merge (ch : Changes) (c : TicketClass) (now : Instant) :
    ch.merge (ch.merge c now) now = ch.merge c now := by
  have again {α : Type} (given : Option α) (old : α) :
      given.getD (given.getD old) = given.getD old := by cases given <;> rfl
  simp only [Changes.merge, again, ← Option.or_assoc, Option.or_self]

theorem Balanced.toInt_taken (balanced : c.Balanced held) :
    (c.reserved + c.sold).toInt = c.reserved.toInt + c.sold.toInt := by
  obtain ⟨-, reserved, sold, covered⟩ := balanced
  have top := Quantity.toInt_lt c.total
  exact Quantity.toInt_add_eq (by omega) (by omega)

theorem checkWindow_of_not {start finish : Option Instant} (inverted : ¬ProperWindow start finish) :
    checkWindow start finish = .error .windowInverted := by
  cases checked : checkWindow start finish with
  | ok => exact absurd (checkWindow_eq_ok_iff.1 checked) inverted
  | error reason =>
    unfold checkWindow at checked
    split at checked
    · unfold refuseIf at checked
      split at checked
      · rw [← checked]
      · cases checked
    · cases checked

theorem checkTaken_of_cover (balanced : c.Balanced held) (covers : ch.Cover c) :
    Changes.checkTaken c ch.total = .ok () := by
  unfold Changes.checkTaken
  split
  next total given =>
    have enough := covers total given
    rw [← balanced.toInt_taken] at enough
    exact if_neg (Int32.not_lt.2 (Int32.le_iff_toInt_le.2 enough))
  next => rfl

theorem apply_of_below (balanced : c.Balanced held) {total : Quantity}
    (given : ch.total = some total) (below : total.toInt < c.reserved.toInt + c.sold.toInt)
    (now : Instant) :
    ch.apply c now = .error (.obstructed (.totalBelowTaken total (c.reserved + c.sold))) := by
  rw [← balanced.toInt_taken] at below
  have checked : Changes.checkTaken c ch.total =
      .error (.obstructed (.totalBelowTaken total (c.reserved + c.sold))) := by
    rw [given]
    exact if_pos (Int32.lt_iff_toInt_lt.2 below)
  rw [Changes.apply, checked]
  rfl

theorem apply_of_inverted (balanced : c.Balanced held) (covers : ch.Cover c)
    (inverted : ¬ch.KeepWindow c) (now : Instant) :
    ch.apply c now = .error (.invalid .windowInverted) := by
  have checked : checkWindow (ch.merge c now).saleStart (ch.merge c now).saleEnd =
      .error .windowInverted := checkWindow_of_not inverted
  rw [Changes.apply, checkTaken_of_cover balanced covers]
  show ((checkWindow (ch.merge c now).saleStart (ch.merge c now).saleEnd).mapError _ >>= _) = _
  rw [checked]
  rfl

theorem apply_of_cover (balanced : c.Balanced held) (covers : ch.Cover c)
    (proper : ch.KeepWindow c) (now : Instant) : ch.apply c now = .ok (ch.merge c now) := by
  have checked : checkWindow (ch.merge c now).saleStart (ch.merge c now).saleEnd = .ok () :=
    checkWindow_eq_ok_iff.2 proper
  rw [Changes.apply, checkTaken_of_cover balanced covers]
  show ((checkWindow (ch.merge c now).saleStart (ch.merge c now).saleEnd).mapError _ >>= _) = _
  rw [checked]
  rfl

/-- A class whose total covers what is taken is covered after changes that cover it. -/
theorem Balanced.covered_merge (balanced : c.Balanced held) (covers : ch.Cover c) (now : Instant) :
    c.reserved + c.sold ≤ (ch.merge c now).total := by
  rw [Int32.le_iff_toInt_le, balanced.toInt_taken]
  show _ ≤ (ch.total.getD c.total).toInt
  cases given : ch.total with
  | none => exact balanced.covered
  | some total => exact covers total given

end TicketClass

/-! ### Stores -/

namespace Store

open TicketClass (Changes Draft)

variable {s : Store} {c : TicketClass} {ch : Changes} {now : Instant}

/-- What comes of a draft, given the identifier that a new class would have. -/
inductive Creates (s : Store) (id : Uuid) (now : Instant) (draft : Draft) :
    Except Refusal TicketClass → Prop
  | invalid {reason : Invalid} (broken : draft.validate = .error reason) :
    Creates s id now draft (.error (.invalid reason))
  | duplicate {other : TicketClass} (valid : draft.validate = .ok ())
      (stored : other ∈ s.ticketClasses.rows) (sameEvent : other.event = draft.event)
      (sameName : other.name = Text.trim draft.name) :
    Creates s id now draft (.error (.duplicate .className))
  | created (valid : draft.validate = .ok ())
      (free : ∀ other ∈ s.ticketClasses.rows, other.event = draft.event →
        other.name ≠ Text.trim draft.name) :
    Creates s id now draft (.ok (draft.ticketClass id now))

/-- What comes of changes of the class with an identifier. Every reason is given only when none of
those before it is. -/
inductive Updates (s : Store) (now : Instant) (id : Uuid) (ch : Changes) :
    Except Refusal TicketClass → Prop
  | invalid {reason : Invalid} (broken : ch.validate = .error reason) :
    Updates s now id ch (.error (.invalid reason))
  | missing (valid : ch.validate = .ok ()) (absent : ∀ c ∈ s.ticketClasses.rows, c.id ≠ id) :
    Updates s now id ch (.error (.noTicketClass id))
  | below {c : TicketClass} {total taken : Quantity} (valid : ch.validate = .ok ())
      (found : s.ticketClass? id = some c) (given : ch.total = some total)
      (sum : taken.toInt = c.reserved.toInt + c.sold.toInt) (below : total.toInt < taken.toInt) :
    Updates s now id ch (.error (.obstructed (.totalBelowTaken total taken)))
  | inverted {c : TicketClass} (valid : ch.validate = .ok ()) (found : s.ticketClass? id = some c)
      (covers : ch.Cover c) (inverted : ¬ch.KeepWindow c) :
    Updates s now id ch (.error (.invalid .windowInverted))
  | duplicate {c other : TicketClass} (valid : ch.validate = .ok ())
      (found : s.ticketClass? id = some c) (covers : ch.Cover c) (proper : ch.KeepWindow c)
      (stored : other ∈ s.ticketClasses.rows) (isOther : other.id ≠ id)
      (sameEvent : other.event = c.event)
      (sameName : other.name = (ch.name.map Text.trim).getD c.name) :
    Updates s now id ch (.error (.duplicate .className))
  | updated {c : TicketClass} (valid : ch.validate = .ok ()) (found : s.ticketClass? id = some c)
      (covers : ch.Cover c) (proper : ch.KeepWindow c)
      (free : ∀ other ∈ s.ticketClasses.rows, other.id ≠ id → other.event = c.event →
        other.name ≠ (ch.name.map Text.trim).getD c.name) :
    Updates s now id ch (.ok (ch.merge c now))

/-- A class that is there is refused by the store for its name alone, if its total covers what is
taken. -/
theorem updateTicketClass_merge_eq (found : s.ticketClass? c.id = some c)
    (covered : c.reserved + c.sold ≤ (ch.merge c now).total) :
    s.updateTicketClass (ch.merge c now) =
      if s.nameIsTaken (ch.merge c now) then .error (.duplicate .className)
      else .ok (s.putTicketClass (ch.merge c now)) := by
  have looked : s.ticketClass (ch.merge c now).id = .ok c := ticketClass_eq_ok_iff.2 found
  have notBelow : ¬(ch.merge c now).total < c.reserved + c.sold := Int32.not_lt.2 covered
  rw [updateTicketClass, checkName]
  by_cases taken : s.nameIsTaken (ch.merge c now) = true
  · simp only [if_pos taken, error_bind]
  · simp only [if_neg taken, looked, ok_bind, if_neg notBelow]
    rfl

theorem putTicketClass_putTicketClass (s : Store) (c : TicketClass) :
    (s.putTicketClass c).putTicketClass c = s.putTicketClass c := by
  have again : (s.ticketClasses.insert c).insert c = s.ticketClasses.insert c := by
    refine Table.eq_of_find?_eq fun id => ?_
    rw [Table.find?_insert, Table.find?_insert]
    split <;> rfl
  simp only [putTicketClass, again]

/-- A class that was written stands in its own way no more than before. -/
theorem nameIsTaken_putTicketClass (free : s.nameIsTaken c = false) :
    (s.putTicketClass c).nameIsTaken c = false := by
  rw [nameIsTaken_eq_false_iff] at free ⊢
  intro other stored isOther
  rcases Table.mem_insert_iff.1 stored with rfl | ⟨old, -⟩
  · exact absurd rfl isOther
  · exact free other old isOther

end Store

/-! ### Desks -/

namespace Desk

open TicketClass (Changes Draft)

variable {d : Desk} {s : Store} {c : TicketClass} {ch : Changes} {draft : Draft} {id : Uuid}

theorem create_of_valid (stored : d.store = some s) (valid : draft.validate = .ok ()) :
    d.create draft =
      if s.nameIsTaken (draft.ticketClass d.ids.draw.1 d.now) then
        (.error (.duplicate .className), { d with ids := d.ids.draw.2 })
      else
        (.ok (draft.ticketClass d.ids.draw.1 d.now),
          { d with
            ids := d.ids.draw.2
            store := some (s.putTicketClass (draft.ticketClass d.ids.draw.1 d.now)) }) := by
  have stored' : ({ d with ids := d.ids.draw.2 } : Desk).store = some s := stored
  simp only [create, valid]
  rw [Operation.change_eq stored', Operation.insertTicketClass_eq]
  by_cases taken : s.nameIsTaken (draft.ticketClass d.ids.draw.1 d.now) = true
  · rw [if_pos taken, if_pos taken]
    rfl
  · rw [if_neg taken, if_neg taken]
    rfl

theorem create_of_error {reason : Invalid} (broken : draft.validate = .error reason) :
    d.create draft = (.error (.invalid reason), d) := by
  rw [create, broken]
  rfl

/-- Exactly the reasons for refusing a draft, and the class that it else makes. -/
theorem Sound.create_eq_iff (sound : d.Sound s) (noRepeat : (d.create draft).2.ids.NoRepeat)
    (result : Except Refusal TicketClass) :
    (d.create draft).1 = result ↔ s.Creates d.ids.draw.1 d.now draft result := by
  have new (valid : draft.validate = .ok ()) :
      ∀ old ∈ s.ticketClasses.rows, old.id ≠ d.ids.draw.1 := by
    have drawn : (d.create draft).2.ids = d.ids.draw.2 := by
      rw [create_of_valid sound.stored valid]
      split <;> rfl
    exact sound.class_new (drawn ▸ noRepeat)
  have taken_iff : s.nameIsTaken (draft.ticketClass d.ids.draw.1 d.now) = true ↔
      ∃ other ∈ s.ticketClasses.rows, other.id ≠ d.ids.draw.1 ∧ other.event = draft.event ∧
        other.name = Text.trim draft.name := by
    simp only [Store.nameIsTaken, List.any_eq_true, Bool.and_eq_true, decide_eq_true_eq, and_assoc]
    rfl
  constructor
  · rintro rfl
    cases valid : draft.validate with
    | error reason =>
      rw [create_of_error valid]
      exact .invalid valid
    | ok =>
      rw [create_of_valid sound.stored valid]
      by_cases taken : s.nameIsTaken (draft.ticketClass d.ids.draw.1 d.now) = true
      · obtain ⟨other, stored, -, sameEvent, sameName⟩ := taken_iff.1 taken
        rw [if_pos taken]
        exact .duplicate valid stored sameEvent sameName
      · rw [if_neg taken]
        exact .created valid fun other stored sameEvent sameName =>
          taken (taken_iff.2 ⟨other, stored, new valid other stored, sameEvent, sameName⟩)
  · intro creates
    cases creates with
    | invalid broken => rw [create_of_error broken]
    | duplicate valid stored sameEvent sameName =>
      have taken := taken_iff.2 ⟨_, stored, new valid _ stored, sameEvent, sameName⟩
      rw [create_of_valid sound.stored valid, if_pos taken]
    | created valid free =>
      have notTaken : ¬s.nameIsTaken (draft.ticketClass d.ids.draw.1 d.now) = true := by
        intro taken
        obtain ⟨other, stored, -, sameEvent, sameName⟩ := taken_iff.1 taken
        exact free other stored sameEvent sameName
      rw [create_of_valid sound.stored valid, if_neg notTaken]

theorem update_of_error {reason : Invalid} (broken : ch.validate = .error reason) :
    d.update id ch = (.error (.invalid reason), d) := by
  rw [update, broken]
  rfl

theorem update_of_missing (stored : d.store = some s) (valid : ch.validate = .ok ())
    (absent : ∀ c ∈ s.ticketClasses.rows, c.id ≠ id) :
    d.update id ch = (.error (.noTicketClass id), d) := by
  have looked : s.ticketClass id = .error (.noTicketClass id) := by
    have none : s.ticketClass? id = none := Table.find?_eq_none_iff.2 absent
    rw [Store.ticketClass, none]
  simp only [update, valid, Operation.change_eq stored, looked, error_bind]

theorem update_of_apply_error (stored : d.store = some s) (valid : ch.validate = .ok ())
    (found : s.ticketClass? id = some c) {refusal : Refusal}
    (refused : ch.apply c d.now = .error refusal) : d.update id ch = (.error refusal, d) := by
  have looked := Store.ticketClass_eq_ok_iff.2 found
  simp only [update, valid, Operation.change_eq stored, looked, ok_bind, refused, error_bind]

/-- Where class and window allow it, the name alone decides. -/
theorem update_of_cover (stored : d.store = some s) (balanced : s.Balanced)
    (valid : ch.validate = .ok ()) (found : s.ticketClass? id = some c) (covers : ch.Cover c)
    (proper : ch.KeepWindow c) :
    d.update id ch =
      if s.nameIsTaken (ch.merge c d.now) then (.error (.duplicate .className), d)
      else
        (.ok (ch.merge c d.now),
          { d with store := some (s.putTicketClass (ch.merge c d.now)) }) := by
  have counters := balanced.classes c (Table.mem_of_find? found)
  have found' : s.ticketClass? c.id = some c := by
    rw [show c.id = id from Table.key_of_find? found, found]
  have applied := TicketClass.apply_of_cover counters covers proper d.now
  have looked := Store.ticketClass_eq_ok_iff.2 found
  have written := Store.updateTicketClass_merge_eq found' (counters.covered_merge covers d.now)
  simp only [update, valid, Operation.change_eq stored, looked, ok_bind, applied, written]
  by_cases taken : s.nameIsTaken (ch.merge c d.now) = true
  · simp only [if_pos taken, error_bind]
  · simp only [if_neg taken, ok_bind]
    rfl

theorem nameIsTaken_merge_iff (found : s.ticketClass? id = some c) (ch : Changes) (now : Instant) :
    s.nameIsTaken (ch.merge c now) = true ↔ ∃ other ∈ s.ticketClasses.rows, other.id ≠ id ∧
      other.event = c.event ∧ other.name = (ch.name.map Text.trim).getD c.name := by
  have sameId : c.id = id := Table.key_of_find? found
  simp only [Store.nameIsTaken, List.any_eq_true, Bool.and_eq_true, decide_eq_true_eq, and_assoc]
  rw [← sameId]
  rfl

theorem nameIsTaken_merge_eq_false_iff (found : s.ticketClass? id = some c) (ch : Changes)
    (now : Instant) : s.nameIsTaken (ch.merge c now) = false ↔ ∀ other ∈ s.ticketClasses.rows,
      other.id ≠ id → other.event = c.event →
        other.name ≠ (ch.name.map Text.trim).getD c.name := by
  rw [← Bool.not_eq_true, nameIsTaken_merge_iff found]
  simp only [not_exists, not_and, ne_eq]

/-- Every update has one of the results. -/
theorem updates_update (stored : d.store = some s) (balanced : s.Balanced) (id : Uuid)
    (ch : Changes) : s.Updates d.now id ch (d.update id ch).1 := by
  cases valid : ch.validate with
  | error reason =>
    rw [update_of_error valid]
    exact .invalid valid
  | ok =>
    cases found : s.ticketClass? id with
    | none =>
      have absent := Table.find?_eq_none_iff.1 found
      rw [update_of_missing stored valid absent]
      exact .missing valid absent
    | some c =>
      have counters := balanced.classes c (Table.mem_of_find? found)
      by_cases covers : ch.Cover c
      · by_cases proper : ch.KeepWindow c
        · rw [update_of_cover stored balanced valid found covers proper]
          cases taken : s.nameIsTaken (ch.merge c d.now) with
          | true =>
            obtain ⟨other, inClasses, isOther, sameEvent, sameName⟩ :=
              (nameIsTaken_merge_iff found ch d.now).1 taken
            exact .duplicate valid found covers proper inClasses isOther sameEvent sameName
          | false =>
            have free := (nameIsTaken_merge_eq_false_iff found ch d.now).1 taken
            exact .updated valid found covers proper free
        · have refused := TicketClass.apply_of_inverted counters covers proper d.now
          rw [update_of_apply_error stored valid found refused]
          exact .inverted valid found covers proper
      · obtain ⟨total, given, below⟩ := Changes.not_cover_iff.1 covers
        have refused := TicketClass.apply_of_below counters given below d.now
        rw [update_of_apply_error stored valid found refused]
        exact .below valid found given counters.toInt_taken (counters.toInt_taken ▸ below)

/-- A result that the reasons allow is the one that is given. -/
theorem update_eq_of_updates (stored : d.store = some s) (balanced : s.Balanced)
    {result : Except Refusal TicketClass} (updates : s.Updates d.now id ch result) :
    (d.update id ch).1 = result := by
  cases updates with
  | invalid broken => rw [update_of_error broken]
  | missing valid absent => rw [update_of_missing stored valid absent]
  | @below c total taken valid found given sum below =>
    have counters := balanced.classes c (Table.mem_of_find? found)
    have refused := TicketClass.apply_of_below counters given (sum ▸ below) d.now
    have same : taken = c.reserved + c.sold := by
      rw [← Int32.toInt_inj, sum, counters.toInt_taken]
    rw [update_of_apply_error stored valid found refused, same]
  | @inverted c valid found covers inverted =>
    have counters := balanced.classes c (Table.mem_of_find? found)
    have refused := TicketClass.apply_of_inverted counters covers inverted d.now
    rw [update_of_apply_error stored valid found refused]
  | duplicate valid found covers proper inClasses isOther sameEvent sameName =>
    have taken := (nameIsTaken_merge_iff found ch d.now).2
      ⟨_, inClasses, isOther, sameEvent, sameName⟩
    rw [update_of_cover stored balanced valid found covers proper, if_pos taken]
  | @updated c valid found covers proper free =>
    have notTaken := (nameIsTaken_merge_eq_false_iff found ch d.now).2 free
    rw [update_of_cover stored balanced valid found covers proper, notTaken]
    rfl

/-- What an update that is not refused has found and done. -/
theorem exists_of_update_eq_ok (stored : d.store = some s) (balanced : s.Balanced)
    (updated : (d.update id ch).1 = .ok c) :
    ∃ old, s.ticketClass? id = some old ∧ ch.validate = .ok () ∧ ch.Cover old ∧
      ch.KeepWindow old ∧ s.nameIsTaken (ch.merge old d.now) = false ∧ c = ch.merge old d.now ∧
        d.update id ch = (.ok c, { d with store := some (s.putTicketClass c) }) := by
  have updates := updates_update stored balanced id ch
  rw [updated] at updates
  cases updates with
  | @updated old valid found covers proper free =>
    have notTaken := (nameIsTaken_merge_eq_false_iff found ch d.now).2 free
    refine ⟨old, found, valid, covers, proper, notTaken, rfl, ?_⟩
    rw [update_of_cover stored balanced valid found covers proper, notTaken]
    rfl

/-- Changes that were made are made once more, and then nothing is different. -/
theorem update_again (stored : d.store = some s) (balanced : s.Balanced)
    (updated : (d.update id ch).1 = .ok c) :
    (d.update id ch).2.update id ch = (.ok c, (d.update id ch).2) := by
  obtain ⟨old, found, valid, covers, proper, free, rfl, eq⟩ :=
    exists_of_update_eq_ok stored balanced updated
  have sameId : (ch.merge old d.now).id = id := Table.key_of_find? found
  have counters := balanced.classes old (Table.mem_of_find? found)
  have stored' : s.ticketClass? (ch.merge old d.now).id = some old := by
    rw [sameId]
    exact found
  have balanced' : (s.putTicketClass (ch.merge old d.now)).Balanced :=
    balanced.putChanged stored' rfl rfl
      (counters.covered_of_le (counters.covered_merge covers d.now))
  have found' : (s.putTicketClass (ch.merge old d.now)).ticketClass? id =
      some (ch.merge old d.now) := by
    rw [Store.ticketClass?_put, if_pos sameId]
  have proper' : ch.KeepWindow (ch.merge old d.now) := by
    have sameStart : ch.saleStart.or (ch.saleStart.or old.saleStart) =
        ch.saleStart.or old.saleStart := by rw [← Option.or_assoc, Option.or_self]
    have sameEnd : ch.saleEnd.or (ch.saleEnd.or old.saleEnd) = ch.saleEnd.or old.saleEnd := by
      rw [← Option.or_assoc, Option.or_self]
    show ProperWindow (ch.saleStart.or (ch.saleStart.or old.saleStart))
      (ch.saleEnd.or (ch.saleEnd.or old.saleEnd))
    rw [sameStart, sameEnd]
    exact proper
  have again := update_of_cover
    (d := { d with store := some (s.putTicketClass (ch.merge old d.now)) }) rfl balanced' valid
    found' covers proper'
  rw [eq, again, TicketClass.merge_merge, Store.nameIsTaken_putTicketClass free,
    Store.putTicketClass_putTicketClass]
  rfl

/-- A class that changes may make is refused by the store for its name alone. -/
theorem updateTicketClass_of_apply (balanced : s.Balanced) {old : TicketClass} {now : Instant}
    (found : s.ticketClass? id = some old) (applied : ch.apply old now = .ok c) :
    s.updateTicketClass c = .ok (s.putTicketClass c) ∨
      s.updateTicketClass c = .error (.duplicate .className) := by
  have counters := balanced.classes old (Table.mem_of_find? found)
  have covers : ch.Cover old := by
    by_contra short
    obtain ⟨total, given, below⟩ := Changes.not_cover_iff.1 short
    rw [TicketClass.apply_of_below counters given below] at applied
    cases applied
  have found' : s.ticketClass? old.id = some old := by
    rw [show old.id = id from Table.key_of_find? found, found]
  obtain rfl := Operation.merge_of_apply applied
  rw [Store.updateTicketClass_merge_eq found' (counters.covered_merge covers now)]
  split
  · exact .inr rfl
  · exact .inl rfl

structure CreatesExactly (d : Desk) (s : Store) (draft : Draft) : Prop where
  result_iff : ∀ result,
    (d.create draft).1 = result ↔ s.Creates d.ids.draw.1 d.now draft result
  created : ∀ c, (d.create draft).1 = .ok c →
    c.status = .active ∧ c.reserved = 0 ∧ c.sold = 0 ∧ draft.Makes c d.now ∧
      (∀ old ∈ s.ticketClasses.rows, old.id ≠ c.id) ∧
      (d.create draft).2.store = some (s.putTicketClass c)
  refused : ∀ refusal, (d.create draft).1 = .error refusal → (d.create draft).2.store = some s

structure UpdatesExactly (d : Desk) (s : Store) (id : Uuid) (ch : Changes) : Prop where
  result_iff : ∀ result, (d.update id ch).1 = result ↔ s.Updates d.now id ch result
  updated : ∀ c, (d.update id ch).1 = .ok c → ∃ old, s.ticketClass? id = some old ∧
    ch.Makes old c d.now ∧ (d.update id ch).2 = { d with store := some (s.putTicketClass c) }
  refused : ∀ refusal, (d.update id ch).1 = .error refusal → (d.update id ch).2 = d
  /-- Of all the reasons that the store has for refusing what changes make, only the name is
  left. -/
  written : ∀ old c, s.ticketClass? id = some old → ch.apply old d.now = .ok c →
    s.updateTicketClass c = .ok (s.putTicketClass c) ∨
      s.updateTicketClass c = .error (.duplicate .className)
  again : ∀ c, (d.update id ch).1 = .ok c →
    (d.update id ch).2.update id ch = (.ok c, (d.update id ch).2)

theorem Sound.createsExactly (sound : d.Sound s) (noRepeat : (d.create draft).2.ids.NoRepeat) :
    d.CreatesExactly s draft := by
  constructor
  case result_iff => exact sound.create_eq_iff noRepeat
  case created =>
    intro c created
    have creates := (sound.create_eq_iff noRepeat _).1 created
    cases creates with
    | created valid free =>
      rw [create_of_valid sound.stored valid] at created noRepeat ⊢
      split at created
      · cases created
      next notTaken =>
        rw [if_neg notTaken] at noRepeat
        rw [if_neg notTaken]
        exact ⟨rfl, rfl, rfl, TicketClass.makes_ticketClass valid _ d.now,
          sound.class_new noRepeat, rfl⟩
  case refused =>
    intro refusal refused
    obtain ⟨ids, eq⟩ := Operation.create_of_refused refused
    rw [eq]
    exact sound.stored

theorem Sound.updatesExactly (sound : d.Sound s) (id : Uuid) (ch : Changes) :
    d.UpdatesExactly s id ch := by
  constructor
  case result_iff =>
    intro result
    constructor
    · rintro rfl
      exact updates_update sound.stored sound.balanced id ch
    · exact update_eq_of_updates sound.stored sound.balanced
  case updated =>
    intro c updated
    obtain ⟨old, found, valid, -, -, -, rfl, eq⟩ :=
      exists_of_update_eq_ok sound.stored sound.balanced updated
    exact ⟨old, found, TicketClass.makes_merge valid old d.now, congrArg Prod.snd eq⟩
  case refused => exact fun refusal => Operation.update_of_refused
  case written => exact fun old c => updateTicketClass_of_apply sound.balanced
  case again => exact fun c => update_again sound.stored sound.balanced

/-- What is submitted at a desk that operations can lead to is refused for the first reason on a
fixed list and else accepted: drafts by their rules and the name, changes by their rules, the class,
what is taken, the window and the name. Accepted changes are made, and to make them again changes
nothing. -/
theorem submissions_exact (reachable : d.Reachable) : ∃ s, d.store = some s ∧
    (∀ draft, (d.create draft).2.ids.NoRepeat → d.CreatesExactly s draft) ∧
      ∀ id ch, d.UpdatesExactly s id ch := by
  obtain ⟨s, sound⟩ := reachable.sound
  exact ⟨s, sound.stored, fun draft noRepeat => sound.createsExactly noRepeat,
    sound.updatesExactly⟩

/-- A new name with blanks around it, and one ticket less. -/
def stalls : Changes := ⟨some " Stalls ", none, none, some 4, none, none, none⟩

/-- There are seats already, so no more are created. They are renamed, and once more with no other
result. -/
theorem submissions_exact_concert :
    (Concert.opened.after Concert.operations).Reachable ∧
      ((Concert.opened.after Concert.operations).create (Concert.draft " Seats")).2.ids.NoRepeat ∧
      ∃ s, (Concert.opened.after Concert.operations).store = some s ∧
        s.Creates (IdSupply.numbered 4) Concert.noon (Concert.draft " Seats")
          (.error (.duplicate .className)) ∧
        ∃ c, s.Updates Concert.noon (IdSupply.numbered 0) stalls (.ok c) ∧ c.name = "Stalls" ∧
          ((Concert.opened.after Concert.operations).update (IdSupply.numbered 0) stalls).2.update
              (IdSupply.numbered 0) stalls =
            (.ok c, ((Concert.opened.after Concert.operations).update
              (IdSupply.numbered 0) stalls).2) := by
  obtain ⟨s, stored, creates, updates⟩ := submissions_exact Concert.reachable
  have drawn : ((Concert.opened.after Concert.operations).create (Concert.draft " Seats")).2.ids =
      ⟨IdSupply.numbered, 5⟩ := rfl
  have noRepeat : ((Concert.opened.after Concert.operations).create
      (Concert.draft " Seats")).2.ids.NoRepeat := by
    rw [drawn]
    unfold IdSupply.NoRepeat
    decide
  have refused : ((Concert.opened.after Concert.operations).create (Concert.draft " Seats")).1 =
      .error (.duplicate .className) := rfl
  obtain ⟨c, updated, named⟩ : ∃ c, ((Concert.opened.after Concert.operations).update
      (IdSupply.numbered 0) stalls).1 = .ok c ∧ c.name = "Stalls" := ⟨_, rfl, rfl⟩
  have exactly := updates (IdSupply.numbered 0) stalls
  exact ⟨Concert.reachable, noRepeat, s, stored, ((creates _ noRepeat).result_iff _).1 refused, c,
    (exactly.result_iff _).1 updated, named, exactly.again c updated⟩

end Desk

end BoxOffice
