import BoxOffice.Proofs.Integrity
import Mathlib.Data.List.Perm.Subperm

/-!
Availability checks. A check reads all wanted classes at once and compares counts, while to reserve
takes class after class, claims from it and writes to it. Both merge the lines that they are given,
and both stop at a sum that is out of range, each in its own way.

Here each of them is compared with the exact numbers: the tickets that lines ask for, added up
without bounds, against those that a class has left. A check says whether each class has them, and
where nothing else stands against an order this is also whether it can be reserved.
-/

namespace BoxOffice

/-! ### Merging -/

namespace Line

def tickets (items : List Line) (ticketClass : Uuid) : Int :=
  ((items.filter (·.ticketClass = ticketClass)).map (·.quantity.toInt)).sum

@[simp] theorem tickets_nil (id : Uuid) : tickets [] id = 0 := rfl

theorem tickets_cons (line : Line) (items : List Line) (id : Uuid) :
    tickets (line :: items) id =
      (if line.ticketClass = id then line.quantity.toInt else 0) + tickets items id := by
  unfold tickets
  split <;> simp [*]

theorem tickets_nonneg {items : List Line} (positive : ∀ line ∈ items, 0 < line.quantity.toInt)
    (id : Uuid) : 0 ≤ tickets items id := by
  induction items with
  | nil => simp
  | cons line items ih =>
    have head := positive line List.mem_cons_self
    have tail := ih fun other member => positive other (List.mem_cons_of_mem _ member)
    rw [tickets_cons]
    split <;> omega

end Line

theorem Quantity.plus?_eq_none {a b : Quantity} (ha : 0 ≤ a.toInt) (hb : 0 ≤ b.toInt)
    (refused : plus? a b = none) : 2 ^ 31 ≤ a.toInt + b.toInt := by
  by_contra fits
  have sum : (a + b).toInt = a.toInt + b.toInt := toInt_add_eq (by omega) (by omega)
  rw [plus?_eq_some_iff.2 sum] at refused
  cases refused

namespace Lines

/-- What merging further lines into some lines has come to, in exact numbers. -/
structure Merges (lines : Lines) (items : List Line) (merged : Lines) : Prop where
  quantity_eq : ∀ id, (merged.quantity id).toInt =
    (lines.quantity id).toInt + Line.tickets items id
  named_iff : ∀ id, (∃ line ∈ merged.rows, line.ticketClass = id) ↔
    (∃ line ∈ lines.rows, line.ticketClass = id) ∨ ∃ line ∈ items, line.ticketClass = id

variable {lines next merged : Lines} {line : Line} {items : List Line}

theorem merges_nil (lines : Lines) : lines.Merges [] lines := by
  constructor <;> simp

theorem merges_of_add? (added : lines.add? line = some next) : lines.Merges [line] next := by
  obtain ⟨sum, plus, rfl⟩ := Option.map_eq_some_iff.1 added
  have sum_eq := Quantity.plus?_eq_some_iff.1 plus
  constructor
  case quantity_eq =>
    intro id
    rw [quantity_insert, Line.tickets_cons]
    by_cases here : line.ticketClass = id
    · subst here
      simp [sum_eq]
    · simp [here]
  case named_iff =>
    intro id
    by_cases here : line.ticketClass = id
    · subst here
      have new : (⟨line.ticketClass, sum⟩ : Line) ∈ (lines.insert ⟨line.ticketClass, sum⟩).rows :=
        Table.mem_insert_iff.2 (.inl rfl)
      exact ⟨fun _ => .inr ⟨line, by simp, rfl⟩, fun _ => ⟨_, new, rfl⟩⟩
    · simp only [Table.mem_insert_iff, Keyed.key, List.mem_singleton]
      constructor
      · rintro ⟨x, rfl | ⟨old, -⟩, same⟩
        · exact absurd same here
        · exact .inl ⟨x, old, same⟩
      · rintro (⟨x, old, same⟩ | ⟨x, rfl, same⟩)
        · exact ⟨x, .inr ⟨old, fun other => here (other.symm.trans same)⟩, same⟩
        · exact absurd same here

theorem Merges.cons (first : lines.Merges [line] next) (rest : next.Merges items merged) :
    lines.Merges (line :: items) merged where
  quantity_eq id := by
    rw [rest.quantity_eq, first.quantity_eq, Line.tickets_cons, Line.tickets_cons, Line.tickets_nil]
    omega
  named_iff id := by
    rw [rest.named_iff, first.named_iff]
    simp [or_assoc]

/-- Lines that an order accepts are merged. -/
theorem merges_of_ofRequest (accepted : lines.ofRequest items = .ok merged) :
    lines.Merges items merged := by
  induction items generalizing lines with
  | nil => exact Except.ok.inj accepted ▸ lines.merges_nil
  | cons line items ih =>
    rw [ofRequest] at accepted
    split at accepted
    · cases accepted
    · split at accepted
      · cases accepted
      · split at accepted
        next next added => exact (merges_of_add? added).cons (ih accepted)
        next => cases accepted

theorem merges_of_ofOrder {order : Uuid} (accepted : ofOrder order items = .ok merged) :
    Merges .empty items merged := by
  unfold ofOrder at accepted
  split at accepted
  · cases accepted
  · split at accepted
    · cases accepted
    · exact merges_of_ofRequest accepted

/-- Lines merged from nothing are for the classes that they were merged for. -/
theorem Merges.named_iff_of_empty (merges : Merges .empty items merged) (id : Uuid) :
    (∃ line ∈ merged.rows, line.ticketClass = id) ↔ ∃ line ∈ items, line.ticketClass = id := by
  rw [merges.named_iff]
  exact or_iff_right fun ⟨_, member, _⟩ => absurd member List.not_mem_nil

end Lines

namespace Wanted

/-- Lines that ask for tickets are merged, unless those of one class are more than any class can
have. -/
theorem ofItems_cases {items : List Line} (positive : ∀ line ∈ items, 0 < line.quantity.toInt)
    {lines : Lines} (nonneg : ∀ id, 0 ≤ (lines.quantity id).toInt) :
    (∃ merged, ofItems lines items = .ok (.lines merged) ∧ lines.Merges items merged) ∨
      ofItems lines items = .ok .tooMany ∧ ∃ line ∈ items,
        2 ^ 31 ≤ (lines.quantity line.ticketClass).toInt + Line.tickets items line.ticketClass := by
  induction items generalizing lines with
  | nil => exact .inl ⟨lines, rfl, lines.merges_nil⟩
  | cons line items ih =>
    have some := positive line List.mem_cons_self
    have positiveRest : ∀ other ∈ items, 0 < other.quantity.toInt := fun other member =>
      positive other (List.mem_cons_of_mem _ member)
    have rest := Line.tickets_nonneg positiveRest
    have accepted : ¬line.quantity ≤ 0 := by
      rw [Int32.le_iff_toInt_le, Int32.toInt_zero]
      omega
    rw [ofItems, if_neg accepted]
    cases added : lines.add? line with
    | none =>
      have tooMuch := Quantity.plus?_eq_none (nonneg line.ticketClass) (Int.le_of_lt some)
        (Option.map_eq_none_iff.1 added)
      refine .inr ⟨rfl, line, List.mem_cons_self, ?_⟩
      have rest := rest line.ticketClass
      rw [Line.tickets_cons, if_pos rfl]
      omega
    | some next =>
      have first := Lines.merges_of_add? added
      have nonnegNext : ∀ id, 0 ≤ (next.quantity id).toInt := fun id => by
        have before := nonneg id
        have one : 0 ≤ Line.tickets [line] id := Line.tickets_nonneg (by simpa using some) id
        rw [first.quantity_eq]
        omega
      rcases ih positiveRest nonnegNext with ⟨merged, eq, merges⟩ | ⟨eq, other, member, tooMuch⟩
      · exact .inl ⟨merged, eq, first.cons merges⟩
      · refine .inr ⟨eq, other, List.mem_cons_of_mem _ member, ?_⟩
        rw [first.quantity_eq, Line.tickets_cons, Line.tickets_nil] at tooMuch
        rw [Line.tickets_cons]
        omega

theorem ofItems_empty_cases {items : List Line}
    (positive : ∀ line ∈ items, 0 < line.quantity.toInt) :
    (∃ merged, ofItems .empty items = .ok (.lines merged) ∧ Lines.Merges .empty items merged) ∨
      ofItems .empty items = .ok .tooMany ∧ ∃ line ∈ items,
        2 ^ 31 ≤ Line.tickets items line.ticketClass := by
  have none (id : Uuid) : (Lines.quantity .empty id).toInt = 0 := rfl
  simpa only [none, Int.zero_add] using ofItems_cases positive fun id => Int.le_of_eq (none id).symm

/-- What an order makes of merged lines: more than any class can have is refused. -/
def demand : Wanted → Except Invalid Lines
  | lines merged => .ok merged
  | tooMany => .error .quantityTooLarge

end Wanted

/-- An order merges lines that name classes as a check does. -/
theorem Lines.ofRequest_eq {items : List Line} (named : ∀ line ∈ items, line.ticketClass ≠ .nil)
    (lines : Lines) :
    lines.ofRequest items = (Wanted.ofItems lines items).bind Wanted.demand := by
  induction items generalizing lines with
  | nil => rfl
  | cons line items ih =>
    have name : line.ticketClass.isNil = false :=
      Uuid.isNil_eq_false_iff.2 (named line List.mem_cons_self)
    have rest := ih fun other member => named other (List.mem_cons_of_mem _ member)
    rw [ofRequest, Wanted.ofItems, name, if_neg Bool.false_ne_true]
    by_cases low : line.quantity ≤ 0
    · rw [if_pos low, if_pos low]
      rfl
    · rw [if_neg low, if_neg low]
      cases lines.add? line with
      | none => rfl
      | some next => exact rest next

namespace Store

variable {s : Store} {items : List Line}

/-! ### Checking -/

theorem mem_list_iff {f : TicketClass.Filter} {c : TicketClass} :
    c ∈ s.list f ↔ c ∈ s.ticketClasses.rows ∧ f.admits c = true := by
  rw [list, List.mem_mergeSort, List.mem_filter]

theorem nodup_ids_list (s : Store) (f : TicketClass.Filter) : ((s.list f).map (·.id)).Nodup := by
  have listed : (s.list f).Nodup :=
    (List.mergeSort_perm _ _).nodup_iff.2 (s.ticketClasses.nodup_rows.filter _)
  exact listed.map_on fun a ha b hb same =>
    Table.eq_of_key_eq (mem_list_iff.1 ha).1 (mem_list_iff.1 hb).1 same

theorem admits_ids_iff {ids : List Uuid} (nonempty : ids ≠ []) {c : TicketClass} :
    (⟨none, ids⟩ : TicketClass.Filter).admits c = true ↔ c.id ∈ ids := by
  simp [TicketClass.Filter.admits, nonempty]

/-- Two lists of identifiers without repetition are of one length exactly when the first, all of
which is in the second, is all of it. -/
theorem length_eq_iff_subset {ids ids' : List Uuid} (nodup : ids.Nodup) (nodup' : ids'.Nodup)
    (listed : ids ⊆ ids') : ids.length = ids'.length ↔ ids' ⊆ ids := by
  have within : ids.Subperm ids' := List.subperm_of_subset nodup listed
  constructor
  · intro same
    exact (within.perm_of_length_le (Nat.le_of_eq same.symm)).symm.subset
  · intro all
    have back : ids'.Subperm ids := List.subperm_of_subset nodup' all
    exact Nat.le_antisymm within.length_le back.length_le

/-- Merged lines can be served when the class of each exists and has enough tickets. -/
theorem canServe_iff {wanted : Lines} (nonempty : wanted.rows ≠ []) :
    s.canServe wanted = true ↔ ∀ line ∈ wanted.rows, ∃ c ∈ s.ticketClasses.rows,
      c.id = line.ticketClass ∧ line.quantity ≤ c.available := by
  let ids := wanted.rows.map (·.ticketClass)
  have idsNonempty : ids ≠ [] := by simpa [ids] using nonempty
  have found {c : TicketClass} : c ∈ s.list ⟨none, ids⟩ ↔ c ∈ s.ticketClasses.rows ∧ c.id ∈ ids :=
    mem_list_iff.trans (and_congr_right fun _ => admits_ids_iff idsNonempty)
  have wantedIds : ids.Nodup := wanted.nodup_keys
  have listed : (s.list ⟨none, ids⟩).map (·.id) ⊆ ids := by
    intro id member
    obtain ⟨c, inList, rfl⟩ := List.mem_map.1 member
    exact (found.1 inList).2
  -- As many classes were found as are wanted: that is, each wanted class was found.
  have lengths : (s.list ⟨none, ids⟩).length = wanted.rows.length ↔
      ids ⊆ (s.list ⟨none, ids⟩).map (·.id) := by
    rw [← length_eq_iff_subset (s.nodup_ids_list _) wantedIds listed]
    simp [ids]
  have enough {c : TicketClass} {line : Line} (inLines : line ∈ wanted.rows)
      (same : c.id = line.ticketClass) : wanted.quantity c.id = line.quantity := by
    rw [same, Lines.quantity_of_mem inLines]
  simp only [canServe, Bool.and_eq_true, decide_eq_true_eq, List.all_eq_true]
  rw [lengths]
  constructor
  · rintro ⟨all, served⟩ line inLines
    obtain ⟨c, inList, same⟩ := List.mem_map.1 (all (List.mem_map_of_mem inLines))
    exact ⟨c, (found.1 inList).1, same, enough inLines same ▸ served c inList⟩
  · intro served
    constructor
    · intro id member
      obtain ⟨line, inLines, rfl⟩ := List.mem_map.1 member
      obtain ⟨c, stored, same, -⟩ := served line inLines
      exact List.mem_map.2 ⟨c, found.2 ⟨stored, same ▸ member⟩, same⟩
    · intro c inList
      obtain ⟨stored, member⟩ := found.1 inList
      obtain ⟨line, inLines, same⟩ := List.mem_map.1 member
      obtain ⟨c', stored', same', room⟩ := served line inLines
      obtain rfl := Table.eq_of_key_eq stored' stored (same'.trans same)
      exact (enough inLines same') ▸ room

/-- Every class that lines name exists, and has as many tickets left as they ask for together. -/
def Covers (s : Store) (items : List Line) : Prop :=
  ∀ line ∈ items, ∃ c ∈ s.ticketClasses.rows, c.id = line.ticketClass ∧
    Line.tickets items line.ticketClass ≤ c.total.toInt - c.reserved.toInt - c.sold.toInt

instance (s : Store) (items : List Line) : Decidable (s.Covers items) :=
  inferInstanceAs (Decidable (∀ line ∈ items, ∃ c ∈ s.ticketClasses.rows, c.id = line.ticketClass ∧
    Line.tickets items line.ticketClass ≤ c.total.toInt - c.reserved.toInt - c.sold.toInt))

/-- Merged lines are covered as the lines are that they were merged from. -/
theorem Balanced.covers_iff (balanced : s.Balanced) {merged : Lines}
    (merges : Lines.Merges .empty items merged) :
    s.Covers items ↔ ∀ line ∈ merged.rows, ∃ c ∈ s.ticketClasses.rows,
      c.id = line.ticketClass ∧ line.quantity ≤ c.available := by
  have named := merges.named_iff_of_empty
  have exact {line : Line} (inLines : line ∈ merged.rows) :
      line.quantity.toInt = Line.tickets items line.ticketClass := by
    rw [← Lines.quantity_of_mem inLines, merges.quantity_eq]
    exact Int.zero_add _
  constructor
  · intro covers line inLines
    obtain ⟨item, inItems, sameClass⟩ := (named line.ticketClass).1 ⟨line, inLines, rfl⟩
    obtain ⟨c, stored, same, room⟩ := covers item inItems
    refine ⟨c, stored, same.trans sameClass, Int32.le_iff_toInt_le.2 ?_⟩
    rwa [exact inLines, (balanced.classes c stored).toInt_available, ← sameClass]
  · intro covers item inItems
    obtain ⟨line, inLines, sameClass⟩ := (named item.ticketClass).2 ⟨item, inItems, rfl⟩
    obtain ⟨c, stored, same, room⟩ := covers line inLines
    refine ⟨c, stored, same.trans sameClass, ?_⟩
    rwa [Int32.le_iff_toInt_le, exact inLines, (balanced.classes c stored).toInt_available,
      sameClass] at room

/-- More tickets than can be counted are not there. -/
theorem not_covers_of_tooMany {line : Line} (member : line ∈ items)
    (tooMuch : 2 ^ 31 ≤ Line.tickets items line.ticketClass) (balanced : s.Balanced) :
    ¬s.Covers items := by
  intro covers
  obtain ⟨c, stored, -, room⟩ := covers line member
  have counters := balanced.classes c stored
  have top := Quantity.toInt_lt c.total
  have reserved := counters.reserved_nonneg
  have sold := counters.sold_nonneg
  omega

/-! ### Reserving -/

variable {order : Uuid} {expiresAt now : Instant} {ids : IdSupply} {lines : List Line}

theorem hasLine_holdLine_eq_false (c : TicketClass) {r : Reservation} {id : Uuid}
    (other : r.ticketClass ≠ id) (single : s.hasLine order id = false) :
    (s.holdLine c r).hasLine order id = false := by
  rw [hasLine_eq_false_iff] at single ⊢
  intro x stored ofOrder
  rcases Table.mem_insert_iff.1 stored with rfl | ⟨old, -⟩
  · exact other
  · exact single x old ofOrder

theorem exists_withFirst_iff {r : Reservation}
    {result : Except Refusal (List Reservation × Store) × IdSupply} :
    (∃ reserved, (withFirst r result).1 = .ok reserved) ↔ ∃ reserved, result.1 = .ok reserved := by
  obtain ⟨refusal | ⟨rows, s⟩, ids⟩ := result <;> simp [withFirst]

/-- Lines of classes that the order has no reservation of are reserved exactly when each could be
reserved alone, whatever identifiers the supply gives. -/
theorem reserveLines_ok_iff (sorted : lines.Pairwise fun a b => Keyed.key a < Keyed.key b)
    (single : ∀ line ∈ lines, s.hasLine order line.ticketClass = false) :
    (∃ reserved, (reserveLines order expiresAt now lines s ids).1 = .ok reserved) ↔
      ∀ line ∈ lines, s.CanReserve order now line := by
  induction lines generalizing s ids with
  | nil => exact ⟨fun _ _ member => absurd member List.not_mem_nil, fun _ => ⟨_, rfl⟩⟩
  | cons line lines ih =>
    obtain ⟨before, sortedRest⟩ := List.pairwise_cons.1 sorted
    by_cases can : s.CanReserve order now line
    · obtain ⟨c, found, -⟩ := can.room
      have apart (other : Line) (member : other ∈ lines) : line.ticketClass ≠ other.ticketClass :=
        Table.key_ne_of_lt (before other member)
      let held := Reservation.hold ids.draw.1 order line expiresAt now
      have singleRest : ∀ other ∈ lines,
          (s.holdLine c held).hasLine order other.ticketClass = false := fun other member =>
        hasLine_holdLine_eq_false c (apart other member)
          (single other (List.mem_cons_of_mem _ member))
      have rest : (∀ other ∈ lines, (s.holdLine c held).CanReserve order now other) ↔
          ∀ other ∈ lines, s.CanReserve order now other := by
        refine forall₂_congr fun other member => ?_
        have sameId : c.id = line.ticketClass := Table.key_of_find? found
        have looked : (s.holdLine c held).ticketClass? other.ticketClass =
            s.ticketClass? other.ticketClass :=
          ticketClass?_holdLine_of_ne (sameId ▸ apart other member)
        exact ⟨fun can => ⟨looked ▸ can.room, single other (List.mem_cons_of_mem _ member)⟩,
          fun can => ⟨looked.symm ▸ can.room, singleRest other member⟩⟩
      rw [can.reserveLines_cons found, exists_withFirst_iff, ih sortedRest singleRest, rest,
        List.forall_mem_cons, and_iff_right can]
    · obtain ⟨refusal, refused⟩ :
          ∃ refusal, (reserveLines order expiresAt now (line :: lines) s ids).1 = .error refusal :=
        reserveLines_cons_of_not can lines
      simp [refused, can]

end Store

namespace Desk

variable {d : Desk} {s : Store} {items : List Line}

/-- A check adds up what is asked for and what is left as if there were no bounds. -/
theorem Sound.check_eq (sound : d.Sound s) (nonempty : items ≠ [])
    (positive : ∀ line ∈ items, 0 < line.quantity.toInt) :
    (d.check items).1 = .ok (decide (s.Covers items)) := by
  rcases Wanted.ofItems_empty_cases positive with
    ⟨merged, eq, merges⟩ | ⟨eq, line, member, tooMuch⟩
  · have rows : merged.rows ≠ [] := by
      obtain ⟨item, inItems⟩ := List.exists_mem_of_ne_nil items nonempty
      obtain ⟨line, inLines, -⟩ :=
        (merges.named_iff item.ticketClass).2 (.inr ⟨item, inItems, rfl⟩)
      exact List.ne_nil_of_mem inLines
    have served : s.canServe merged = decide (s.Covers items) := by
      rw [Bool.eq_iff_iff, decide_eq_true_iff, Store.canServe_iff rows,
        sound.balanced.covers_iff merges]
    simp only [check, eq, List.isEmpty_iff, rows, if_false, look, reach, sound.stored, ← served]
    rfl
  · simp only [check, eq, Store.not_covers_of_tooMany member tooMuch sound.balanced, decide_false]

/-- Where nothing else stands against an order, it is reserved if the tickets are there. -/
theorem Sound.reserve_ok_iff (sound : d.Sound s) {order : Uuid} {expiresAt : Instant}
    (nonempty : items ≠ [])
    (proper : ∀ line ∈ items, 0 < line.quantity.toInt ∧ line.ticketClass ≠ .nil)
    (named : order ≠ .nil) (ahead : d.now < expiresAt)
    (single : ∀ r ∈ s.reservations.rows, r.order = order →
      ∀ line ∈ items, r.ticketClass ≠ line.ticketClass)
    (onSale : ∀ line ∈ items, ∀ c ∈ s.ticketClasses.rows, c.id = line.ticketClass →
      c.OnSale d.now) :
    (∃ rows, (d.reserve order items expiresAt).1 = .ok rows) ↔ s.Covers items := by
  have ahead : ¬expiresAt ≤ d.now := Int.not_le.2 ahead
  have ofOrder : Lines.ofOrder order items =
      (Wanted.ofItems .empty items).bind Wanted.demand := by
    rw [Lines.ofOrder, Uuid.isNil_eq_false_iff.2 named, ← Lines.ofRequest_eq
      (fun line member => (proper line member).2)]
    simp [nonempty]
  rcases Wanted.ofItems_empty_cases fun line member => (proper line member).1 with
    ⟨merged, eq, merges⟩ | ⟨eq, line, member, tooMuch⟩
  · rw [eq] at ofOrder
    have accepted : Lines.ofOrder order items = .ok merged := ofOrder
    have fromItems {line : Line} (inLines : line ∈ merged.rows) :
        ∃ item ∈ items, item.ticketClass = line.ticketClass := by
      rcases (merges.named_iff line.ticketClass).1 ⟨line, inLines, rfl⟩ with ⟨_, none, _⟩ | named
      · exact absurd none List.not_mem_nil
      · exact named
    have singleLines : ∀ line ∈ merged.rows, s.hasLine order line.ticketClass = false := by
      intro line inLines
      obtain ⟨item, inItems, same⟩ := fromItems inLines
      exact Store.hasLine_eq_false_iff.2 fun r stored ofOrder =>
        same ▸ single r stored ofOrder item inItems
    have ok_iff : (∃ rows, (d.reserve order items expiresAt).1 = .ok rows) ↔
        ∃ reserved, (s.reserve d.ids order merged expiresAt d.now).1 = .ok reserved := by
      simp only [reserve, accepted, if_neg ahead, sound.stored]
      rcases s.reserve d.ids order merged expiresAt d.now with ⟨refusal | ⟨rows, s'⟩, ids⟩ <;> simp
    rw [ok_iff, Store.reserve, Store.reserveLines_ok_iff merged.sorted singleLines,
      sound.balanced.covers_iff merges]
    refine forall₂_congr fun line inLines => ?_
    constructor
    · rintro ⟨⟨c, found, -, room⟩, -⟩
      exact ⟨c, Table.mem_of_find? found, Table.key_of_find? found, room⟩
    · rintro ⟨c, stored, same, room⟩
      obtain ⟨item, inItems, sameClass⟩ := fromItems inLines
      have found : s.ticketClass? line.ticketClass = some c :=
        Table.find?_eq_some_iff.2 ⟨stored, same⟩
      have onSaleNow := onSale item inItems c stored (same.trans sameClass.symm)
      exact ⟨⟨c, found, TicketClass.isOnSale_iff.2 onSaleNow, room⟩, singleLines line inLines⟩
  · rw [eq] at ofOrder
    have refused : Lines.ofOrder order items = .error .quantityTooLarge := ofOrder
    simp only [reserve, refused, refuse, Store.not_covers_of_tooMany member tooMuch sound.balanced,
      iff_false]
    rintro ⟨rows, failed⟩
    cases failed

/-- An availability check says whether every class that is asked for exists and has the tickets
left, counted without bounds. An order of the same lines is then reserved exactly when the check
says so, if it has no reservations of these classes, its deadline is ahead and the classes are on
sale. -/
theorem check_agrees_with_reserve (reachable : d.Reachable) :
    ∃ s, d.store = some s ∧ ∀ items : List Line, items ≠ [] →
      (∀ line ∈ items, 0 < line.quantity.toInt ∧ line.ticketClass ≠ .nil) →
        (d.check items).1 = .ok (decide (s.Covers items)) ∧
        ∀ order expiresAt, order ≠ .nil → d.now < expiresAt →
          (∀ r ∈ s.reservations.rows, r.order = order →
            ∀ line ∈ items, r.ticketClass ≠ line.ticketClass) →
          (∀ line ∈ items, ∀ c ∈ s.ticketClasses.rows, c.id = line.ticketClass →
            c.OnSale d.now) →
          ((∃ rows, (d.reserve order items expiresAt).1 = .ok rows) ↔
            (d.check items).1 = .ok true) := by
  obtain ⟨s, sound⟩ := reachable.sound
  refine ⟨s, sound.stored, fun items nonempty proper => ?_⟩
  have checked := sound.check_eq nonempty fun line member => (proper line member).1
  refine ⟨checked, fun order expiresAt named ahead single onSale => ?_⟩
  rw [sound.reserve_ok_iff nonempty proper named ahead single onSale, checked]
  exact ⟨fun covers => congrArg _ (decide_eq_true covers),
    fun same => of_decide_eq_true (Except.ok.inj same)⟩

/-- Four of the standing places that are left and a seat, in three lines. -/
def mixture : List Line :=
  [⟨IdSupply.numbered 1, 3⟩, ⟨IdSupply.numbered 0, 1⟩, ⟨IdSupply.numbered 1, 1⟩]

/-- The check admits the mixture, so an order that is new can reserve it. -/
theorem check_agrees_with_reserve_concert :
    (Concert.opened.after Concert.operations).Reachable ∧
      ((Concert.opened.after Concert.operations).check mixture).1 = .ok true ∧
      ∃ rows, ((Concert.opened.after Concert.operations).reserve (.ofNat 10) mixture
        Concert.oneOClock).1 = .ok rows := by
  obtain ⟨s, stored, agrees⟩ := check_agrees_with_reserve Concert.reachable
  have covered : ((Concert.opened.after Concert.operations).store.all fun s =>
      s.Covers mixture) = true := rfl
  have others : ((Concert.opened.after Concert.operations).store.all fun s =>
      s.reservations.rows.all fun r => r.order ≠ .ofNat 10) = true := rfl
  have onSale : ((Concert.opened.after Concert.operations).store.all fun s =>
      s.ticketClasses.rows.all (·.isOnSale Concert.noon)) = true := rfl
  rw [stored] at covered others onSale
  simp only [Option.all_some, List.all_eq_true, decide_eq_true_eq] at covered others onSale
  have ahead : Concert.noon < Concert.oneOClock := by decide
  obtain ⟨checked, reserves⟩ := agrees mixture (by decide) (by decide)
  have admitted : ((Concert.opened.after Concert.operations).check mixture).1 = .ok true := by
    rw [checked, decide_eq_true covered]
  have reserved := (reserves (.ofNat 10) Concert.oneOClock (by decide) ahead
    (fun r member ofOrder => absurd ofOrder (others r member))
    fun _ _ c member _ => TicketClass.isOnSale_iff.1 (onSale c member)).2 admitted
  exact ⟨Concert.reachable, admitted, reserved⟩

end Desk

end BoxOffice
