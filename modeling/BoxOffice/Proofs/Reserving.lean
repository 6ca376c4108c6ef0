import BoxOffice.Proofs.Footprints
import BoxOffice.Proofs.Rearranging
import BoxOffice.Proofs.Rollback

/-!
Reserving, exactly. Lines are merged, claimed and inserted one class after the other, and each step
may refuse for a reason of its own. What comes of it can nevertheless be read off the store before
the first step: an order is reserved exactly when every class grants what is wanted of it
altogether, and else the smallest class that does not says why.
-/

namespace BoxOffice

/-! ### What is asked for -/

/-- An order that is in itself fit to be reserved. -/
structure ProperOrder (order : Uuid) (items : List Line) (expiresAt now : Instant) : Prop where
  named : order ≠ .nil
  nonempty : items ≠ []
  classes : ∀ line ∈ items, line.ticketClass ≠ .nil
  positive : ∀ line ∈ items, 0 < line.quantity.toInt
  countable : ∀ id, Line.tickets items id < 2 ^ 31
  ahead : now < expiresAt

namespace Lines

variable {items : List Line} {lines merged : Lines} {order : Uuid}

theorem proper_of_ofRequest (accepted : lines.ofRequest items = .ok merged) :
    ∀ line ∈ items, line.ticketClass ≠ .nil ∧ 0 < line.quantity.toInt := by
  induction items generalizing lines with
  | nil => exact fun _ member => absurd member List.not_mem_nil
  | cons line items ih =>
    rw [ofRequest] at accepted
    split at accepted
    · cases accepted
    next named =>
      split at accepted
      · cases accepted
      next high =>
        split at accepted
        next next _ =>
          refine List.forall_mem_cons.2 ⟨⟨?_, ?_⟩, ih accepted⟩
          · exact Uuid.isNil_eq_false_iff.1 (by simpa using named)
          · rw [Int32.le_iff_toInt_le, Int32.toInt_zero] at high
            omega
        next => cases accepted

/-- An order accepts lines that ask for tickets, and no more of one class than can be counted. -/
theorem ofOrder_eq_ok_iff : (∃ lines, ofOrder order items = .ok lines) ↔
    order ≠ .nil ∧ items ≠ [] ∧ (∀ line ∈ items, line.ticketClass ≠ .nil) ∧
      (∀ line ∈ items, 0 < line.quantity.toInt) ∧ ∀ id, Line.tickets items id < 2 ^ 31 := by
  constructor
  · rintro ⟨lines, accepted⟩
    have merges := merges_of_ofOrder accepted
    unfold ofOrder at accepted
    split at accepted
    · cases accepted
    next named =>
      split at accepted
      · cases accepted
      next nonempty =>
        have proper := proper_of_ofRequest accepted
        refine ⟨Uuid.isNil_eq_false_iff.1 (by simpa using named), by simpa using nonempty,
          fun line member => (proper line member).1, fun line member => (proper line member).2,
          fun id => ?_⟩
        have top := Quantity.toInt_lt (lines.quantity id)
        have none : (quantity .empty id).toInt = 0 := rfl
        rw [merges.quantity_eq, none] at top
        omega
  · rintro ⟨named, nonempty, classes, positive, countable⟩
    have ofOrder_eq : ofOrder order items = (Wanted.ofItems .empty items).bind Wanted.demand := by
      rw [ofOrder, Uuid.isNil_eq_false_iff.2 named, ← ofRequest_eq classes]
      simp [nonempty]
    rcases Wanted.ofItems_of_positive positive with ⟨⟨id, tooMany⟩, -⟩ | ⟨-, merged, eq, -⟩
    · exact absurd (countable id) (Int.not_lt.2 tooMany)
    · exact ⟨merged, by rw [ofOrder_eq, eq]; rfl⟩

/-- Merged lines ask for all that the lines of one class ask for. -/
theorem Merges.quantity_of_mem (merges : Merges .empty items merged) {line : Line}
    (member : line ∈ merged.rows) : line.quantity.toInt = Line.tickets items line.ticketClass := by
  rw [← Lines.quantity_of_mem member, merges.quantity_eq]
  exact Int.zero_add _

/-- Something is so for all merged lines when it is so for what is wanted altogether. -/
theorem Merges.forall_iff (merges : Merges .empty items merged) {P : Uuid → Int → Prop} :
    (∀ line ∈ merged.rows, P line.ticketClass line.quantity.toInt) ↔
      ∀ line ∈ items, P line.ticketClass (Line.tickets items line.ticketClass) := by
  constructor
  · intro all item inItems
    obtain ⟨line, inRows, same⟩ := (merges.named_iff_of_empty _).2 ⟨item, inItems, rfl⟩
    rw [← same, ← merges.quantity_of_mem inRows]
    exact all line inRows
  · intro all line inRows
    obtain ⟨item, inItems, same⟩ := (merges.named_iff_of_empty _).1 ⟨line, inRows, rfl⟩
    rw [merges.quantity_of_mem inRows, ← same]
    exact all item inItems

theorem Merges.exists_iff (merges : Merges .empty items merged) {P : Uuid → Int → Prop} :
    (∃ line ∈ merged.rows, P line.ticketClass line.quantity.toInt) ↔
      ∃ line ∈ items, P line.ticketClass (Line.tickets items line.ticketClass) := by
  rw [← not_iff_not]
  simpa only [not_exists, not_and] using merges.forall_iff (P := fun id wanted => ¬P id wanted)

end Lines

/-- Of the rows of a table, the one with the smallest key for which there is an answer gives it. -/
theorem Table.findSome?_eq_some_iff {α β : Type} [Keyed α] {t : Table α} {answer? : α → Option β}
    {answer : β} : t.rows.findSome? answer? = some answer ↔ ∃ row ∈ t.rows,
      answer? row = some answer ∧
        ∀ other ∈ t.rows, Keyed.key other < Keyed.key row → answer? other = none := by
  rw [List.findSome?_eq_some_iff]
  constructor
  · rintro ⟨front, row, rest, eq, found, before⟩
    have sorted := t.sorted
    rw [eq, List.pairwise_append, List.pairwise_cons] at sorted
    refine ⟨row, by simp [eq], found, fun other inRows less => ?_⟩
    rw [eq, List.mem_append, List.mem_cons] at inRows
    rcases inRows with inFront | rfl | inRest
    · exact before other inFront
    · exact absurd less (Nat.lt_irrefl _)
    · exact absurd (Nat.lt_trans less (sorted.2.1.1 other inRest)) (Nat.lt_irrefl _)
  · rintro ⟨row, inRows, found, before⟩
    obtain ⟨front, rest, eq⟩ := List.append_of_mem inRows
    have sorted := t.sorted
    rw [eq, List.pairwise_append] at sorted
    exact ⟨front, row, rest, eq, found, fun other inFront => before other (by simp [eq, inFront])
      (sorted.2.2 other inFront row List.mem_cons_self)⟩

/-! ### What the store says -/

namespace Store

/-- As many tickets of a class as an order wants can be reserved for it. -/
structure Grants (s : Store) (order : Uuid) (now : Instant) (id : Uuid) (wanted : Int) : Prop where
  room : ∃ c ∈ s.ticketClasses.rows, c.id = id ∧ c.OnSale now ∧
    wanted ≤ c.total.toInt - c.reserved.toInt - c.sold.toInt
  single : ∀ r ∈ s.reservations.rows, r.order = order → r.ticketClass ≠ id

/-- Why an order gets no tickets of a class. A reason counts if those before it do not apply. -/
inductive Denies (s : Store) (order : Uuid) (now : Instant) (id : Uuid) (wanted : Int) :
    Refusal → Prop
  | missing (absent : ∀ c ∈ s.ticketClasses.rows, c.id ≠ id) :
    Denies s order now id wanted (.noTicketClass id)
  | closed {c : TicketClass} (stored : c ∈ s.ticketClasses.rows) (same : c.id = id)
      (closed : ¬c.OnSale now) : Denies s order now id wanted (.invalid (.notOnSale id))
  | short {c : TicketClass} (stored : c ∈ s.ticketClasses.rows) (same : c.id = id)
      (onSale : c.OnSale now) {requested available : Quantity}
      (requests : requested.toInt = wanted)
      (left : available.toInt = c.total.toInt - c.reserved.toInt - c.sold.toInt)
      (short : available.toInt < wanted) :
    Denies s order now id wanted (.insufficientStock id requested available)
  | again {c : TicketClass} (stored : c ∈ s.ticketClasses.rows) (same : c.id = id)
      (onSale : c.OnSale now)
      (room : wanted ≤ c.total.toInt - c.reserved.toInt - c.sold.toInt) {r : Reservation}
      (reserved : r ∈ s.reservations.rows) (ofOrder : r.order = order)
      (ofClass : r.ticketClass = id) : Denies s order now id wanted (.duplicate .orderLine)

variable {s : Store} {order : Uuid} {now expiresAt : Instant} {line : Line} {refusal : Refusal}

theorem hasLine_eq_true_iff {id : Uuid} : s.hasLine order id = true ↔
    ∃ r ∈ s.reservations.rows, r.order = order ∧ r.ticketClass = id := by
  simp [hasLine]

theorem Balanced.objection?_eq_none_iff (balanced : s.Balanced) :
    s.objection? order now line = none ↔
      s.Grants order now line.ticketClass line.quantity.toInt := by
  rw [Store.objection?_eq_none_iff]
  constructor
  · rintro ⟨⟨c, found, onSale, room⟩, single⟩
    have stored := Table.mem_of_find? found
    rw [Int32.le_iff_toInt_le, (balanced.classes c stored).toInt_available] at room
    exact ⟨⟨c, stored, Table.key_of_find? found, TicketClass.isOnSale_iff.1 onSale, room⟩,
      hasLine_eq_false_iff.1 single⟩
  · rintro ⟨⟨c, stored, same, onSale, room⟩, single⟩
    rw [← (balanced.classes c stored).toInt_available, ← Int32.le_iff_toInt_le] at room
    exact ⟨⟨c, Table.find?_eq_some_iff.2 ⟨stored, same⟩, TicketClass.isOnSale_iff.2 onSale, room⟩,
      hasLine_eq_false_iff.2 single⟩

theorem Balanced.objection?_eq_some_iff (balanced : s.Balanced) :
    s.objection? order now line = some refusal ↔
      s.Denies order now line.ticketClass line.quantity.toInt refusal := by
  have exact {c : TicketClass} (stored : c ∈ s.ticketClasses.rows) :
      c.available.toInt = c.total.toInt - c.reserved.toInt - c.sold.toInt :=
    (balanced.classes c stored).toInt_available
  constructor
  · intro objection
    unfold objection? at objection
    split at objection
    next missing =>
      obtain rfl := Option.some.inj objection
      exact .missing (Table.find?_eq_none_iff.1 missing)
    next c found =>
      have stored := Table.mem_of_find? found
      have same : c.id = line.ticketClass := Table.key_of_find? found
      split at objection
      next closed =>
        obtain rfl := Option.some.inj objection
        exact .closed stored same (TicketClass.isOnSale_eq_false_iff.1 (by simpa using closed))
      next onSale =>
        have onSale : c.OnSale now := TicketClass.isOnSale_iff.1 (by simpa using onSale)
        split at objection
        next short =>
          obtain rfl := Option.some.inj objection
          exact .short stored same onSale rfl (exact stored) (Int32.lt_iff_toInt_lt.1 short)
        next room =>
          split at objection
          next again =>
            obtain rfl := Option.some.inj objection
            obtain ⟨r, reserved, ofOrder, ofClass⟩ := hasLine_eq_true_iff.1 again
            refine .again stored same onSale ?_ reserved ofOrder ofClass
            rw [← exact stored]
            exact Int32.le_iff_toInt_le.1 (Int32.not_lt.1 room)
          next => cases objection
  · intro denies
    have found {c : TicketClass} (stored : c ∈ s.ticketClasses.rows)
        (same : c.id = line.ticketClass) : s.ticketClass? line.ticketClass = some c :=
      Table.find?_eq_some_iff.2 ⟨stored, same⟩
    cases denies with
    | missing absent =>
      have none : s.ticketClass? line.ticketClass = none := Table.find?_eq_none_iff.2 absent
      simp [objection?, none]
    | closed stored same closed =>
      simp [objection?, found stored same, TicketClass.isOnSale_eq_false_iff.2 closed]
    | short stored same onSale requests left short =>
      rw [← exact stored] at left
      obtain rfl := Int32.toInt_inj.1 left
      obtain rfl := Int32.toInt_inj.1 requests
      simp [objection?, found stored same, TicketClass.isOnSale_iff.2 onSale,
        Int32.lt_iff_toInt_lt.2 short]
    | again stored same onSale room reserved ofOrder ofClass =>
      rw [← exact stored, ← Int32.le_iff_toInt_le] at room
      have again := hasLine_eq_true_iff.2 ⟨_, reserved, ofOrder, ofClass⟩
      simp [objection?, found stored same, TicketClass.isOnSale_iff.2 onSale,
        Int32.not_lt.2 room, again]

end Store

/-! ### What is done -/

theorem IdSupply.after_eq (ids : IdSupply) (lines : List Line) :
    ids.after lines = { ids with drawn := ids.drawn + lines.length } := by
  induction lines generalizing ids with
  | nil => rfl
  | cons line lines ih =>
    rw [after, ih, draw, List.length_cons, Nat.add_right_comm, Nat.add_assoc]

/-- The identifiers of new reservations are the next of the source, in their order. -/
theorem Reservation.map_id_holds (order : Uuid) (expiresAt now : Instant) (ids : IdSupply)
    (lines : List Line) : (holds order expiresAt now ids lines).map (·.id) =
      (List.range lines.length).map fun place => ids.source (ids.drawn + place) := by
  induction lines generalizing ids with
  | nil => rfl
  | cons line lines ih =>
    rw [holds, List.map_cons, ih, List.length_cons, List.range_succ_eq_map, List.map_cons,
      List.map_map]
    refine congrArg _ (List.map_congr_left fun place _ => ?_)
    show ids.source (ids.drawn + 1 + place) = ids.source (ids.drawn + (place + 1))
    rw [Nat.add_right_comm, Nat.add_assoc]

namespace Desk

/-- What was done for an order that is reserved: every class that was asked for has a reservation
of all the tickets wanted of it, and nothing else has happened but that this was told. -/
structure Reserves (d d' : Desk) (s s' : Store) (order : Uuid) (items : List Line)
    (expiresAt : Instant) (rows : List Reservation) : Prop where
  ascending : rows.Pairwise fun r r' => r.ticketClass < r'.ticketClass
  classes : ∀ id, (∃ r ∈ rows, r.ticketClass = id) ↔ ∃ line ∈ items, line.ticketClass = id
  held : ∀ r ∈ rows, r.order = order ∧ r.quantity.toInt = Line.tickets items r.ticketClass ∧
    r.expiresAt = expiresAt ∧ r.status = .active ∧ r.createdAt = d.now ∧ r.updatedAt = d.now
  drawn : rows.map (·.id) =
    (List.range rows.length).map fun place => d.ids.source (d.ids.drawn + place)
  distinct : (rows.map (·.id)).Nodup
  new : ∀ r ∈ rows, ∀ old ∈ s.reservations.rows, old.id ≠ r.id
  stored : d'.store = some s'
  reservations : ∀ r, r ∈ s'.reservations.rows ↔ r ∈ rows ∨ r ∈ s.reservations.rows
  counted : ∀ id c, s.ticketClass? id = some c → ∃ reserved : Quantity,
    reserved.toInt = c.reserved.toInt + Line.tickets items id ∧
      s'.ticketClass? id = some { c with reserved := reserved }
  noClass : ∀ id, s.ticketClass? id = none → s'.ticketClass? id = none
  ids : d'.ids = { d.ids with drawn := d.ids.drawn + rows.length }
  now : d'.now = d.now
  told : ∃ lines : Lines, lines.rows = rows.map (·.line) ∧ d'.publisher =
    { d.publisher with
      published := d.publisher.published ++ [.reserved order (rows.map (·.id)) lines expiresAt] }

/-- What comes of reserving an order, in terms of the store before it. -/
structure ReservesExactly (d : Desk) (s : Store) (order : Uuid) (items : List Line)
    (expiresAt : Instant) : Prop where
  invalid : ¬ProperOrder order items expiresAt d.now →
    ∃ reason, (d.reserve order items expiresAt).1 = .error (.invalid reason)
  ok_iff : ProperOrder order items expiresAt d.now →
    ((∃ rows, (d.reserve order items expiresAt).1 = .ok rows) ↔ ∀ line ∈ items,
      s.Grants order d.now line.ticketClass (Line.tickets items line.ticketClass))
  error_iff : ProperOrder order items expiresAt d.now → ∀ refusal,
    ((d.reserve order items expiresAt).1 = .error refusal ↔ ∃ line ∈ items,
      s.Denies order d.now line.ticketClass (Line.tickets items line.ticketClass) refusal ∧
        ∀ other ∈ items, other.ticketClass < line.ticketClass →
          s.Grants order d.now other.ticketClass (Line.tickets items other.ticketClass))
  refused : ∀ refusal, (d.reserve order items expiresAt).1 = .error refusal →
    ∃ ids, (d.reserve order items expiresAt).2 = { d with ids := ids }
  reserved : ∀ rows, (d.reserve order items expiresAt).1 = .ok rows →
    ∃ s', d.Reserves (d.reserve order items expiresAt).2 s s' order items expiresAt rows

variable {d : Desk} {s : Store} {order : Uuid} {items : List Line} {expiresAt : Instant}
  {lines : Lines}

theorem reserve_of_not_proper (improper : ¬ProperOrder order items expiresAt d.now) :
    ∃ reason, (d.reserve order items expiresAt).1 = .error (.invalid reason) := by
  rw [reserve]
  cases accepted : Lines.ofOrder order items with
  | error reason => exact ⟨reason, rfl⟩
  | ok lines =>
    obtain ⟨named, nonempty, classes, positive, countable⟩ :=
      Lines.ofOrder_eq_ok_iff.1 ⟨_, accepted⟩
    have late : expiresAt ≤ d.now := by
      by_contra ahead
      exact improper ⟨named, nonempty, classes, positive, countable, Int.not_le.1 ahead⟩
    exact ⟨.deadlineNotAhead, by simp [late, refuse]⟩

/-- A proper order is left to the store. -/
theorem reserve_of_accepted (stored : d.store = some s)
    (accepted : Lines.ofOrder order items = .ok lines) (ahead : d.now < expiresAt) :
    (d.reserve order items expiresAt).1 =
        (s.reserve d.ids order lines expiresAt d.now).1.map Prod.fst ∧
      (d.reserve order items expiresAt).2.ids =
        (s.reserve d.ids order lines expiresAt d.now).2 := by
  have ahead : ¬expiresAt ≤ d.now := Int.not_le.2 ahead
  simp only [reserve, accepted, if_neg ahead, stored]
  rcases s.reserve d.ids order lines expiresAt d.now with ⟨_ | ⟨_, _⟩, _⟩ <;> exact ⟨rfl, rfl⟩

/-- What is answered to a proper order follows from what stands against its merged lines. -/
theorem Sound.reserve_eq (sound : d.Sound s) (accepted : Lines.ofOrder order items = .ok lines)
    (ahead : d.now < expiresAt) (noRepeat : (d.reserve order items expiresAt).2.ids.NoRepeat) :
    (d.reserve order items expiresAt).1 =
      match lines.rows.findSome? (s.objection? order d.now) with
      | some refusal => .error refusal
      | none => .ok (Reservation.holds order expiresAt d.now d.ids lines.rows) := by
  obtain ⟨answer, supply⟩ := reserve_of_accepted sound.stored accepted ahead
  rw [supply] at noRepeat
  rw [answer, Store.reserve, Store.reserveLines_eq lines.sorted sound.rowIssued noRepeat]
  cases lines.rows.findSome? (s.objection? order d.now) <;> rfl

theorem Sound.reserve_ok_iff_grants (sound : d.Sound s)
    (proper : ProperOrder order items expiresAt d.now)
    (noRepeat : (d.reserve order items expiresAt).2.ids.NoRepeat) :
    (∃ rows, (d.reserve order items expiresAt).1 = .ok rows) ↔ ∀ line ∈ items,
      s.Grants order d.now line.ticketClass (Line.tickets items line.ticketClass) := by
  obtain ⟨named, nonempty, classes, positive, countable, ahead⟩ := proper
  obtain ⟨lines, accepted⟩ :=
    Lines.ofOrder_eq_ok_iff.2 ⟨named, nonempty, classes, positive, countable⟩
  rw [sound.reserve_eq accepted ahead noRepeat, ← (Lines.merges_of_ofOrder accepted).forall_iff]
  simp only [← sound.balanced.objection?_eq_none_iff, ← List.findSome?_eq_none_iff]
  cases lines.rows.findSome? (s.objection? order d.now) <;> simp

theorem Sound.reserve_error_iff_denies (sound : d.Sound s)
    (proper : ProperOrder order items expiresAt d.now)
    (noRepeat : (d.reserve order items expiresAt).2.ids.NoRepeat) (refusal : Refusal) :
    (d.reserve order items expiresAt).1 = .error refusal ↔ ∃ line ∈ items,
      s.Denies order d.now line.ticketClass (Line.tickets items line.ticketClass) refusal ∧
        ∀ other ∈ items, other.ticketClass < line.ticketClass →
          s.Grants order d.now other.ticketClass (Line.tickets items other.ticketClass) := by
  obtain ⟨named, nonempty, classes, positive, countable, ahead⟩ := proper
  obtain ⟨lines, accepted⟩ :=
    Lines.ofOrder_eq_ok_iff.2 ⟨named, nonempty, classes, positive, countable⟩
  have merges := Lines.merges_of_ofOrder accepted
  have error_iff : (d.reserve order items expiresAt).1 = .error refusal ↔
      lines.rows.findSome? (s.objection? order d.now) = some refusal := by
    rw [sound.reserve_eq accepted ahead noRepeat]
    cases lines.rows.findSome? (s.objection? order d.now) <;> simp
  rw [error_iff, Table.findSome?_eq_some_iff]
  simp only [sound.balanced.objection?_eq_none_iff, sound.balanced.objection?_eq_some_iff]
  rw [← merges.exists_iff (P := fun id wanted => s.Denies order d.now id wanted refusal ∧
    ∀ other ∈ items, other.ticketClass < id →
      s.Grants order d.now other.ticketClass (Line.tickets items other.ticketClass))]
  refine exists_congr fun line => and_congr_right fun _ => and_congr_right fun _ => ?_
  exact merges.forall_iff (P := fun id wanted =>
    id < line.ticketClass → s.Grants order d.now id wanted)

/-- An order that is reserved was accepted, in time and reserved by the store. -/
theorem exists_of_reserve_eq_ok (stored : d.store = some s) {rows : List Reservation}
    (reserved : (d.reserve order items expiresAt).1 = .ok rows) :
    ∃ lines s' ids, Lines.ofOrder order items = .ok lines ∧
      s.reserve d.ids order lines expiresAt d.now = (.ok (rows, s'), ids) ∧
      (d.reserve order items expiresAt).2 = publish { d with store := some s', ids := ids }
        (.reserved order (rows.map (·.id)) lines expiresAt) := by
  unfold reserve at reserved ⊢
  cases accepted : Lines.ofOrder order items with
  | error reason =>
    rw [accepted] at reserved
    cases reserved
  | ok lines =>
    simp only [accepted] at reserved ⊢
    split at reserved
    · cases reserved
    next inTime =>
      rw [if_neg inTime]
      simp only [stored] at reserved ⊢
      rcases result : s.reserve d.ids order lines expiresAt d.now with ⟨_ | ⟨rows', s'⟩, ids⟩
      · rw [result] at reserved
        cases reserved
      · rw [result] at reserved
        obtain rfl := Except.ok.inj reserved
        exact ⟨lines, s', ids, rfl, result, rfl⟩

/-- What was done for an order that is reserved. -/
theorem Sound.reserves (sound : d.Sound s)
    (noRepeat : (d.reserve order items expiresAt).2.ids.NoRepeat) {rows : List Reservation}
    (reserved : (d.reserve order items expiresAt).1 = .ok rows) :
    ∃ s', d.Reserves (d.reserve order items expiresAt).2 s s' order items expiresAt rows := by
  obtain ⟨lines, s', ids, accepted, result, eq⟩ := exists_of_reserve_eq_ok sound.stored reserved
  have noRepeat : ids.NoRepeat := by rwa [eq] at noRepeat
  have merges := Lines.merges_of_ofOrder accepted
  obtain ⟨free, rfl, rows_eq, rfl⟩ := Store.reserve_eq_of_ok sound.rowIssued result noRepeat
  have can : s.CanHold rows lines := rows_eq ▸ Store.canHold_holds expiresAt sound.rowIssued
    noRepeat (Lines.positive_of_ofOrder accepted) free
  have length : rows.length = lines.rows.length := by rw [← can.lines_eq, List.length_map]
  have inLines {r : Reservation} (new : r ∈ rows) : r.line ∈ lines.rows :=
    can.lines_eq ▸ List.mem_map_of_mem new
  rw [eq]
  refine ⟨s.hold rows lines, ?_⟩
  constructor
  case ascending =>
    have sorted := lines.sorted
    rw [← can.lines_eq, List.pairwise_map] at sorted
    exact sorted
  case classes =>
    intro id
    rw [← merges.named_iff_of_empty, ← can.lines_eq]
    simp only [List.mem_map, exists_exists_and_eq_and]
    rfl
  case held =>
    intro r new
    have exact : r.quantity.toInt = Line.tickets items r.ticketClass :=
      merges.quantity_of_mem (inLines new)
    rw [rows_eq] at new
    obtain ⟨id, line, -, rfl⟩ := Reservation.exists_eq_hold new
    exact ⟨rfl, exact, rfl, rfl, rfl, rfl⟩
  case drawn => rw [length, rows_eq, Reservation.map_id_holds]
  case distinct => exact can.distinct
  case new => exact can.free
  case stored => rfl
  case reservations => exact fun r => can.mem_reservations_iff
  case counted =>
    intro id c found
    obtain rfl : c.id = id := Table.key_of_find? found
    have member := Table.mem_of_find? found
    obtain ⟨nonneg, room⟩ := can.room_for sound.balanced member
    have more := (sound.balanced.classes c member).toInt_reserved_claim nonneg room
    have none : (Lines.quantity .empty c.id).toInt = 0 := rfl
    rw [merges.quantity_eq, none, Int.zero_add] at more
    refine ⟨(c.claim (lines.quantity c.id)).reserved, more, ?_⟩
    rw [Store.ticketClass?_hold, found]
    rfl
  case noClass =>
    intro id none
    rw [Store.ticketClass?_hold, none]
    rfl
  case ids =>
    rw [length]
    exact IdSupply.after_eq d.ids lines.rows
  case now => rfl
  case told => exact ⟨lines, can.lines_eq.symm, rfl⟩

/-- Reserving an order at a desk that operations have led to. Only proper orders get past the
desk, and the store before the call decides on these: an order is reserved if every class grants
what is wanted of it altogether, and else refused for what the smallest class says that does not. -/
theorem reserve_exact (reachable : d.Reachable) :
    ∃ s, d.store = some s ∧ ∀ order items expiresAt,
      (d.reserve order items expiresAt).2.ids.NoRepeat →
        d.ReservesExactly s order items expiresAt := by
  obtain ⟨s, sound⟩ := reachable.sound
  refine ⟨s, sound.stored, fun order items expiresAt noRepeat => ?_⟩
  constructor
  case invalid => exact reserve_of_not_proper
  case ok_iff => exact fun proper => sound.reserve_ok_iff_grants proper noRepeat
  case error_iff => exact fun proper => sound.reserve_error_iff_denies proper noRepeat
  case refused => exact fun refusal => Operation.reserve_of_refused
  case reserved => exact fun rows => sound.reserves noRepeat

/-- More standing places and more seats than are left, the places first. -/
def oversized : List Line := [⟨IdSupply.numbered 1, 5⟩, ⟨IdSupply.numbered 0, 9⟩]

/-- The seat and the four standing places are reserved in this order. Where there is not enough of
either, it is the seats that are told. -/
theorem reserve_exact_concert :
    (Concert.opened.after Concert.operations).Reachable ∧
      ∃ s, (Concert.opened.after Concert.operations).store = some s ∧
        (∃ s' rows, (Concert.opened.after Concert.operations).Reserves
          ((Concert.opened.after Concert.operations).reserve (.ofNat 10) mixture
            Concert.oneOClock).2 s s' (.ofNat 10) mixture Concert.oneOClock rows ∧
          rows.map (·.quantity) = [1, 4]) ∧
        ∃ line ∈ oversized, s.Denies (.ofNat 10) Concert.noon line.ticketClass
          (Line.tickets oversized line.ticketClass)
          (.insufficientStock (IdSupply.numbered 0) 9 3) := by
  obtain ⟨s, stored, exact⟩ := reserve_exact Concert.reachable
  have noRepeat (k : Nat) (few : k < 8) : (⟨IdSupply.numbered, k⟩ : IdSupply).NoRepeat := by
    intro i hi j hj
    revert i j k
    decide
  refine ⟨Concert.reachable, s, stored, ?_, ?_⟩
  · have reserved := (exact (.ofNat 10) mixture Concert.oneOClock (noRepeat 6 (by decide))).reserved
    obtain ⟨s', reserves⟩ := reserved _ rfl
    exact ⟨s', _, reserves, rfl⟩
  · have accepted : ∃ lines, Lines.ofOrder (.ofNat 10) oversized = .ok lines := ⟨_, rfl⟩
    obtain ⟨named, nonempty, classes, positive, countable⟩ := Lines.ofOrder_eq_ok_iff.1 accepted
    have proper : ProperOrder (.ofNat 10) oversized Concert.oneOClock Concert.noon :=
      ⟨named, nonempty, classes, positive, countable, by decide⟩
    have refused := exact (.ofNat 10) oversized Concert.oneOClock (noRepeat 4 (by decide))
    obtain ⟨line, inItems, denies, -⟩ := (refused.error_iff proper _).1 rfl
    exact ⟨line, inItems, denies⟩

end Desk

end BoxOffice
