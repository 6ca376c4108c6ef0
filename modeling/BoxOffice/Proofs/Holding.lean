import BoxOffice.Proofs.Balance
import BoxOffice.Proofs.Issuing

/-!
Reserving in full. Lines are claimed and held one after the other, but as they are of different
classes no line is in the way of another: an order is refused for what stands against the first of
its lines that could not be reserved alone. If there is none, the store is `Store.hold` of the new
reservations.
-/

namespace BoxOffice.Store

open Reservation (holds)

variable {s : Store} {c : TicketClass} {order : Uuid} {expiresAt now : Instant} {line : Line}
  {lines : List Line} {ids : IdSupply}

/-! ### One line -/

/-- A line of an order can be reserved: its class exists, is on sale and has enough tickets
available, and the order has no reservation of it yet. -/
structure CanReserve (s : Store) (order : Uuid) (now : Instant) (line : Line) : Prop where
  room : ∃ c, s.ticketClass? line.ticketClass = some c ∧ c.isOnSale now = true ∧
    line.quantity ≤ c.available
  single : s.hasLine order line.ticketClass = false

def objection? (s : Store) (order : Uuid) (now : Instant) (line : Line) : Option Refusal :=
  match s.ticketClass? line.ticketClass with
  | none => some (.noTicketClass line.ticketClass)
  | some c =>
    if !c.isOnSale now then some (.invalid (.notOnSale line.ticketClass))
    else if c.available < line.quantity then
      some (.insufficientStock line.ticketClass line.quantity c.available)
    else if s.hasLine order line.ticketClass then some (.duplicate .orderLine)
    else none

theorem objection?_eq_none_iff :
    s.objection? order now line = none ↔ s.CanReserve order now line := by
  constructor
  · intro none
    unfold objection? at none
    split at none
    · cases none
    next c found =>
      split at none
      · cases none
      next onSale =>
        split at none
        · cases none
        next room =>
          split at none
          · cases none
          next single =>
            exact ⟨⟨c, found, by simpa using onSale, Int32.not_lt.1 room⟩, by simpa using single⟩
  · rintro ⟨⟨c, found, onSale, room⟩, single⟩
    simp [objection?, found, onSale, Int32.not_lt.2 room, single]

theorem claimLine_of_none (missing : s.ticketClass? line.ticketClass = none) :
    s.claimLine line now = .error (.noTicketClass line.ticketClass) := by
  simp only [claimLine, ticketClass, missing]
  rfl

theorem claimLine_of_some (found : s.ticketClass? line.ticketClass = some c) :
    s.claimLine line now =
      if c.isOnSale now then
        if line.quantity ≤ c.available then .ok (s.putTicketClass (c.claim line.quantity))
        else .error (.insufficientStock line.ticketClass line.quantity c.available)
      else .error (.invalid (.notOnSale line.ticketClass)) := by
  have sameId : c.id = line.ticketClass := Table.key_of_find? found
  simp only [claimLine, ticketClass, found]
  show (if c.isOnSale now then s.claim c line.quantity else _) = _
  by_cases room : line.quantity ≤ c.available
  · simp [claim, claim?, sameId, found, room, Int32.not_lt.2 room]
    rfl
  · simp [claim, sameId, room, Int32.not_le.1 room]
    rfl

theorem ticketClass?_put (s : Store) (c : TicketClass) (id : Uuid) :
    (s.putTicketClass c).ticketClass? id = if c.id = id then some c else s.ticketClass? id :=
  Table.find?_insert ..

theorem ticketClass?_putClaim {id : Uuid} {quantity : Quantity}
    (found : s.ticketClass? id = some c) :
    (s.putTicketClass (c.claim quantity)).ticketClass? id = some (c.claim quantity) := by
  have sameId : (c.claim quantity).id = id := Table.key_of_find? found
  rw [ticketClass?_put, if_pos sameId]

theorem insertReservation_of_some {r : Reservation}
    (found : s.ticketClass? r.ticketClass = some c) :
    s.insertReservation r =
      if s.hasLine r.order r.ticketClass then .error (.duplicate .orderLine)
      else .ok (s.putReservation r) := by
  simp only [insertReservation, ticketClass, found]
  split <;> rfl

def holdLine (s : Store) (c : TicketClass) (r : Reservation) : Store :=
  (s.putTicketClass (c.claim r.quantity)).putReservation r

theorem ticketClass?_holdLine_of_ne {r : Reservation} {id : Uuid} (other : c.id ≠ id) :
    (s.holdLine c r).ticketClass? id = s.ticketClass? id := by
  have otherKey : Keyed.key (c.claim r.quantity) ≠ id := other
  show (s.ticketClasses.insert _).find? id = _
  rw [Table.find?_insert, if_neg otherKey]
  rfl

theorem hasLine_holdLine_of_ne (c : TicketClass) (order : Uuid) {r : Reservation} {id : Uuid}
    (other : r.ticketClass ≠ id) (new : ∀ old ∈ s.reservations.rows, old.id ≠ r.id) :
    (s.holdLine c r).hasLine order id = s.hasLine order id := by
  have rows (x : Reservation) :
      x ∈ (s.holdLine c r).reservations.rows ↔ x = r ∨ x ∈ s.reservations.rows :=
    Table.mem_insert_iff.trans
      (or_congr_right ⟨And.left, fun member => ⟨member, new x member⟩⟩)
  rw [Bool.eq_iff_iff, hasLine, hasLine, List.any_eq_true, List.any_eq_true]
  constructor
  · rintro ⟨x, member, isLine⟩
    rcases (rows x).1 member with rfl | old
    · simp [other] at isLine
    · exact ⟨x, old, isLine⟩
  · rintro ⟨x, member, isLine⟩
    exact ⟨x, (rows x).2 (.inr member), isLine⟩

theorem objection?_holdLine {r : Reservation} {other : Line} (order : Uuid) (now : Instant)
    (sameClass : c.id = r.ticketClass) (different : r.ticketClass ≠ other.ticketClass)
    (new : ∀ old ∈ s.reservations.rows, old.id ≠ r.id) :
    (s.holdLine c r).objection? order now other = s.objection? order now other := by
  rw [objection?, objection?, ticketClass?_holdLine_of_ne (sameClass.symm ▸ different),
    hasLine_holdLine_of_ne c order different new]

/-- What came of the other lines of an order, with the reservation of the first line. -/
def withFirst (r : Reservation) :
    Except Refusal (List Reservation × Store) × IdSupply →
      Except Refusal (List Reservation × Store) × IdSupply
  | (.error refusal, ids) => (.error refusal, ids)
  | (.ok (rows, s), ids) => (.ok (r :: rows, s), ids)

@[simp] theorem withFirst_snd (r : Reservation)
    (result : Except Refusal (List Reservation × Store) × IdSupply) :
    (withFirst r result).2 = result.2 := by
  obtain ⟨_ | ⟨_, _⟩, _⟩ := result <;> rfl

theorem withFirst_fst (r : Reservation)
    (result : Except Refusal (List Reservation × Store) × IdSupply) :
    (withFirst r result).1 = result.1.map fun (rows, s) => (r :: rows, s) := by
  obtain ⟨_ | ⟨_, _⟩, _⟩ := result <;> rfl

/-- A line that can be reserved is claimed and held, and then the rest is reserved. -/
theorem CanReserve.reserveLines_cons (can : s.CanReserve order now line)
    (found : s.ticketClass? line.ticketClass = some c) (rest : List Line) :
    reserveLines order expiresAt now (line :: rest) s ids =
      withFirst (.hold ids.draw.1 order line expiresAt now)
        (reserveLines order expiresAt now rest
          (s.holdLine c (.hold ids.draw.1 order line expiresAt now)) ids.draw.2) := by
  obtain ⟨⟨c', found', onSale, room⟩, single⟩ := can
  obtain rfl : c' = c := Option.some.inj (found'.symm.trans found)
  have claimed : s.claimLine line now = .ok (s.putTicketClass (c'.claim line.quantity)) := by
    rw [claimLine_of_some found, if_pos onSale, if_pos room]
  have inserted (id : Uuid) : (s.putTicketClass (c'.claim line.quantity)).insertReservation
      (.hold id order line expiresAt now) =
        .ok (s.holdLine c' (.hold id order line expiresAt now)) := by
    have noLine : (s.putTicketClass (c'.claim line.quantity)).hasLine order line.ticketClass =
        false := single
    rw [insertReservation_of_some (ticketClass?_putClaim found)]
    simp [Reservation.hold, noLine, holdLine]
  rw [reserveLines, claimed]
  simp only [inserted]
  rfl

/-- Nothing is reserved with a line that something stands against. -/
theorem reserveLines_cons_of_objection {refusal : Refusal}
    (objection : s.objection? order now line = some refusal) (rest : List Line) :
    (reserveLines order expiresAt now (line :: rest) s ids).1 = .error refusal := by
  unfold objection? at objection
  rw [reserveLines]
  split at objection
  next missing =>
    obtain rfl := Option.some.inj objection
    rw [claimLine_of_none missing]
  next c found =>
    rw [claimLine_of_some found]
    split at objection
    next closed =>
      obtain rfl := Option.some.inj objection
      rw [if_neg (by simpa using closed)]
    next onSale =>
      rw [if_pos (by simpa using onSale)]
      split at objection
      next short =>
        obtain rfl := Option.some.inj objection
        rw [if_neg (Int32.not_le.2 short)]
      next room =>
        rw [if_pos (Int32.not_lt.1 room)]
        split at objection
        next again =>
          -- The claim succeeds here, and what refuses the line is the insertion after it.
          obtain rfl := Option.some.inj objection
          have inserted (id : Uuid) : (s.putTicketClass (c.claim line.quantity)).insertReservation
              (.hold id order line expiresAt now) = .error (.duplicate .orderLine) := by
            have hasLine : (s.putTicketClass (c.claim line.quantity)).hasLine order
                line.ticketClass = true := again
            rw [insertReservation_of_some (ticketClass?_putClaim found)]
            simp [Reservation.hold, hasLine]
          simp only [inserted]
        next => cases objection

/-- With a line that cannot be reserved nothing is. -/
theorem reserveLines_cons_of_not (cannot : ¬s.CanReserve order now line) (rest : List Line) :
    ∃ refusal, (reserveLines order expiresAt now (line :: rest) s ids).1 = .error refusal := by
  obtain ⟨refusal, objection⟩ :=
    Option.ne_none_iff_exists'.1 fun none => cannot (objection?_eq_none_iff.1 none)
  exact ⟨refusal, reserveLines_cons_of_objection objection rest⟩

/-! ### All lines -/

/-- Identifiers are only drawn, whatever comes of it, and reserved lines use up one each. -/
theorem reserveLines_draws (order : Uuid) (expiresAt now : Instant) (lines : List Line) (s : Store)
    (ids : IdSupply) :
    ids.Continues (reserveLines order expiresAt now lines s ids).2 ∧
      ∀ reserved, (reserveLines order expiresAt now lines s ids).1 = .ok reserved →
        (reserveLines order expiresAt now lines s ids).2 = ids.after lines := by
  induction lines generalizing s ids with
  | nil => exact ⟨.refl ids, fun _ _ => rfl⟩
  | cons line lines ih =>
    rw [reserveLines]
    cases s.claimLine line now with
    | error refusal => exact ⟨.refl ids, fun _ failed => by cases failed⟩
    | ok claimed =>
      cases inserted : claimed.insertReservation (.hold ids.draw.1 order line expiresAt now) with
      | error refusal =>
        simp only [inserted]
        exact ⟨ids.continues_draw, fun _ failed => by cases failed⟩
      | ok next =>
        obtain ⟨continues, used⟩ := ih next ids.draw.2
        simp only [inserted]
        generalize reserveLines order expiresAt now lines next ids.draw.2 = rest at continues used ⊢
        obtain ⟨refusal | ⟨rows, last⟩, ids'⟩ := rest
        · exact ⟨ids.continues_draw.trans continues, fun _ failed => by cases failed⟩
        · exact ⟨ids.continues_draw.trans continues, fun _ _ => used _ rfl⟩

theorem hold_nil (s : Store) : s.hold [] .empty = s := by
  have none (c : TicketClass) : Lines.quantity .empty c.id = 0 := rfl
  simp only [hold, none, TicketClass.claim_zero, Table.insertAll_nil]
  rw [Table.update_eq_self fun _ _ => rfl]

/-- To hold the first line and then the others is to hold all. -/
theorem hold_holdLine {r : Reservation} (rows : List Reservation) {rest : List Line}
    (sorted : (r.line :: rest).Pairwise fun a b => Keyed.key a < Keyed.key b)
    (found : s.ticketClass? r.ticketClass = some c) :
    (s.holdLine c r).hold rows ⟨rest, (List.pairwise_cons.1 sorted).2⟩ =
      s.hold (r :: rows) ⟨r.line :: rest, sorted⟩ := by
  have classes := update_insert_line (f := TicketClass.claim) (fun c q => c.id_claim q)
    (fun c => c.claim_zero) sorted found
  exact congrArg (fun t => Store.mk t _) classes

/-- After a line of an order was held, the rest is as it was. -/
theorem rest_of_holdLine (order : Uuid) (expiresAt now : Instant)
    (found : s.ticketClass? line.ticketClass = some c)
    (before : ∀ other ∈ lines, Keyed.key line < Keyed.key other)
    (issued : ∀ r ∈ s.reservations.rows, ids.Issued r.id) (noRepeat : ids.draw.2.NoRepeat) :
    (∀ r ∈ (s.holdLine c (.hold ids.draw.1 order line expiresAt now)).reservations.rows,
      ids.draw.2.Issued r.id) ∧
    lines.findSome? ((s.holdLine c (.hold ids.draw.1 order line expiresAt now)).objection? order
      now) = lines.findSome? (s.objection? order now) := by
  have sameId : c.id = line.ticketClass := Table.key_of_find? found
  constructor
  · intro r member
    rcases Table.mem_insert_iff.1 member with rfl | ⟨old, -⟩
    · exact ids.issued_draw
    · exact (issued r old).later ids.continues_draw
  · rw [← List.head?_filterMap, ← List.head?_filterMap]
    refine congrArg List.head? (List.filterMap_congr fun other inLines => ?_)
    -- Lines are sorted by class, so no other line is of the class that was claimed from.
    have apart : line.ticketClass ≠ other.ticketClass := Table.key_ne_of_lt (before other inLines)
    refine objection?_holdLine order now sameId apart fun old stored same => ?_
    have same : old.id = ids.draw.1 := same
    exact noRepeat.draw_new (same ▸ issued old stored)

/-- An order is refused for what stands against the first of its lines against which something
does, and else it is held. -/
theorem reserveLines_eq (sorted : lines.Pairwise fun a b => Keyed.key a < Keyed.key b)
    (issued : ∀ r ∈ s.reservations.rows, ids.Issued r.id)
    (noRepeat : (reserveLines order expiresAt now lines s ids).2.NoRepeat) :
    (reserveLines order expiresAt now lines s ids).1 =
      match lines.findSome? (s.objection? order now) with
      | some refusal => .error refusal
      | none =>
        .ok (holds order expiresAt now ids lines,
          s.hold (holds order expiresAt now ids lines) ⟨lines, sorted⟩) := by
  induction lines generalizing s ids with
  | nil => exact congrArg (fun s => Except.ok ([], s)) s.hold_nil.symm
  | cons line lines ih =>
    obtain ⟨before, sortedRest⟩ := List.pairwise_cons.1 sorted
    cases objection : s.objection? order now line with
    | some refusal =>
      rw [reserveLines_cons_of_objection objection, List.findSome?_cons, objection]
    | none =>
      have can := objection?_eq_none_iff.1 objection
      obtain ⟨c, found, -⟩ := can.room
      let held := s.holdLine c (.hold ids.draw.1 order line expiresAt now)
      have draws := (reserveLines_draws order expiresAt now lines held ids.draw.2).1
      rw [can.reserveLines_cons found, withFirst_snd] at noRepeat
      obtain ⟨issuedRest, same⟩ :=
        rest_of_holdLine order expiresAt now found before issued (noRepeat.before draws)
      rw [can.reserveLines_cons found, withFirst_fst, ih sortedRest issuedRest noRepeat, same,
        List.findSome?_cons, objection]
      cases lines.findSome? (s.objection? order now) with
      | some refusal => rfl
      | none =>
        have sortedRows : ((Reservation.hold ids.draw.1 order line expiresAt now).line ::
            lines).Pairwise fun a b => Keyed.key a < Keyed.key b := sorted
        have all := hold_holdLine (holds order expiresAt now ids.draw.2 lines) sortedRows found
        exact congrArg (fun s => Except.ok (holds order expiresAt now ids (line :: lines), s)) all

/-! ### Whole orders -/

/-- What a reserved order has led to. -/
theorem reserve_eq_of_ok {lines : Lines} {rows : List Reservation} {s' : Store} {ids' : IdSupply}
    (issued : ∀ r ∈ s.reservations.rows, ids.Issued r.id)
    (reserved : s.reserve ids order lines expiresAt now = (.ok (rows, s'), ids'))
    (noRepeat : ids'.NoRepeat) :
    (∀ line ∈ lines.rows, s.CanReserve order now line) ∧ ids' = ids.after lines.rows ∧
      rows = holds order expiresAt now ids lines.rows ∧ s' = s.hold rows lines := by
  unfold reserve at reserved
  have draws := (reserveLines_draws order expiresAt now lines.rows s ids).2 (rows, s')
  have eq : (reserveLines order expiresAt now lines.rows s ids).1 = _ :=
    reserveLines_eq lines.sorted issued (by rwa [reserved])
  rw [reserved] at draws eq
  split at eq
  next => cases eq
  next clear =>
    obtain ⟨rfl, rfl⟩ := Prod.mk.inj (Except.ok.inj eq)
    refine ⟨fun line inLines => ?_, draws rfl, rfl, rfl⟩
    exact objection?_eq_none_iff.1 (List.findSome?_eq_none_iff.1 clear line inLines)

theorem canHold_holds {lines : Lines} (expiresAt : Instant)
    (issued : ∀ r ∈ s.reservations.rows, ids.Issued r.id)
    (noRepeat : (ids.after lines.rows).NoRepeat)
    (positive : ∀ line ∈ lines.rows, 0 < line.quantity.toInt)
    (can : ∀ line ∈ lines.rows, s.CanReserve order now line) :
    s.CanHold (holds order expiresAt now ids lines.rows) lines where
  lines_eq := Reservation.map_line_holds
  distinct := Reservation.nodup_holds noRepeat
  free r member old stored same :=
    (Reservation.issued_holds noRepeat r member).1 (same ▸ issued old stored)
  active r member := by
    obtain ⟨id, line, -, rfl⟩ := Reservation.exists_eq_hold member
    rfl
  positive r member := by
    obtain ⟨id, line, inLines, rfl⟩ := Reservation.exists_eq_hold member
    exact positive line inLines
  room r member := by
    obtain ⟨id, line, inLines, rfl⟩ := Reservation.exists_eq_hold member
    obtain ⟨c, found, -, room⟩ := (can line inLines).room
    exact ⟨c, Table.mem_of_find? found, Table.key_of_find? found, Int32.le_iff_toInt_le.1 room⟩

end BoxOffice.Store

/-! ### Requests -/

namespace BoxOffice.Lines

theorem quantity_nonneg {lines : Lines} (positive : ∀ line ∈ lines.rows, 0 < line.quantity.toInt)
    (id : Uuid) : 0 ≤ (lines.quantity id).toInt := by
  unfold quantity
  split
  next line found => exact Int.le_of_lt (positive line (Table.mem_of_find? found))
  next => exact Int.le_refl 0

/-- Merged lines of a request ask for at least one ticket each. -/
theorem positive_of_ofRequest {items : List Line} {lines merged : Lines}
    (positive : ∀ line ∈ lines.rows, 0 < line.quantity.toInt)
    (accepted : lines.ofRequest items = .ok merged) :
    ∀ line ∈ merged.rows, 0 < line.quantity.toInt := by
  induction items generalizing lines with
  | nil =>
    obtain rfl := Except.ok.inj accepted
    exact positive
  | cons item items ih =>
    rw [ofRequest] at accepted
    split at accepted
    · cases accepted
    · split at accepted
      · cases accepted
      next notLow =>
        split at accepted
        next next added =>
          obtain ⟨sum, plus, rfl⟩ := Option.map_eq_some_iff.1 added
          refine ih (fun line member => ?_) accepted
          rcases Table.mem_insert_iff.1 member with rfl | ⟨old, -⟩
          · have sumEq := Quantity.plus?_eq_some_iff.1 plus
            have before := quantity_nonneg positive item.ticketClass
            have some : 0 < item.quantity.toInt := by
              rw [Int32.le_iff_toInt_le, Int32.toInt_zero] at notLow
              omega
            show 0 < sum.toInt
            omega
          · exact positive line old
        · cases accepted

theorem positive_of_ofOrder {order : Uuid} {items : List Line} {lines : Lines}
    (accepted : Lines.ofOrder order items = .ok lines) :
    ∀ line ∈ lines.rows, 0 < line.quantity.toInt := by
  unfold ofOrder at accepted
  split at accepted
  · cases accepted
  · split at accepted
    · cases accepted
    · exact positive_of_ofRequest (fun _ member => absurd member List.not_mem_nil) accepted

end BoxOffice.Lines
