import BoxOffice.Proofs.Counting

/-!
Balance: the counters of every class agree with the reservations. A class counts as reserved
exactly the tickets of its active reservations, and reserved and sold tickets never exceed its
total.

Bookings change a balanced store in two ways only. `Store.hold` adds active reservations and
claims their tickets; `Store.conclude` gives active reservations a final status and takes their
tickets out of the reserved ones. Both are defined at once for all classes and all reservations,
without guards and without a floor, and both keep the balance.
-/

namespace BoxOffice

open Reservation (tickets)

/-! ### One class -/

namespace TicketClass

/-- The counters of a class of which so many tickets are held. -/
structure Balanced (c : TicketClass) (held : Int) : Prop where
  reserved_eq : c.reserved.toInt = held
  reserved_nonneg : 0 ≤ c.reserved.toInt
  sold_nonneg : 0 ≤ c.sold.toInt
  covered : c.reserved.toInt + c.sold.toInt ≤ c.total.toInt

/-- The class after reservations with so many of its tickets got a final status: confirmed
tickets are sold, and all others are free again. -/
def conclude (c : TicketClass) (status : Reservation.Status) (quantity : Quantity) : TicketClass :=
  if status = .confirmed then c.settle quantity
  else { c with reserved := c.reserved - quantity }

section Conclude

variable (c : TicketClass) (status : Reservation.Status) (quantity : Quantity)

@[simp] theorem id_claim : (c.claim quantity).id = c.id := rfl

@[simp] theorem id_conclude : (c.conclude status quantity).id = c.id := by
  unfold conclude; split <;> rfl

@[simp] theorem total_conclude : (c.conclude status quantity).total = c.total := by
  unfold conclude; split <;> rfl

@[simp] theorem reserved_conclude :
    (c.conclude status quantity).reserved = c.reserved - quantity := by
  unfold conclude; split <;> rfl

theorem sold_conclude :
    (c.conclude status quantity).sold =
      if status = .confirmed then c.sold + quantity else c.sold := by
  unfold conclude; split <;> rfl

@[simp] theorem claim_zero : c.claim 0 = c := by simp [claim]

@[simp] theorem conclude_zero : c.conclude status 0 = c := by
  unfold conclude; split <;> simp [settle]

end Conclude

variable {c : TicketClass} {held : Int} {quantity : Quantity}

theorem Balanced.toInt_available (balanced : c.Balanced held) :
    c.available.toInt = c.total.toInt - c.reserved.toInt - c.sold.toInt := by
  obtain ⟨-, reserved, sold, covered⟩ := balanced
  have top := Quantity.toInt_lt c.total
  have rest : (c.total - c.reserved).toInt = c.total.toInt - c.reserved.toInt :=
    Quantity.toInt_sub_eq (by omega) (by omega)
  rw [available, Quantity.toInt_sub_eq (by omega) (by omega), rest]

theorem Balanced.toInt_reserved_claim (balanced : c.Balanced held) (nonneg : 0 ≤ quantity.toInt)
    (room : quantity.toInt ≤ c.available.toInt) :
    (c.claim quantity).reserved.toInt = c.reserved.toInt + quantity.toInt := by
  rw [balanced.toInt_available] at room
  obtain ⟨-, reserved, sold, covered⟩ := balanced
  have top := Quantity.toInt_lt c.total
  exact Quantity.toInt_add_eq (by omega) (by omega)

theorem Balanced.claim (balanced : c.Balanced held) (nonneg : 0 ≤ quantity.toInt)
    (room : quantity.toInt ≤ c.available.toInt) :
    (c.claim quantity).Balanced (held + quantity.toInt) := by
  have more := balanced.toInt_reserved_claim nonneg room
  rw [balanced.toInt_available] at room
  obtain ⟨eq, reserved, sold, covered⟩ := balanced
  refine ⟨by rw [more, eq], by omega, sold, ?_⟩
  show (c.claim quantity).reserved.toInt + c.sold.toInt ≤ c.total.toInt
  omega

theorem Balanced.toInt_reserved_conclude (balanced : c.Balanced held)
    (status : Reservation.Status) (nonneg : 0 ≤ quantity.toInt) (enough : quantity.toInt ≤ held) :
    (c.conclude status quantity).reserved.toInt = c.reserved.toInt - quantity.toInt := by
  obtain ⟨eq, reserved, -, -⟩ := balanced
  have top := Quantity.toInt_lt c.reserved
  rw [reserved_conclude, Quantity.toInt_sub_eq (by omega) (by omega)]

theorem Balanced.toInt_sold_conclude (balanced : c.Balanced held)
    (status : Reservation.Status) (nonneg : 0 ≤ quantity.toInt) (enough : quantity.toInt ≤ held) :
    (c.conclude status quantity).sold.toInt =
      c.sold.toInt + if status = .confirmed then quantity.toInt else 0 := by
  obtain ⟨eq, reserved, sold, covered⟩ := balanced
  have top := Quantity.toInt_lt c.total
  rw [sold_conclude]
  split
  · exact Quantity.toInt_add_eq (by omega) (by omega)
  · rw [Int.add_zero]

theorem Balanced.conclude (balanced : c.Balanced held) (status : Reservation.Status)
    (nonneg : 0 ≤ quantity.toInt) (enough : quantity.toInt ≤ held) :
    (c.conclude status quantity).Balanced (held - quantity.toInt) := by
  have less := balanced.toInt_reserved_conclude status nonneg enough
  have more := balanced.toInt_sold_conclude status nonneg enough
  obtain ⟨eq, reserved, sold, covered⟩ := balanced
  refine ⟨by rw [less, eq], by omega, ?_, ?_⟩
  · rw [more]
    split <;> omega
  · rw [less, more, total_conclude]
    split <;> omega

end TicketClass

/-! ### A store -/

namespace Store

def active (s : Store) : List Reservation := s.reservations.rows.filter (·.isActive)

structure Balanced (s : Store) : Prop where
  /-- Reservations are of classes that exist. -/
  known : ∀ r ∈ s.reservations.rows, ∃ c ∈ s.ticketClasses.rows, c.id = r.ticketClass
  positive : ∀ r ∈ s.reservations.rows, 0 < r.quantity.toInt
  classes : ∀ c ∈ s.ticketClasses.rows, c.Balanced (tickets s.active c.id)

/-- The store with more active reservations, the tickets of which are claimed. -/
def hold (s : Store) (rows : List Reservation) (lines : Lines) : Store where
  ticketClasses := s.ticketClasses.update (fun c => c.claim (lines.quantity c.id)) fun _ => rfl
  reservations := s.reservations.insertAll rows

/-- Classes after reservations with the tickets of some merged lines got a final status. -/
def concludeClasses (t : Table TicketClass) (status : Reservation.Status) (lines : Lines) :
    Table TicketClass :=
  t.update (fun c => c.conclude status (lines.quantity c.id)) fun c => c.id_conclude ..

def markRows (t : Table Reservation) (rows : List Reservation) (status : Reservation.Status)
    (now : Instant) : Table Reservation :=
  t.update (fun r => if r ∈ rows then r.marked status now else r) fun r => by split <;> rfl

/-- The store in which some active reservations have got a final status. -/
def conclude (s : Store) (rows : List Reservation) (status : Reservation.Status) (now : Instant) :
    Store where
  ticketClasses := concludeClasses s.ticketClasses status (Reservation.lines rows)
  reservations := markRows s.reservations rows status now

/-- To change a class by the first line and then all classes by the other lines is to change them
by all lines, when a quantity of zero changes nothing. -/
theorem update_insert_line {t : Table TicketClass} {c : TicketClass} {line : Line}
    {rest : List Line} {f : TicketClass → Quantity → TicketClass}
    (keeps : ∀ c quantity, (f c quantity).id = c.id) (zero : ∀ c, f c 0 = c)
    (sorted : (line :: rest).Pairwise fun a b => Keyed.key a < Keyed.key b)
    (found : t.find? line.ticketClass = some c) :
    (t.insert (f c line.quantity)).update
        (fun c => f c (Lines.quantity ⟨rest, (List.pairwise_cons.1 sorted).2⟩ c.id))
        (fun c => keeps c _) =
      t.update (fun c => f c (Lines.quantity ⟨line :: rest, sorted⟩ c.id))
        (fun c => keeps c _) := by
  have sameId : c.id = line.ticketClass := Table.key_of_find? found
  have stored : t.find? (Keyed.key (f c line.quantity)) = some c := by
    simp only [Keyed.key, keeps, sameId]
    exact found
  rw [Table.insert_eq_update stored, Table.update_update]
  refine Table.update_congr fun x inTable => ?_
  simp only [Keyed.key, keeps, sameId, Lines.quantity_cons sorted]
  by_cases same : x.id = line.ticketClass
  · obtain rfl : x = c :=
      Table.eq_of_key_eq inTable (Table.mem_of_find? found) (same.trans sameId.symm)
    simp [same, keeps, Lines.quantity_tail_head sorted, zero]
  · simp [same, Ne.symm same]

variable {s : Store}

theorem mem_active_iff {r : Reservation} :
    r ∈ s.active ↔ r ∈ s.reservations.rows ∧ r.status = .active := by
  simp [active, Reservation.isActive]

theorem nodup_active (s : Store) : s.active.Nodup := s.reservations.nodup_rows.filter _

theorem Balanced.active_nonneg (balanced : s.Balanced) : ∀ r ∈ s.active, 0 ≤ r.quantity.toInt :=
  fun r member => Int.le_of_lt (balanced.positive r (mem_active_iff.1 member).1)

theorem balanced_empty : Store.empty.Balanced :=
  ⟨fun _ member => absurd member List.not_mem_nil, fun _ member => absurd member List.not_mem_nil,
    fun _ member => absurd member List.not_mem_nil⟩

/-! ### Holding -/

/-- Reservations that can be added for merged lines: they are new and active, and each has a
class with room for it. -/
structure CanHold (s : Store) (rows : List Reservation) (lines : Lines) : Prop where
  lines_eq : rows.map (·.line) = lines.rows
  distinct : (rows.map (·.id)).Nodup
  free : ∀ r ∈ rows, ∀ old ∈ s.reservations.rows, old.id ≠ r.id
  active : ∀ r ∈ rows, r.status = .active
  positive : ∀ r ∈ rows, 0 < r.quantity.toInt
  room : ∀ r ∈ rows, ∃ c ∈ s.ticketClasses.rows,
    c.id = r.ticketClass ∧ r.quantity.toInt ≤ c.available.toInt

section Hold

variable {rows : List Reservation} {lines : Lines}

theorem CanHold.mem_reservations_iff (can : s.CanHold rows lines) {r : Reservation} :
    r ∈ (s.hold rows lines).reservations.rows ↔ r ∈ rows ∨ r ∈ s.reservations.rows :=
  Table.mem_insertAll_iff can.distinct can.free

theorem CanHold.mem_active_iff (can : s.CanHold rows lines) {r : Reservation} :
    r ∈ (s.hold rows lines).active ↔ r ∈ rows ∨ r ∈ s.active := by
  rw [Store.mem_active_iff, Store.mem_active_iff, can.mem_reservations_iff]
  constructor
  · rintro ⟨new | old, active⟩
    · exact .inl new
    · exact .inr ⟨old, active⟩
  · rintro (new | ⟨old, active⟩)
    · exact ⟨.inl new, can.active r new⟩
    · exact ⟨.inr old, active⟩

theorem CanHold.tickets_active (can : s.CanHold rows lines) (id : Uuid) :
    tickets (s.hold rows lines).active id = tickets s.active id + tickets rows id := by
  have nodup : (rows ++ s.active).Nodup := by
    refine List.nodup_append.2
      ⟨List.Nodup.of_map _ can.distinct, s.nodup_active, fun r new old member => ?_⟩
    rintro rfl
    exact can.free r new r (Store.mem_active_iff.1 member).1 rfl
  rw [Int.add_comm, ← Reservation.tickets_append]
  exact Reservation.tickets_eq_of_mem_iff (nodup_active _) nodup
    (fun r => by rw [can.mem_active_iff, List.mem_append]) id

/-- Every class has room for the tickets of its line, also when that is none. -/
theorem CanHold.room_for (can : s.CanHold rows lines) (balanced : s.Balanced) {c : TicketClass}
    (member : c ∈ s.ticketClasses.rows) :
    0 ≤ (lines.quantity c.id).toInt ∧ (lines.quantity c.id).toInt ≤ c.available.toInt := by
  have count := Lines.tickets_eq_quantity can.lines_eq c.id
  refine ⟨count ▸ Reservation.tickets_nonneg (fun r h => Int.le_of_lt (can.positive r h)) _, ?_⟩
  by_cases here : ∃ r ∈ rows, r.ticketClass = c.id
  · obtain ⟨r, inRows, same⟩ := here
    obtain ⟨c', member', same', room⟩ := can.room r inRows
    obtain rfl := Table.eq_of_key_eq member' member (same'.trans same)
    have inLines : r.line ∈ lines.rows := can.lines_eq ▸ List.mem_map_of_mem inRows
    have quantity : lines.quantity r.ticketClass = r.quantity := Lines.quantity_of_mem inLines
    rwa [← same, quantity]
  · have none : tickets rows c.id = 0 :=
      Reservation.tickets_eq_zero fun r inRows same => here ⟨r, inRows, same⟩
    have covered := (balanced.classes c member).covered
    rw [← count, none, (balanced.classes c member).toInt_available]
    omega

theorem Balanced.hold (balanced : s.Balanced) (can : s.CanHold rows lines) :
    (s.hold rows lines).Balanced where
  known r member := by
    have known : ∃ c ∈ s.ticketClasses.rows, c.id = r.ticketClass := by
      rcases can.mem_reservations_iff.1 member with new | old
      · obtain ⟨c, inClasses, same, -⟩ := can.room r new
        exact ⟨c, inClasses, same⟩
      · exact balanced.known r old
    obtain ⟨c, inClasses, same⟩ := known
    exact ⟨_, List.mem_map_of_mem inClasses, same⟩
  positive r member :=
    (can.mem_reservations_iff.1 member).elim (can.positive r) (balanced.positive r)
  classes c member := by
    obtain ⟨old, inClasses, rfl⟩ := List.mem_map.1 member
    obtain ⟨nonneg, room⟩ := can.room_for balanced inClasses
    rw [can.tickets_active, TicketClass.id_claim, Lines.tickets_eq_quantity can.lines_eq]
    exact (balanced.classes old inClasses).claim nonneg room

end Hold

/-! ### Concluding -/

/-- Reservations that can get a final status: they are active, and listed once each. -/
structure CanConclude (s : Store) (rows : List Reservation) (status : Reservation.Status) :
    Prop where
  nodup : rows.Nodup
  active : ∀ r ∈ rows, r ∈ s.active
  final : status ≠ .active

section Conclude

variable {rows : List Reservation} {status : Reservation.Status} {now : Instant}

@[simp] theorem conclude_nil (s : Store) : s.conclude [] status now = s := by
  have none (c : TicketClass) : Lines.quantity (Reservation.lines []) c.id = 0 := rfl
  simp only [conclude, concludeClasses, none, TicketClass.conclude_zero, markRows,
    List.not_mem_nil, if_false]
  rw [Table.update_eq_self fun _ _ => rfl, Table.update_eq_self fun _ _ => rfl]

theorem mem_conclude_iff {x : Reservation} :
    x ∈ (s.conclude rows status now).reservations.rows ↔
      ∃ r ∈ s.reservations.rows, (if r ∈ rows then r.marked status now else r) = x :=
  List.mem_map

theorem CanConclude.mem_active_iff (can : s.CanConclude rows status) {r : Reservation} :
    r ∈ (s.conclude rows status now).active ↔ r ∈ s.active ∧ r ∉ rows := by
  rw [Store.mem_active_iff, mem_conclude_iff, Store.mem_active_iff]
  constructor
  · rintro ⟨⟨old, member, rfl⟩, active⟩
    split at active
    · exact absurd active can.final
    next notListed =>
      rw [if_neg notListed]
      exact ⟨⟨member, active⟩, notListed⟩
  · rintro ⟨⟨member, active⟩, notListed⟩
    exact ⟨⟨r, member, if_neg notListed⟩, active⟩

theorem CanConclude.tickets_active (can : s.CanConclude rows status) (id : Uuid) :
    tickets (s.conclude rows status now).active id = tickets s.active id - tickets rows id := by
  have rest : tickets (s.conclude rows status now).active id =
      tickets (s.active.filter (· ∉ rows)) id :=
    Reservation.tickets_eq_of_mem_iff (nodup_active _) (s.nodup_active.filter _)
      (fun r => by simp [can.mem_active_iff]) id
  have whole := Reservation.tickets_eq_add_rest can.nodup s.nodup_active can.active id
  omega

/-- The reserved tickets of a class cover those of some of its active reservations, so the merged
lines of these are exact. -/
theorem CanConclude.toInt_quantity (can : s.CanConclude rows status) (balanced : s.Balanced)
    {c : TicketClass} (member : c ∈ s.ticketClasses.rows) :
    ((Reservation.lines rows).quantity c.id).toInt = tickets rows c.id ∧
      0 ≤ tickets rows c.id ∧ tickets rows c.id ≤ tickets s.active c.id := by
  have nonneg : ∀ r ∈ rows, 0 ≤ r.quantity.toInt := fun r listed =>
    balanced.active_nonneg r (can.active r listed)
  have enough := Reservation.tickets_le can.nodup s.nodup_active can.active
    balanced.active_nonneg c.id
  have top := Quantity.toInt_lt c.reserved
  have held := (balanced.classes c member).reserved_eq
  exact ⟨Reservation.toInt_quantity_lines nonneg (by omega),
    Reservation.tickets_nonneg nonneg c.id, enough⟩

/-- The merged lines of reservations that can be concluded are exact for every class. -/
theorem CanConclude.toInt_quantity_lines (can : s.CanConclude rows status) (balanced : s.Balanced)
    (id : Uuid) : ((Reservation.lines rows).quantity id).toInt = tickets rows id := by
  by_cases here : ∃ r ∈ rows, r.ticketClass = id
  · obtain ⟨r, listed, rfl⟩ := here
    obtain ⟨c, inClasses, same⟩ := balanced.known r (Store.mem_active_iff.1 (can.active r listed)).1
    exact same ▸ (can.toInt_quantity balanced inClasses).1
  · have absent : ∀ line ∈ (Reservation.lines rows).rows, line.ticketClass ≠ id :=
      fun line inLines same => here (Reservation.mem_lines_iff.1 ⟨line, inLines, same⟩)
    rw [Lines.quantity_of_notMem absent,
      Reservation.tickets_eq_zero fun r listed same => here ⟨r, listed, same⟩]
    rfl

theorem CanConclude.nodup_ids (can : s.CanConclude rows status) : (rows.map (·.id)).Nodup :=
  can.nodup.map_on fun r listed r' listed' same =>
    Table.eq_of_key_eq (Store.mem_active_iff.1 (can.active r listed)).1
      (Store.mem_active_iff.1 (can.active r' listed')).1 same

theorem CanConclude.nodup_marked (can : s.CanConclude rows status) (now : Instant) :
    (rows.map (·.marked status now)).Nodup := by
  refine List.Nodup.of_map Reservation.id ?_
  rw [Reservation.map_id_marked]
  exact can.nodup_ids

theorem Balanced.conclude (balanced : s.Balanced) (can : s.CanConclude rows status) :
    (s.conclude rows status now).Balanced where
  known x member := by
    obtain ⟨r, inRows, rfl⟩ := mem_conclude_iff.1 member
    obtain ⟨c, inClasses, same⟩ := balanced.known r inRows
    refine ⟨_, List.mem_map_of_mem inClasses, ?_⟩
    rw [TicketClass.id_conclude, same]
    split <;> rfl
  positive x member := by
    obtain ⟨r, inRows, rfl⟩ := mem_conclude_iff.1 member
    have positive := balanced.positive r inRows
    split <;> exact positive
  classes c member := by
    obtain ⟨old, inClasses, rfl⟩ := List.mem_map.1 member
    obtain ⟨exact, nonneg, enough⟩ := can.toInt_quantity balanced inClasses
    rw [can.tickets_active, TicketClass.id_conclude, ← exact]
    exact (balanced.classes old inClasses).conclude status (exact ▸ nonneg) (exact ▸ enough)

end Conclude

/-! ### Classes set up, changed and deleted, and orders purged -/

/-- A new class starts with nothing reserved; nothing can have been reserved of it before. -/
theorem Balanced.putNew (balanced : s.Balanced) {c : TicketClass}
    (free : ∀ old ∈ s.ticketClasses.rows, old.id ≠ c.id) (empty : c.Balanced 0) :
    (s.putTicketClass c).Balanced where
  known r member := by
    obtain ⟨old, inClasses, same⟩ := balanced.known r member
    exact ⟨old, Table.mem_insert_iff.2 (.inr ⟨inClasses, free old inClasses⟩), same⟩
  positive := balanced.positive
  classes x member := by
    rcases Table.mem_insert_iff.1 member with rfl | ⟨inClasses, -⟩
    · -- All reservations are of classes that were there before.
      have none : tickets s.active x.id = 0 := Reservation.tickets_eq_zero fun r active same => by
        obtain ⟨old, inClasses, same'⟩ := balanced.known r (mem_active_iff.1 active).1
        exact free old inClasses (same'.trans same)
      exact none.symm ▸ empty
    · exact balanced.classes x inClasses

/-- A class that keeps its counters and covers them stays balanced. -/
theorem Balanced.putChanged (balanced : s.Balanced) {c old : TicketClass}
    (found : s.ticketClass? c.id = some old) (reserved : c.reserved = old.reserved)
    (sold : c.sold = old.sold) (covered : c.reserved.toInt + c.sold.toInt ≤ c.total.toInt) :
    (s.putTicketClass c).Balanced where
  known r member := by
    obtain ⟨x, inClasses, same⟩ := balanced.known r member
    by_cases changed : x.id = c.id
    · exact ⟨c, Table.mem_insert_iff.2 (.inl rfl), changed.symm.trans same⟩
    · exact ⟨x, Table.mem_insert_iff.2 (.inr ⟨inClasses, changed⟩), same⟩
  positive := balanced.positive
  classes x member := by
    rcases Table.mem_insert_iff.1 member with rfl | ⟨inClasses, -⟩
    · have before := balanced.classes old (Table.mem_of_find? found)
      have same : old.id = x.id := Table.key_of_find? found
      rw [same] at before
      exact ⟨reserved ▸ before.reserved_eq, reserved ▸ before.reserved_nonneg,
        sold ▸ before.sold_nonneg, covered⟩
    · exact balanced.classes x inClasses

theorem Balanced.eraseClass (balanced : s.Balanced) {id : Uuid}
    (unused : ∀ r ∈ s.reservations.rows, r.ticketClass ≠ id) :
    Balanced { s with ticketClasses := s.ticketClasses.erase id } where
  known r member := by
    obtain ⟨c, inClasses, same⟩ := balanced.known r member
    refine ⟨c, List.mem_filter.2 ⟨inClasses, ?_⟩, same⟩
    simpa [Keyed.key, same] using unused r member
  positive := balanced.positive
  classes c member := balanced.classes c (List.mem_filter.1 member).1

/-- Purging an order without active reservations takes nothing away that is held. -/
theorem active_deleteReservationsOf {order : Uuid}
    (inactive : ∀ r ∈ s.reservationsOf order, r.status ≠ .active) :
    (s.deleteReservationsOf order).2.active = s.active := by
  show (s.reservations.rows.filter (·.order ≠ order)).filter (·.isActive) =
    s.reservations.rows.filter (·.isActive)
  rw [List.filter_filter]
  refine List.filter_congr fun r member => ?_
  by_cases ofOrder : r.order = order
  · have notActive := inactive r (List.mem_filter.2 ⟨member, by simpa using ofOrder⟩)
    simp [Reservation.isActive, notActive]
  · simp [ofOrder]

theorem Balanced.purge (balanced : s.Balanced) {order : Uuid}
    (inactive : ∀ r ∈ s.reservationsOf order, r.status ≠ .active) :
    (s.deleteReservationsOf order).2.Balanced where
  known r member := balanced.known r (List.mem_filter.1 member).1
  positive r member := balanced.positive r (List.mem_filter.1 member).1
  classes c member := by
    rw [active_deleteReservationsOf inactive]
    exact balanced.classes c member

end Store

end BoxOffice
