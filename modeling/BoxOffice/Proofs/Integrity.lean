import BoxOffice.Proofs.Runs

/-!
Integrity of the store. Rows are found under their own identifiers, reservations are of classes
that exist and for at least one ticket, no two reservations of one order are for the same class,
and no two classes of one event share a name.

That rows are found under their own identifiers is no work of the run: a `Table` puts every row at
the place of its key, and it holds of any table. All else is kept by checks that are made before a
row is written or deleted: a new name is compared with those of the event, a new line with those of
the order, and a class is deleted only when no reservation refers to it.
-/

namespace BoxOffice

namespace Store

/-- No two reservations of one order are for the same class, and no two classes of one event share
a name. -/
structure Distinct (s : Store) : Prop where
  lines : ∀ r ∈ s.reservations.rows, ∀ r' ∈ s.reservations.rows,
    r.order = r'.order → r.ticketClass = r'.ticketClass → r = r'
  names : ∀ c ∈ s.ticketClasses.rows, ∀ c' ∈ s.ticketClasses.rows,
    c.event = c'.event → c.name = c'.name → c = c'

variable {s s' : Store} {rows : List Reservation} {lines : Lines}

theorem distinct_empty : Store.empty.Distinct :=
  ⟨fun _ member => absurd member List.not_mem_nil, fun _ member => absurd member List.not_mem_nil⟩

theorem Distinct.of_subset (distinct : s.Distinct)
    (reservations : s'.reservations.rows ⊆ s.reservations.rows)
    (classes : s'.ticketClasses.rows ⊆ s.ticketClasses.rows) : s'.Distinct where
  lines r stored r' stored' :=
    distinct.lines r (reservations stored) r' (reservations stored')
  names c member c' member' := distinct.names c (classes member) c' (classes member')

theorem nameIsTaken_eq_false_iff {c : TicketClass} :
    s.nameIsTaken c = false ↔ ∀ other ∈ s.ticketClasses.rows,
      other.id ≠ c.id → other.event = c.event → other.name ≠ c.name := by
  simp [nameIsTaken]

/-- A class is written under a name that no other class of its event has. -/
theorem Distinct.putTicketClass (distinct : s.Distinct) {c : TicketClass}
    (free : s.nameIsTaken c = false) : (s.putTicketClass c).Distinct where
  lines := distinct.lines
  names x member y member' sameEvent sameName := by
    have free := nameIsTaken_eq_false_iff.1 free
    rcases Table.mem_insert_iff.1 member with rfl | ⟨old, otherKey⟩
    · rcases Table.mem_insert_iff.1 member' with rfl | ⟨old', otherKey'⟩
      · rfl
      · exact absurd sameName.symm (free y old' otherKey' sameEvent.symm)
    · rcases Table.mem_insert_iff.1 member' with rfl | ⟨old', otherKey'⟩
      · exact absurd sameName (free x old otherKey sameEvent)
      · exact distinct.names x old y old' sameEvent sameName

theorem hasLine_eq_false_iff {order ticketClass : Uuid} :
    s.hasLine order ticketClass = false ↔ ∀ r ∈ s.reservations.rows,
      r.order = order → r.ticketClass ≠ ticketClass := by
  simp [hasLine]

/-- Merged lines name each class once, and so do the reservations that hold them. -/
theorem CanHold.eq_of_ticketClass_eq (can : s.CanHold rows lines) {r r' : Reservation}
    (new : r ∈ rows) (new' : r' ∈ rows) (same : r.ticketClass = r'.ticketClass) : r = r' := by
  have keys : (lines.rows.map fun line : Line => line.ticketClass).Nodup := lines.nodup_keys
  rw [← can.lines_eq, List.map_map] at keys
  exact List.inj_on_of_nodup_map keys new new' same

/-- New reservations of an order are for classes that it has no reservation of. -/
theorem Distinct.hold (distinct : s.Distinct) (can : s.CanHold rows lines) {order : Uuid}
    (ofOrder : ∀ r ∈ rows, r.order = order)
    (single : ∀ r ∈ rows, s.hasLine order r.ticketClass = false) :
    (s.hold rows lines).Distinct where
  lines r stored r' stored' sameOrder sameClass := by
    rcases can.mem_reservations_iff.1 stored with new | old
    · rcases can.mem_reservations_iff.1 stored' with new' | old'
      · exact can.eq_of_ticketClass_eq new new' sameClass
      · have apart := hasLine_eq_false_iff.1 (single r new) r' old'
          (sameOrder.symm.trans (ofOrder r new))
        exact absurd sameClass.symm apart
    · rcases can.mem_reservations_iff.1 stored' with new' | old'
      · have apart := hasLine_eq_false_iff.1 (single r' new') r old
          (sameOrder.trans (ofOrder r' new'))
        exact absurd sameClass apart
      · exact distinct.lines r old r' old' sameOrder sameClass
  names c member c' member' sameEvent sameName := by
    obtain ⟨x, inClasses, rfl⟩ := List.mem_map.1 member
    obtain ⟨x', inClasses', rfl⟩ := List.mem_map.1 member'
    rw [distinct.names x inClasses x' inClasses' sameEvent sameName]

/-- Concluded reservations stay of the order and the class that they were of. -/
theorem Distinct.conclude (distinct : s.Distinct) (rows : List Reservation)
    (status : Reservation.Status) (now : Instant) : (s.conclude rows status now).Distinct where
  lines r stored r' stored' sameOrder sameClass := by
    obtain ⟨x, inRows, rfl⟩ := mem_conclude_iff.1 stored
    obtain ⟨x', inRows', rfl⟩ := mem_conclude_iff.1 stored'
    have kept (x : Reservation) :
        (if x ∈ rows then x.marked status now else x).order = x.order ∧
          (if x ∈ rows then x.marked status now else x).ticketClass = x.ticketClass := by
      split <;> exact ⟨rfl, rfl⟩
    rw [(kept x).1, (kept x').1] at sameOrder
    rw [(kept x).2, (kept x').2] at sameClass
    rw [distinct.lines x inRows x' inRows' sameOrder sameClass]
  names c member c' member' sameEvent sameName := by
    obtain ⟨x, inClasses, rfl⟩ := List.mem_map.1 member
    obtain ⟨x', inClasses', rfl⟩ := List.mem_map.1 member'
    have kept (x : TicketClass) (quantity : Quantity) :
        (x.conclude status quantity).event = x.event ∧
          (x.conclude status quantity).name = x.name := by
      unfold TicketClass.conclude
      split <;> exact ⟨rfl, rfl⟩
    rw [(kept x _).1, (kept x' _).1] at sameEvent
    rw [(kept x _).2, (kept x' _).2] at sameName
    rw [distinct.names x inClasses x' inClasses' sameEvent sameName]

/-- What the rows of a store are to each other. The first two are so in every store, by the
invariant of `Table`. -/
structure Intact (s : Store) : Prop where
  classFound : ∀ id c, s.ticketClass? id = some c ↔ c ∈ s.ticketClasses.rows ∧ c.id = id
  rowFound : ∀ id r, s.reservations.find? id = some r ↔ r ∈ s.reservations.rows ∧ r.id = id
  known : ∀ r ∈ s.reservations.rows, ∃ c, s.ticketClass? r.ticketClass = some c
  distinct : s.Distinct
  positive : ∀ r ∈ s.reservations.rows, 1 ≤ r.quantity.toInt

end Store

namespace Desk

variable {d : Desk} {s s' : Store} {op : Operation} {told : Option Event}

/-- No operation gets past the checks. -/
theorem distinct_outcome (distinct : s.Distinct) (outcome : Operation.Outcome d s op s' told) :
    s'.Distinct := by
  have effect := outcome.effect
  generalize (op.run d).1 = answer at effect
  cases effect with
  | refused | looked | sweptNone => exact distinct
  | created valid drawn free => exact distinct.putTicketClass free
  | updated valid found applied free covered => exact distinct.putTicketClass free
  | deleted unused =>
    exact distinct.of_subset (fun _ stored => stored)
      fun _ member => (List.mem_filter.1 member).1
  | @reserved order items lines expiresAt rows accepted ahead drawn rows_eq free can =>
    have held : ∀ r ∈ rows, r.order = order ∧ s.hasLine order r.ticketClass = false := by
      intro r new
      rw [rows_eq] at new
      obtain ⟨id, line, inLines, rfl⟩ := Reservation.exists_eq_hold new
      exact ⟨rfl, (free line inLines).single⟩
    exact distinct.hold can (fun r new => (held r new).1) fun r new => (held r new).2
  | resolved how rows_eq nonempty clear => exact distinct.conclude _ _ _
  | swept sweeps rows_eq nonempty => exact distinct.conclude _ _ _
  | purged nonempty inactive =>
    exact distinct.of_subset (fun _ stored => (List.mem_filter.1 stored).1)
      fun _ member => member

theorem Reachable.distinct (reachable : d.Reachable) : ∃ s, d.Sound s ∧ s.Distinct := by
  obtain ⟨now, source, fails, ops, rfl, noRepeat⟩ := reachable
  exact (sound_opened now source fails).induction (fun _ _ s => s.Distinct) Store.distinct_empty
    (fun _ _ _ _ _ _ _ _ distinct outcome _ => distinct_outcome distinct outcome) ops noRepeat

/-- The rows of a store that operations can lead to: each is found under its identifier and nothing
else is, every reservation has a class and at least one ticket, and nothing that must not occur
twice does. -/
theorem store_intact (reachable : d.Reachable) : ∃ s, d.store = some s ∧ s.Intact := by
  obtain ⟨s, sound, distinct⟩ := reachable.distinct
  refine ⟨s, sound.stored, ?_⟩
  constructor
  case classFound => exact fun id c => Table.find?_eq_some_iff
  case rowFound => exact fun id r => Table.find?_eq_some_iff
  case known =>
    intro r stored
    obtain ⟨c, inClasses, same⟩ := sound.balanced.known r stored
    exact ⟨c, same ▸ Table.exists_find?_of_mem inClasses⟩
  case distinct => exact distinct
  case positive => exact sound.balanced.positive

/-- One order that has reserved two times, for different classes. -/
theorem store_intact_concert :
    (Concert.opened.after Concert.operations).Reachable ∧
      ∃ s, (Concert.opened.after Concert.operations).store = some s ∧ s.Intact ∧
        s.reservations.rows.length = 2 := by
  obtain ⟨s, stored, intact⟩ := store_intact Concert.reachable
  have rows : ((Concert.opened.after Concert.operations).store.map fun s =>
      s.reservations.rows.length) = some 2 := rfl
  rw [stored] at rows
  exact ⟨Concert.reachable, s, stored, intact, Option.some.inj rows⟩

end Desk

end BoxOffice
