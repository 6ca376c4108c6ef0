import BoxOffice.Event
import BoxOffice.Proofs.Balance

/-!
What events tell. An event is true of a store when it names rows of the store and sums their
quantities exactly; events one after the other add up to a ledger of counters. The quantities of
an event are computed apart from the counters, from merged request lines or from the rows of an
order, so that they agree is a result of its own: here it is shown for the two ways in which
bookings change a store.
-/

namespace BoxOffice

open Reservation (tickets)

namespace Event

/-- The event tells that an order was reserved; all others tell of the end of reservations. -/
def isReserved : Event → Bool
  | .reserved .. => true
  | _ => false

def status : Event → Reservation.Status
  | .reserved .. => .active
  | .confirmed .. => .confirmed
  | .released .. => .cancelled
  | .expired .. => .expired

theorem isReserved_iff {e : Event} : e.isReserved = true ↔ e.status = .active := by
  cases e <;> simp [isReserved, status]

def named (e : Event) (s : Store) : List Reservation :=
  s.reservations.rows.filter (·.id ∈ e.reservations)

/-- The event is true of a store: it names rows of the store, each once, which have the status
that it tells of, and its quantities are the exact sums over these rows for each class. -/
structure Describes (e : Event) (s : Store) : Prop where
  nodup : e.reservations.Nodup
  stored : ∀ id ∈ e.reservations, ∃ r ∈ s.reservations.rows, r.id = id
  status_eq : ∀ r ∈ e.named s, r.status = e.status
  exact : ∀ id, (e.quantities.quantity id).toInt = tickets (e.named s) id
  listed : ∀ id, (∃ line ∈ e.quantities.rows, line.ticketClass = id) ↔
    ∃ r ∈ e.named s, r.ticketClass = id

/-- What can be told of one reservation: nothing, that it was reserved, or this and later how it
has ended. -/
inductive IsLife : List Event → Prop
  | nothing : IsLife []
  | reserved {e : Event} (first : e.isReserved = true) : IsLife [e]
  | ended {e e' : Event} (first : e.isReserved = true) (last : e'.isReserved = false) :
    IsLife [e, e']

end Event

structure Ledger where
  reserved : Uuid → Int
  sold : Uuid → Int

namespace Ledger

def blank : Ledger := ⟨fun _ => 0, fun _ => 0⟩

/-- Reserved tickets are added; confirmed ones are no longer reserved but sold; those released or
expired are no longer reserved. -/
def post (l : Ledger) : Event → Ledger
  | .reserved _ _ lines _ =>
    { l with reserved := fun id => l.reserved id + (lines.quantity id).toInt }
  | .confirmed _ _ lines _ =>
    { reserved := fun id => l.reserved id - (lines.quantity id).toInt
      sold := fun id => l.sold id + (lines.quantity id).toInt }
  | .released _ _ lines _ | .expired _ lines _ =>
    { l with reserved := fun id => l.reserved id - (lines.quantity id).toInt }

def replay (events : List Event) : Ledger := events.foldl post blank

variable (l : Ledger) (e : Event) (id : Uuid)

theorem reserved_post :
    (l.post e).reserved id =
      if e.status = .active then l.reserved id + (e.quantities.quantity id).toInt
      else l.reserved id - (e.quantities.quantity id).toInt := by
  cases e <;> rfl

theorem sold_post :
    (l.post e).sold id =
      l.sold id + if e.status = .confirmed then (e.quantities.quantity id).toInt else 0 := by
  cases e <;> simp [post, Event.status, Event.quantities]

theorem replay_concat (events : List Event) :
    replay (events ++ [e]) = (replay events).post e := by
  simp [replay]

/-- A class that no event lists has nothing reserved and nothing sold. -/
theorem replay_eq_zero {events : List Event} {id : Uuid}
    (absent : ∀ e ∈ events, e.quantities.quantity id = 0) :
    (replay events).reserved id = 0 ∧ (replay events).sold id = 0 := by
  induction events using List.reverseRecOn with
  | nil => exact ⟨rfl, rfl⟩
  | append_singleton events e ih =>
    obtain ⟨reserved, sold⟩ := ih fun x member => absent x (List.mem_append_left _ member)
    have none : e.quantities.quantity id = 0 := absent e (by simp)
    rw [replay_concat, reserved_post, sold_post, none, reserved, sold]
    simp

end Ledger

/-! ### Events of bookings -/

namespace Event

/-- The event names reservations, gives merged lines and tells of a status. -/
structure Tells (e : Event) (rows : List Reservation) (lines : Lines)
    (status : Reservation.Status) : Prop where
  reservations_eq : e.reservations = rows.map (·.id)
  quantities_eq : e.quantities = lines
  status_eq : e.status = status

variable {e : Event} {s : Store} {rows : List Reservation} {lines : Lines}
  {status : Reservation.Status} {now : Instant}

theorem mem_named_iff {r : Reservation} :
    r ∈ e.named s ↔ r ∈ s.reservations.rows ∧ r.id ∈ e.reservations := by
  simp [named]

theorem nodup_named (e : Event) (s : Store) : (e.named s).Nodup :=
  s.reservations.nodup_rows.filter _

theorem Tells.mem_named_hold (tells : e.Tells rows lines .active) (can : s.CanHold rows lines)
    {r : Reservation} : r ∈ e.named (s.hold rows lines) ↔ r ∈ rows := by
  rw [mem_named_iff, tells.reservations_eq, can.mem_reservations_iff]
  constructor
  · rintro ⟨new | old, listed⟩
    · exact new
    · obtain ⟨x, inRows, same⟩ := List.mem_map.1 listed
      exact absurd same.symm (can.free x inRows r old)
  · exact fun new => ⟨.inl new, List.mem_map_of_mem new⟩

/-- The event of a reservation is true of the store after it. -/
theorem Tells.describes_hold (tells : e.Tells rows lines .active) (can : s.CanHold rows lines) :
    e.Describes (s.hold rows lines) where
  nodup := by
    rw [tells.reservations_eq]
    exact can.distinct
  stored id listed := by
    rw [tells.reservations_eq] at listed
    obtain ⟨r, new, same⟩ := List.mem_map.1 listed
    exact ⟨r, can.mem_reservations_iff.2 (.inl new), same⟩
  status_eq r member := by
    rw [tells.status_eq, can.active r ((tells.mem_named_hold can).1 member)]
  exact id := by
    rw [tells.quantities_eq, ← Lines.tickets_eq_quantity can.lines_eq]
    exact Reservation.tickets_eq_of_mem_iff (List.Nodup.of_map _ can.distinct) (nodup_named _ _)
      (fun r => (tells.mem_named_hold can).symm) id
  listed id := by
    rw [tells.quantities_eq, ← can.lines_eq]
    simp [tells.mem_named_hold can, Reservation.line]

theorem Tells.mem_named_conclude (tells : e.Tells rows lines status)
    (can : s.CanConclude rows status) {x : Reservation} :
    x ∈ e.named (s.conclude rows status now) ↔ x ∈ rows.map (·.marked status now) := by
  have stored (r : Reservation) (listed : r ∈ rows) : r ∈ s.reservations.rows :=
    (Store.mem_active_iff.1 (can.active r listed)).1
  rw [mem_named_iff, tells.reservations_eq, Store.mem_conclude_iff]
  constructor
  · rintro ⟨⟨r, inRows, rfl⟩, listed⟩
    obtain ⟨r', listed', same⟩ := List.mem_map.1 listed
    have sameId : r'.id = r.id := by
      rw [same]
      split <;> rfl
    obtain rfl := Table.eq_of_key_eq (stored r' listed') inRows sameId
    rw [if_pos listed']
    exact List.mem_map_of_mem listed'
  · intro member
    obtain ⟨r, listed, rfl⟩ := List.mem_map.1 member
    exact ⟨⟨r, stored r listed, if_pos listed⟩, List.mem_map.2 ⟨r, listed, rfl⟩⟩

/-- The event of a conclusion is true of the store after it. -/
theorem Tells.describes_conclude (tells : e.Tells rows (Reservation.lines rows) status)
    (now : Instant) (can : s.CanConclude rows status) (balanced : s.Balanced) :
    e.Describes (s.conclude rows status now) where
  nodup := by
    rw [tells.reservations_eq]
    exact can.nodup_ids
  stored id listed := by
    rw [tells.reservations_eq] at listed
    obtain ⟨r, inRows, same⟩ := List.mem_map.1 listed
    have member : r.marked status now ∈ e.named (s.conclude rows status now) :=
      (tells.mem_named_conclude can).2 (List.mem_map_of_mem inRows)
    exact ⟨r.marked status now, (mem_named_iff.1 member).1, same⟩
  status_eq x member := by
    obtain ⟨r, listed, rfl⟩ := List.mem_map.1 ((tells.mem_named_conclude can).1 member)
    exact tells.status_eq.symm
  exact id := by
    rw [tells.quantities_eq, can.toInt_quantity_lines balanced,
      ← Reservation.tickets_map (f := fun r => r.marked status now) fun _ _ => rfl]
    exact Reservation.tickets_eq_of_mem_iff (can.nodup_marked now) (nodup_named _ _)
      (fun x => (tells.mem_named_conclude can).symm) id
  listed id := by
    rw [tells.quantities_eq, Reservation.mem_lines_iff]
    constructor
    · rintro ⟨r, listed, same⟩
      exact ⟨r.marked status now,
        (tells.mem_named_conclude can).2 (List.mem_map_of_mem listed), same⟩
    · rintro ⟨x, member, same⟩
      obtain ⟨r, listed, rfl⟩ := List.mem_map.1 ((tells.mem_named_conclude can).1 member)
      exact ⟨r, listed, same⟩

end Event

end BoxOffice
