import BoxOffice.Proofs.Steps

/-!
Keys of rows. A row is found under its identifier for as long as nothing is stored under that
identifier or deleted from it: a class keeps its event and the time at which it was set up, and a
reservation everything but its status and the time at which it got that.

That a key is taken is no reason for a store to refuse a row. Names of classes are compared, and so
are lines of orders, but a row under a key that is taken replaces the row that was there, with all
that it counted.
-/

namespace BoxOffice

/-- Two classes are one and the same at different times. -/
structure TicketClass.SameOrigin (c c' : TicketClass) : Prop where
  id : c'.id = c.id
  event : c'.event = c.event
  createdAt : c'.createdAt = c.createdAt

namespace Store

variable {s : Store} {c : TicketClass} {r : Reservation}

/-! ### Classes -/

theorem HasClass.sameOrigin_step {id : Uuid} (has : s.HasClass id c.SameOrigin) (step : Step) :
    (step.run s).2.HasClass id c.SameOrigin := by
  have effect := step.effect s
  generalize (step.run s).2 = s' at effect
  -- Whatever is written to a class, none of the fields in question is.
  have put {old new : TicketClass} {key : Uuid} (found : s.ticketClass? key = some old)
      (same : old.SameOrigin new) : (s.putTicketClass new).HasClass id c.SameOrigin :=
    has.put_changed found same.id fun before =>
      ⟨same.id.trans before.id, same.event.trans before.event,
        same.createdAt.trans before.createdAt⟩
  cases effect with
  | unchanged | inserted | deleted => exact has
  | marked => exact has.of_eq (ticketClasses_mark ..)
  | updated free found covers => exact put found ⟨rfl, rfl, rfl⟩
  | claimed found room => exact put found ⟨rfl, rfl, rfl⟩
  | givenBack found => exact put found ⟨rfl, rfl, rfl⟩
  | settled found enough => exact put found ⟨rfl, rfl, rfl⟩

theorem HasClass.sameOrigin_access {id : Uuid} (has : s.HasClass id c.SameOrigin) {access : Access}
    (apart : ¬access.Replaces id) : (access.run s).2.HasClass id c.SameOrigin := by
  have effect := access.effect s
  generalize (access.run s).2 = s' at effect
  cases effect with
  | unchanged => exact has
  | inserted free => exact has.put_other apart
  | deleted unused => exact has.erase_other apart
  | kept =>
    exact afterSteps_induction (P := fun s => s.HasClass id c.SameOrigin) has
      fun _ step _ has => has.sameOrigin_step step

/-! ### Reservations -/

/-- The reservation is there, with at most another status and the time at which it got that. -/
def HasRow (s : Store) (r : Reservation) : Prop :=
  ∃ status now, s.reservations.find? r.id = some (r.marked status now)

/-- The step neither stores a reservation under the identifier of another nor deletes that with its
order. -/
def Step.Spares (r : Reservation) : Step → Prop
  | .insertReservation x => x.id ≠ r.id
  | .deleteReservationsOf order => order ≠ r.order
  | _ => True

/-- The steps that have an effect in the end. -/
def Access.keptSteps : Access → List Step
  | .transaction steps true => steps
  | _ => []

theorem HasRow.of_find? (found : s.reservations.find? r.id = some r) : s.HasRow r :=
  ⟨r.status, r.updatedAt, found⟩

theorem HasRow.put_other (has : s.HasRow r) {x : Reservation} (other : x.id ≠ r.id) :
    (s.putReservation x).HasRow r := by
  obtain ⟨status, now, found⟩ := has
  have otherKey : Keyed.key x ≠ r.id := other
  refine ⟨status, now, ?_⟩
  show (s.reservations.insert x).find? r.id = _
  rw [Table.find?_insert, if_neg otherKey]
  exact found

/-- A reservation is replaced by itself with another status. -/
theorem HasRow.put_marked (has : s.HasRow r) {id : Uuid} {old : Reservation}
    (found : s.reservations.find? id = some old) (status : Reservation.Status) (now : Instant) :
    (s.putReservation (old.marked status now)).HasRow r := by
  have oldId : old.id = id := Table.key_of_find? found
  by_cases here : id = r.id
  · obtain ⟨status', now', found'⟩ := has
    rw [here, found'] at found
    obtain rfl := Option.some.inj found
    have sameKey : Keyed.key ((r.marked status' now').marked status now) = r.id := rfl
    exact ⟨status, now, (Table.find?_insert ..).trans (if_pos sameKey)⟩
  · exact has.put_other fun same => here (oldId.symm.trans same)

theorem HasRow.mark (has : s.HasRow r) (status : Reservation.Status) (now : Instant)
    (ids : List Uuid) : (s.mark status now ids).2.HasRow r := by
  induction ids generalizing s with
  | nil => exact has
  | cons id ids ih =>
    unfold Store.mark
    split
    next found =>
      split
      · exact ih (has.put_marked found status now)
      · exact ih has
    next => exact ih has

theorem HasRow.delete_other (has : s.HasRow r) {order : Uuid} (other : order ≠ r.order) :
    (s.deleteReservationsOf order).2.HasRow r := by
  obtain ⟨status, now, found⟩ := has
  have ofOther : (r.marked status now).order ≠ order := fun same => other same.symm
  refine ⟨status, now, ?_⟩
  show (s.reservations.filter _).find? r.id = _
  rw [Table.find?_filter, found]
  simp [ofOther]

theorem HasRow.step (has : s.HasRow r) {step : Step} (spares : step.Spares r) :
    (step.run s).2.HasRow r := by
  have effect := step.effect s
  generalize (step.run s).2 = s' at effect
  cases effect with
  | unchanged | updated | claimed | givenBack | settled => exact has
  | inserted known single => exact has.put_other spares
  | marked => exact has.mark ..
  | deleted => exact has.delete_other spares

theorem HasRow.access (has : s.HasRow r) {access : Access}
    (spares : ∀ step ∈ access.keptSteps, step.Spares r) : (access.run s).2.HasRow r := by
  have effect := access.effect s
  generalize (access.run s).2 = s' at effect
  cases effect with
  | unchanged | inserted | deleted => exact has
  | kept =>
    exact afterSteps_induction (P := fun s => s.HasRow r) has
      fun _ step member has => has.step (spares step member)

/-! ### Rows of a store -/

/-- A class that is there stays there, of its event and as old as it is, unless a class is stored
under its identifier or it is deleted; and a reservation stays with its order, class, quantity and
deadline, unless a reservation is stored under its identifier or its order is deleted. Rows that
are stored pass no check of their keys: whether they are new or not, they are what is found there
from then on. -/
theorem rows_keep_origin (s : Store) (script : List Access) :
    (∀ id c, s.ticketClass? id = some c → (∀ access ∈ script, ¬access.Replaces id) →
      (Access.runAll s script).2.HasClass id c.SameOrigin) ∧
      (∀ r ∈ s.reservations.rows,
        (∀ access ∈ script, ∀ step ∈ access.keptSteps, step.Spares r) →
          (Access.runAll s script).2.HasRow r) ∧
      (∀ c, s.nameIsTaken c = false →
        (Access.insertTicketClass c).run s = (.one (.ok .done), s.putTicketClass c) ∧
          (s.putTicketClass c).ticketClass? c.id = some c) ∧
      ∀ r c, s.ticketClass? r.ticketClass = some c → s.hasLine r.order r.ticketClass = false →
        (Step.insertReservation r).run s = (.ok .done, s.putReservation r) ∧
          (s.putReservation r).reservations.find? r.id = some r := by
  refine ⟨fun id c found apart => ?_, fun r stored spares => ?_, fun c free => ?_,
    fun r c found single => ?_⟩
  · have has : s.HasClass id c.SameOrigin := ⟨c, found, rfl, rfl, rfl⟩
    exact Access.runAll_induction (P := fun s => s.HasClass id c.SameOrigin) has
      fun _ access member has => has.sameOrigin_access (apart access member)
  · have has : s.HasRow r := .of_find? (Table.exists_find?_of_mem stored)
    exact Access.runAll_induction (P := fun s => s.HasRow r) has
      fun _ access member has => has.access (spares access member)
  · refine ⟨?_, by rw [ticketClass?_put, if_pos rfl]⟩
    rw [Access.run, Operation.insertTicketClass_eq, free]
    rfl
  · refine ⟨?_, (Table.find?_insert ..).trans (if_pos rfl)⟩
    rw [Step.run, insertReservation_of_some found, single]
    rfl

def standing : TicketClass := { seats with id := .ofNat 3, name := "Standing" }

def pair : Reservation :=
  .hold (.ofNat 2) Concert.order ⟨seats.id, 2⟩ Concert.oneOClock Concert.noon

def evening : List Access :=
  [.transaction [.mark [pair.id] .confirmed Concert.oneOClock, .settle seats.id 2] true,
    .transaction [.updateTicketClass { seats with name := "Stalls" }] true]

theorem rows_keep_origin_evening :
    ((Access.runAll (hall.putReservation pair) evening).2.HasClass seats.id seats.SameOrigin ∧
      (Access.runAll (hall.putReservation pair) evening).2.HasRow pair) ∧
      (Access.insertTicketClass standing).run hall =
        (.one (.ok .done), hall.putTicketClass standing) ∧
      (Step.insertReservation pair).run hall = (.ok .done, hall.putReservation pair) := by
  obtain ⟨classes, rows, -, -⟩ := rows_keep_origin (hall.putReservation pair) evening
  obtain ⟨-, -, inserted, reserved⟩ := rows_keep_origin hall evening
  refine ⟨⟨classes seats.id seats rfl ?_, rows pair ?_ ?_⟩, (inserted standing rfl).1,
    (reserved pair seats rfl rfl).1⟩
  · simp [evening, Access.Replaces]
  · exact Table.mem_insert_iff.2 (.inl rfl)
  · simp [evening, Access.keptSteps, Step.Spares]

def moved : TicketClass := { seats with event := .ofNat 8 }

/-- Seats of another event are not refused under an identifier that is taken. Those that were there
are gone, though nobody has deleted them. -/
theorem taken_key_not_refused :
    hall.ticketClass? moved.id = some seats ∧
      (Access.insertTicketClass moved).run hall =
        (.one (.ok .done), hall.putTicketClass moved) ∧
      (hall.putTicketClass moved).ticketClass? moved.id = some moved ∧
      moved.event ≠ seats.event :=
  ⟨rfl, rfl, rfl, by decide⟩

end Store

end BoxOffice
