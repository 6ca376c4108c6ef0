import BoxOffice.Proofs.Resolutions

/-!
The life of a reservation. It begins, active and with a deadline, when an order is reserved. It is
confirmed, cancelled or expired at most once, and nothing else about it is ever changed. It ends
when its order is purged, which is refused while it is active; and as no identifier is drawn twice,
what is gone does not come back.

`Reservation.Passage` says once what an operation can do to the reservation under an identifier.
What can be found at a later time of a run, `Reservation.Becomes`, follows from it by induction on
the operations between.
-/

namespace BoxOffice

namespace Reservation

/-- What an operation can do, at the time on the clock, to what is stored under an identifier. -/
inductive Passage (op : Operation) (now : Instant) : Option Reservation → Option Reservation → Prop
  | unchanged (stored : Option Reservation) : Passage op now stored stored
  | held {id order : Uuid} {items : List Line} {line : Line} {expiresAt : Instant}
      (asked : op = .reserve order items expiresAt) :
    Passage op now none (some (.hold id order line expiresAt now))
  | confirmed {r : Reservation} (active : r.status = .active) (asked : op = .confirm r.order)
      (inTime : now ≤ r.expiresAt) :
    Passage op now (some r) (some { r with status := .confirmed, updatedAt := now })
  | cancelled {r : Reservation} (active : r.status = .active) (asked : op = .release r.order) :
    Passage op now (some r) (some { r with status := .cancelled, updatedAt := now })
  | expired {r : Reservation} {size : Int} (active : r.status = .active)
      (asked : op = .expire size ∨ op = .sweep size) (late : r.expiresAt < now) :
    Passage op now (some r) (some { r with status := .expired, updatedAt := now })
  | purged {r : Reservation} (final : r.status ≠ .active) (asked : op = .purge r.order) :
    Passage op now (some r) none

/-- What a reservation can be at a later time: itself in every field or, if it was active, itself
with a final status and the time at which it got that. -/
def Becomes (r later : Reservation) : Prop :=
  later = r ∨
    r.status = .active ∧ later.status ≠ .active ∧
      later = { r with status := later.status, updatedAt := later.updatedAt }

/-- Whatever is found later was there before, or something was that has become it. -/
def Follows (before later : Option Reservation) : Prop :=
  ∀ x, later = some x → ∃ r, before = some r ∧ r.Becomes x

theorem Becomes.trans {a b c : Reservation} (first : a.Becomes b) (second : b.Becomes c) :
    a.Becomes c := by
  rcases first with rfl | ⟨active, final, eq⟩
  · exact second
  · rcases second with rfl | ⟨activeAgain, -, -⟩
    · exact .inr ⟨active, final, eq⟩
    · exact absurd activeAgain final

theorem Follows.refl (stored : Option Reservation) : Follows stored stored :=
  fun x found => ⟨x, found, .inl rfl⟩

theorem Follows.trans {first second third : Option Reservation} (earlier : Follows first second)
    (later : Follows second third) : Follows first third := by
  intro x found
  obtain ⟨b, found', becomes⟩ := later x found
  obtain ⟨a, found'', becomes'⟩ := earlier b found'
  exact ⟨a, found'', becomes'.trans becomes⟩

theorem follows_marked {r : Reservation} (active : r.status = .active) {status : Status}
    (final : status ≠ .active) (now : Instant) : Follows (some r) (some (r.marked status now)) := by
  intro x found
  obtain rfl := Option.some.inj found
  exact ⟨r, rfl, .inr ⟨active, final, rfl⟩⟩

/-- A passage that does not begin a life only carries one on. -/
theorem Passage.follows {op : Operation} {now : Instant} {before later : Option Reservation}
    (passage : Passage op now before later) (notNew : before = none → later = none) :
    Follows before later := by
  cases passage with
  | unchanged => exact .refl _
  | held asked => cases notNew rfl
  | confirmed active asked inTime => exact follows_marked active (by simp) now
  | cancelled active asked => exact follows_marked active (by simp) now
  | expired active asked late => exact follows_marked active (by simp) now
  | purged final asked =>
    intro x found
    cases found

end Reservation

/-! ### One operation -/

namespace Store

variable {s : Store} {rows : List Reservation} {lines : Lines}

theorem find?_conclude (s : Store) (rows : List Reservation) (status : Reservation.Status)
    (now : Instant) (id : Uuid) :
    (s.conclude rows status now).reservations.find? id =
      (s.reservations.find? id).map fun r => if r ∈ rows then r.marked status now else r := by
  rw [conclude, markRows, Table.find?_update]

/-- Reservations that were there before are found after others were added. -/
theorem CanHold.find?_of_some (can : s.CanHold rows lines) {id : Uuid} {r : Reservation}
    (found : s.reservations.find? id = some r) :
    (s.hold rows lines).reservations.find? id = some r := by
  obtain ⟨stored, same⟩ := Table.find?_eq_some_iff.1 found
  exact Table.find?_eq_some_iff.2 ⟨can.mem_reservations_iff.2 (.inr stored), same⟩

theorem CanHold.mem_of_new (can : s.CanHold rows lines) {id : Uuid} {r : Reservation}
    (absent : s.reservations.find? id = none)
    (found : (s.hold rows lines).reservations.find? id = some r) : r ∈ rows := by
  obtain ⟨stored, same⟩ := Table.find?_eq_some_iff.1 found
  rcases can.mem_reservations_iff.1 stored with new | old
  · exact new
  · exact absurd same (Table.find?_eq_none_iff.1 absent r old)

end Store

namespace Operation

open Reservation (Passage Follows)

variable {d : Desk} {s s' : Store} {op : Operation} {told : Option Event}

/-- Resolving an order does to its reservations what the operation asks for. -/
theorem passage_resolved {order : Uuid} {how : Store.Resolution} {now : Instant} {r : Reservation}
    (ofOrder : r.order = order) (admits : how.Admits now r) :
    Passage (how.operation order) now (some r) (some (r.marked how.status now)) := by
  subst ofOrder
  cases how with
  | confirm =>
    have inTime : now ≤ r.expiresAt := Int.not_lt.1 (admits.2 rfl)
    exact .confirmed admits.1 rfl inTime
  | release => exact .cancelled admits.1 rfl

/-- Every outcome is a passage for the reservation under any identifier. -/
theorem Outcome.passage (outcome : Outcome d s op s' told) (id : Uuid) :
    Passage op d.now (s.reservations.find? id) (s'.reservations.find? id) := by
  have effect := outcome.effect
  generalize (op.run d).1 = answer at effect
  cases effect with
  | refused | looked | created | updated | deleted | sweptNone => exact .unchanged _
  | @reserved order items lines expiresAt rows accepted ahead drawn rows_eq free can =>
    cases before : s.reservations.find? id with
    | some r =>
      rw [can.find?_of_some before]
      exact .unchanged _
    | none =>
      cases later : (s.hold rows lines).reservations.find? id with
      | none => exact .unchanged _
      | some r =>
        have new := can.mem_of_new before later
        rw [rows_eq] at new
        obtain ⟨id', line, -, rfl⟩ := Reservation.exists_eq_hold new
        exact .held rfl
  | @resolved order how rows rows_eq nonempty clear =>
    rw [Store.find?_conclude]
    cases s.reservations.find? id with
    | none => exact .unchanged _
    | some r =>
      rw [Option.map_some]
      split
      next listed =>
        have admits := Store.findSome?_obstacle?_eq_none_iff.1 clear r listed
        rw [rows_eq] at listed
        exact passage_resolved (Store.mem_reservationsOf_iff.1 listed).2 admits
      next => exact .unchanged _
  | swept sweeps rows_eq nonempty =>
    rw [Store.find?_conclude]
    cases s.reservations.find? id with
    | none => exact .unchanged _
    | some r =>
      rw [Option.map_some]
      split
      next listed =>
        rw [rows_eq] at listed
        obtain ⟨-, active, late⟩ := Store.mem_firstOverdue listed
        exact .expired active sweeps (by simpa [Reservation.isPastDeadline] using late)
      next => exact .unchanged _
  | @purged order nonempty inactive =>
    show Passage _ _ _ ((s.reservations.filter fun r => r.order ≠ order).find? id)
    rw [Table.find?_filter]
    cases found : s.reservations.find? id with
    | none => exact .unchanged _
    | some r =>
      by_cases ofOrder : r.order = order
      · have listed : r ∈ s.reservationsOf order :=
          Store.mem_reservationsOf_iff.2 ⟨Table.mem_of_find? found, ofOrder⟩
        have gone : (some r).filter (fun r => decide (r.order ≠ order)) = none := by
          simp [ofOrder]
        rw [gone]
        exact .purged (inactive r listed) (ofOrder ▸ rfl)
      · have stays : (some r).filter (fun r => decide (r.order ≠ order)) = some r := by
          simp [ofOrder]
        rw [stays]
        exact .unchanged _

/-- Under an identifier that was issued before nothing new is stored. -/
theorem Outcome.find?_eq_none (outcome : Outcome d s op s' told)
    (noRepeat : (op.run d).2.ids.NoRepeat) {id : Uuid} (issued : d.ids.Issued id)
    (absent : s.reservations.find? id = none) : s'.reservations.find? id = none := by
  cases outcome.change noRepeat with
  | quiet quiet =>
    refine Table.find?_eq_none_iff.2 fun r stored => ?_
    exact Table.find?_eq_none_iff.1 absent r (quiet.rows r stored)
  | @held rows lines e can new tells =>
    cases later : (s.hold rows lines).reservations.find? id with
    | none => rfl
    | some r =>
      have notIssued := (new r (can.mem_of_new absent later)).1
      have sameId : r.id = id := Table.key_of_find? later
      exact absurd (sameId ▸ issued) notIssued
  | concluded can tells => rw [Store.find?_conclude, absent, Option.map_none]

end Operation

/-! ### Any number of operations -/

namespace Desk

open Reservation (Passage Follows)

variable {d : Desk} {s : Store}

def rowAfter (d : Desk) (ops : List Operation) (id : Uuid) : Option Reservation :=
  (d.after ops).store.bind (·.reservations.find? id)

theorem Sound.rowAfter_eq {ops : List Operation} (sound : (d.after ops).Sound s) (id : Uuid) :
    d.rowAfter ops id = s.reservations.find? id := by
  rw [rowAfter, sound.stored]
  rfl

theorem Sound.follows (sound : d.Sound s) (ops : List Operation)
    (noRepeat : (d.after ops).ids.NoRepeat) :
    ∃ s', (d.after ops).Sound s' ∧ ∀ id, d.ids.Issued id →
      Follows (s.reservations.find? id) (s'.reservations.find? id) := by
  refine sound.induction (fun _ _ s' => ∀ id, d.ids.Issued id →
    Follows (s.reservations.find? id) (s'.reservations.find? id)) ?_ ?_ ops noRepeat
  · exact fun id _ => .refl _
  · intro ops d' s' op s'' told reached sound' follows outcome noRepeat id issued
    have issued' : d'.ids.Issued id := reached ▸ issued.later (continues_after d ops)
    exact (follows id issued).trans
      ((outcome.passage id).follows (outcome.find?_eq_none noRepeat issued'))

/-- Every part of a run leads to a sound desk, and no identifier was drawn twice on the way. -/
def SoundRun (d : Desk) (ops : List Operation) : Prop :=
  ∀ part, part <+: ops → (d.after part).ids.NoRepeat ∧ ∃ s, (d.after part).Sound s

section SoundRun

variable {ops first last : List Operation} {id : Uuid} {r later : Reservation}

/-- What is not repeated by the end of a run was not repeated at any time before. -/
theorem soundRun_opened {now : Instant} {source : Nat → Uuid} {fails : Bool}
    (noRepeat : ((opened now source fails).after ops).ids.NoRepeat) :
    (opened now source fails).SoundRun ops := by
  rintro part ⟨rest, rfl⟩
  rw [after_append] at noRepeat
  have noRepeatPart := noRepeat.before (continues_after _ rest)
  exact ⟨noRepeatPart, Reachable.sound ⟨now, source, fails, part, rfl, noRepeatPart⟩⟩

theorem SoundRun.issued (run : d.SoundRun ops) (le : first <+: ops)
    (found : d.rowAfter first id = some r) : (d.after first).ids.Issued id := by
  obtain ⟨-, s, sound⟩ := run first le
  rw [sound.rowAfter_eq] at found
  exact Table.key_of_find? found ▸ sound.rowIssued r (Table.mem_of_find? found)

theorem SoundRun.follows (run : d.SoundRun ops) (le : first <+: last) (le' : last <+: ops)
    (issued : (d.after first).ids.Issued id) :
    Follows (d.rowAfter first id) (d.rowAfter last id) := by
  obtain ⟨-, s, sound⟩ := run first (le.trans le')
  have noRepeat := (run last le').1
  obtain ⟨rest, rfl⟩ := le
  rw [after_append] at noRepeat
  obtain ⟨s', sound', follows⟩ := sound.follows rest noRepeat
  rw [← after_append] at sound'
  rw [sound.rowAfter_eq, sound'.rowAfter_eq]
  exact follows id issued

theorem SoundRun.passage {before : List Operation} {op : Operation} (run : d.SoundRun ops)
    (le : before ++ [op] <+: ops) (id : Uuid) :
    Passage op (d.after before).now (d.rowAfter before id) (d.rowAfter (before ++ [op]) id) := by
  obtain ⟨-, s, sound⟩ := run before ((List.prefix_append before [op]).trans le)
  have noRepeat := (run _ le).1
  rw [after_concat] at noRepeat
  obtain ⟨s', told, outcome⟩ :=
    Operation.exists_outcome sound.stored sound.balanced sound.rowIssued op noRepeat
  have sound' := sound.outcome outcome noRepeat
  rw [← after_concat] at sound'
  rw [sound.rowAfter_eq, sound'.rowAfter_eq]
  exact outcome.passage id

theorem SoundRun.becomes (run : d.SoundRun ops) (le : first <+: last) (le' : last <+: ops)
    (found : d.rowAfter first id = some r) (found' : d.rowAfter last id = some later) :
    r.Becomes later := by
  have issued := run.issued (le.trans le') found
  obtain ⟨r', before, becomes⟩ := run.follows le le' issued later found'
  obtain rfl := Option.some.inj (found.symm.trans before)
  exact becomes

/-- An identifier stays issued when its reservation is gone, so nothing takes its place. -/
theorem SoundRun.gone {middle : List Operation} (run : d.SoundRun ops) (le : first <+: middle)
    (le' : middle <+: last) (le'' : last <+: ops) (found : d.rowAfter first id = some r)
    (absent : d.rowAfter middle id = none) : d.rowAfter last id = none := by
  have issued := run.issued (le.trans (le'.trans le'')) found
  obtain ⟨rest, rfl⟩ := le
  have stillIssued : (d.after (first ++ rest)).ids.Issued id := by
    rw [after_append]
    exact issued.later (continues_after _ rest)
  cases reborn : d.rowAfter last id with
  | none => rfl
  | some x =>
    obtain ⟨r', before, -⟩ := run.follows le' le'' stillIssued x reborn
    cases absent.symm.trans before

end SoundRun

structure OneWayLives (d : Desk) (ops : List Operation) : Prop where
  unborn : ∀ id, d.rowAfter [] id = none
  passage : ∀ before op, before ++ [op] <+: ops → ∀ id,
    Passage op (d.after before).now (d.rowAfter before id) (d.rowAfter (before ++ [op]) id)
  becomes : ∀ first last, first <+: last → last <+: ops → ∀ id r later,
    d.rowAfter first id = some r → d.rowAfter last id = some later → r.Becomes later
  gone : ∀ first middle last, first <+: middle → middle <+: last → last <+: ops → ∀ id r,
    d.rowAfter first id = some r → d.rowAfter middle id = none → d.rowAfter last id = none

/-- Reservations live one way, from being held to a final status that they keep in every field,
and to the purge of their order, in every run of operations from an empty store in which no
identifier is drawn twice. -/
theorem reservations_live_one_way (now : Instant) (source : Nat → Uuid) (fails : Bool)
    (ops : List Operation) (noRepeat : ((opened now source fails).after ops).ids.NoRepeat) :
    (opened now source fails).OneWayLives ops := by
  have run := soundRun_opened noRepeat
  constructor
  case unborn => exact fun id => rfl
  case passage => exact fun before op le id => run.passage le id
  case becomes => exact fun first last le le' id r later => run.becomes le le'
  case gone => exact fun first middle last le le' le'' id r => run.gone le le' le''

end Desk

def Concert.wholeLife : List Operation := operations.take 4 ++ [.purge order]

/-- The reservation of the order is held, then confirmed, and in the end it is gone. -/
theorem Desk.reservations_live_one_way_concert :
    (Concert.opened.after Concert.wholeLife).ids.NoRepeat ∧
      Concert.opened.OneWayLives Concert.wholeLife ∧
      ([2, 3, 4, 5].map fun n =>
        (Concert.opened.rowAfter (Concert.wholeLife.take n) (IdSupply.numbered 2)).map (·.status)) =
          [none, some .active, some .confirmed, none] := by
  have drawn : (Concert.opened.after Concert.wholeLife).ids = ⟨IdSupply.numbered, 3⟩ := rfl
  have noRepeat : (Concert.opened.after Concert.wholeLife).ids.NoRepeat := by
    rw [drawn]
    unfold IdSupply.NoRepeat
    decide
  exact ⟨noRepeat, reservations_live_one_way Concert.noon IdSupply.numbered false
    Concert.wholeLife noRepeat, rfl⟩

end BoxOffice
