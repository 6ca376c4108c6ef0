import BoxOffice.Proofs.Overdue
import BoxOffice.Proofs.Runs
import Mathlib.Algebra.GroupWithZero.Nat
import Mathlib.Data.List.Forall2

/-!
Sweeps at one time. Each sweep takes the next part of the queue that the overdue reservations
stood in when the first sweep began, so what any number of sweeps have come to depends on the sum
of their sizes alone.
-/

namespace BoxOffice

open Reservation (tickets)

/-- How many reservations a sweep of a size takes up: sizes out of bounds count as 500. -/
def countedSize (size : Int) : Nat := if 1 ≤ size ∧ size ≤ 1000 then size.toNat else 500

def countedSum (sizes : List Int) : Nat := (sizes.map countedSize).sum

theorem toNat_sweepLimit (size : Int) : (sweepLimit size).toNat = countedSize size := by
  unfold sweepLimit countedSize
  split <;> rfl

theorem countedSum_concat (sizes : List Int) (size : Int) :
    countedSum (sizes ++ [size]) = countedSum sizes + countedSize size := by
  simp [countedSum]

namespace Store

/-- Listed reservations have expired, their tickets are no longer reserved, and nothing else has
changed. -/
structure Expired (s s' : Store) (rows : List Reservation) (now : Instant) : Prop where
  reservations : s'.reservations.rows = s.reservations.rows.map fun r =>
    if r ∈ rows then { r with status := .expired, updatedAt := now } else r
  classes : List.Forall₂
    (fun c c' => c' = { c with reserved := c'.reserved } ∧
      c'.reserved.toInt = c.reserved.toInt - tickets rows c.id)
    s.ticketClasses.rows s'.ticketClasses.rows

variable {s : Store} {rows : List Reservation}

theorem CanConclude.expired (can : s.CanConclude rows .expired) (balanced : s.Balanced)
    (now : Instant) : s.Expired (s.conclude rows .expired now) rows now where
  reservations := rfl
  classes := by
    refine List.forall₂_map_right_iff.2 (List.forall₂_same.2 fun c member => ⟨rfl, ?_⟩)
    obtain ⟨exact, nonneg, enough⟩ := can.toInt_quantity balanced member
    rw [← exact] at nonneg enough
    rw [(balanced.classes c member).toInt_reserved_conclude .expired nonneg enough, exact]

/-- The queue is taken out part by part. -/
theorem conclude_take_take (s : Store) (now : Instant) (m n : Nat) :
    (s.conclude ((s.overdue now).take m) .expired now).conclude
        (((s.overdue now).drop m).take n) .expired now =
      s.conclude ((s.overdue now).take (m + n)) .expired now := by
  have can := canConclude_of_sublist (List.take_sublist (m + n) (s.overdue now))
  rw [List.take_add] at can ⊢
  exact can.conclude_append

end Store

namespace Publisher

/-- The publisher after a sweep: when nothing has expired, nothing is told. -/
def tellExpired (p : Publisher) (rows : List Reservation) (now : Instant) : Publisher :=
  if rows = [] then p
  else (p.publish (.expired (rows.map (·.id)) (Reservation.lines rows) now)).2

theorem tellExpired_nil (p : Publisher) (now : Instant) : p.tellExpired [] now = p := rfl

/-- What a sweep tells is told after what was told before. -/
theorem exists_published_tellExpired (rows : List Reservation) (now : Instant) :
    ∃ told, ∀ p : Publisher, (p.tellExpired rows now).published = p.published ++ told := by
  by_cases none : rows = []
  · exact ⟨[], fun p => by rw [tellExpired, if_pos none, List.append_nil]⟩
  · exact ⟨_, fun p => by rw [tellExpired, if_neg none, publish]⟩

end Publisher

namespace Desk

variable {d : Desk} {s : Store}

def expired (d : Desk) (s : Store) (rows : List Reservation) (p : Publisher) : Desk :=
  { d with store := some (s.conclude rows .expired d.now), publisher := p }

theorem run_expire (stored : d.store = some s) (balanced : s.Balanced) (size : Int) :
    Operation.run d (.expire size) =
      (.ok (.count (min (countedSize size) (s.overdue d.now).length)),
        d.expired s ((s.overdue d.now).take (countedSize size))
          (d.publisher.tellExpired ((s.overdue d.now).take (countedSize size)) d.now)) := by
  have run_eq : Operation.run d (.expire size) = answered .count (d.expire size) := rfl
  have first : s.firstOverdue d.now (sweepLimit size) =
      (s.overdue d.now).take (countedSize size) := by
    rw [Store.firstOverdue, toNat_sweepLimit]
  rw [run_eq, Operation.expire_eq stored balanced, first, ← List.length_take]
  generalize (s.overdue d.now).take (countedSize size) = rows
  cases rows with
  | nil =>
    rw [if_pos rfl, expired, Store.conclude_nil, ← stored]
    rfl
  | cons r rows => rfl

theorem run_expire_of_empty (stored : d.store = some s) (balanced : s.Balanced)
    (empty : s.overdue d.now = []) (size : Int) :
    Operation.run d (.expire size) = (.ok (.count 0), d) := by
  rw [run_expire stored balanced, empty, List.take_nil, List.length_nil, Nat.min_zero, expired,
    Store.conclude_nil, Publisher.tellExpired_nil, ← stored]

/-- However many sweeps there were, what they came to is one part of the queue they started
with. -/
theorem after_sweeps (stored : d.store = some s) (balanced : s.Balanced) (sizes : List Int) :
    ∃ p, d.after (sizes.map .expire) =
      d.expired s ((s.overdue d.now).take (countedSum sizes)) p := by
  induction sizes using List.reverseRecOn with
  | nil =>
    refine ⟨d.publisher, ?_⟩
    have none : (s.overdue d.now).take (countedSum []) = [] := rfl
    rw [none, expired, Store.conclude_nil, ← stored]
    rfl
  | append_singleton sizes size ih =>
    obtain ⟨p, reached⟩ := ih
    have can := Store.canConclude_of_sublist
      (List.take_sublist (countedSum sizes) (s.overdue d.now))
    have run_eq := run_expire (d := d.expired s ((s.overdue d.now).take (countedSum sizes)) p) rfl
      (balanced.conclude can) size
    have time : (d.expired s ((s.overdue d.now).take (countedSum sizes)) p).now = d.now := rfl
    rw [time, Store.overdue_conclude_take] at run_eq
    rw [List.map_append, List.map_singleton, after_concat, reached, run_eq, countedSum_concat]
    have whole := s.conclude_take_take d.now (countedSum sizes) (countedSize size)
    exact ⟨_, congrArg (fun s' => Desk.mk (some s') d.now d.ids _) whole⟩

/-- What sweeps of some sizes, begun at a desk with a store, have come to, and what the next sweep
will do: it takes up the next part of the queue they were begun with. -/
structure SweptBy (d : Desk) (s : Store) (sizes : List Int) : Prop where
  now_eq : (d.after (sizes.map .expire)).now = d.now
  ids_eq : (d.after (sizes.map .expire)).ids = d.ids
  store : ∃ s', (d.after (sizes.map .expire)).store = some s' ∧
    s.Expired s' ((s.overdue d.now).take (countedSum sizes)) d.now
  count : ∀ size, (Operation.run (d.after (sizes.map .expire)) (.expire size)).1 =
    .ok (.count (min (countedSize size) ((s.overdue d.now).length - countedSum sizes)))
  next : ∀ size, ∃ s' s'', (d.after (sizes.map .expire)).store = some s' ∧
    (Operation.run (d.after (sizes.map .expire)) (.expire size)).2.store = some s'' ∧
      s'.Expired s'' (((s.overdue d.now).drop (countedSum sizes)).take (countedSize size)) d.now
  told : ∀ size, (Operation.run (d.after (sizes.map .expire)) (.expire size)).2.publisher =
    (d.after (sizes.map .expire)).publisher.tellExpired
      (((s.overdue d.now).drop (countedSum sizes)).take (countedSize size)) d.now

theorem Sound.sweptBy (sound : d.Sound s) (sizes : List Int) : d.SweptBy s sizes := by
  obtain ⟨p, reached⟩ := after_sweeps sound.stored sound.balanced sizes
  have can := Store.canConclude_of_sublist
    (List.take_sublist (countedSum sizes) (s.overdue d.now))
  have balanced :
      (s.conclude ((s.overdue d.now).take (countedSum sizes)) .expired d.now).Balanced :=
    sound.balanced.conclude can
  have left := s.overdue_conclude_take d.now (countedSum sizes)
  have run_eq (size : Int) := run_expire (d := d.after (sizes.map .expire))
    (s := s.conclude ((s.overdue d.now).take (countedSum sizes)) .expired d.now)
    (by rw [reached]; rfl) balanced size
  have now_eq : (d.after (sizes.map .expire)).now = d.now := by rw [reached]; rfl
  simp only [now_eq, left] at run_eq
  constructor
  case now_eq => exact now_eq
  case ids_eq => rw [reached]; rfl
  case store => exact ⟨_, by rw [reached]; rfl, can.expired sound.balanced d.now⟩
  case count => exact fun size => by rw [run_eq, List.length_drop]
  case next =>
    intro size
    have part : (((s.overdue d.now).drop (countedSum sizes)).take (countedSize size)).Sublist
        ((s.conclude ((s.overdue d.now).take (countedSum sizes)) .expired d.now).overdue
          d.now) := by
      rw [left]
      exact List.take_sublist ..
    refine ⟨_, _, by rw [reached]; rfl, by rw [run_eq]; rfl, ?_⟩
    rw [now_eq]
    exact (Store.canConclude_of_sublist part).expired balanced d.now
  case told => exact fun size => by rw [run_eq]; rfl

/-- Sweeps at one time, in every state that operations can lead to. The overdue reservations stand
in a queue, in the strict order of deadline and identifier. A sweep takes up the next ones, as many
as its size counts, until none is left; each expires and gives its tickets back, and nothing else
changes. So the sizes matter only by their sum, and once that reaches the length of the queue
nothing is overdue any more and further sweeps do nothing. -/
theorem sweeps_exact (reachable : d.Reachable) (now : Instant) :
    ∃ s, (d.atTime now).store = some s ∧
      (∀ r, r ∈ s.overdue now ↔
        r ∈ s.reservations.rows ∧ r.status = .active ∧ r.expiresAt < now) ∧
      (s.overdue now).Pairwise Reservation.DueBefore ∧
      (∀ sizes, (d.atTime now).SweptBy s sizes) ∧
      (∀ sizes sizes', countedSum sizes = countedSum sizes' →
        ((d.atTime now).after (sizes.map .expire)).store =
          ((d.atTime now).after (sizes'.map .expire)).store) ∧
      ∀ sizes, (s.overdue now).length ≤ countedSum sizes →
        (∃ s', ((d.atTime now).after (sizes.map .expire)).store = some s' ∧
          ∀ r ∈ s'.reservations.rows, ¬(r.status = .active ∧ r.expiresAt < now)) ∧
        ∀ size, Operation.run ((d.atTime now).after (sizes.map .expire)) (.expire size) =
          (.ok (.count 0), (d.atTime now).after (sizes.map .expire)) := by
  obtain ⟨s, sound⟩ := (reachable.atTime now).sound
  have mem_overdue (s : Store) (r : Reservation) : r ∈ s.overdue now ↔
      r ∈ s.reservations.rows ∧ r.status = .active ∧ r.expiresAt < now := by
    rw [Store.mem_overdue_iff, Store.mem_active_iff, and_assoc]
  refine ⟨s, sound.stored, mem_overdue s, s.pairwise_overdue now, sound.sweptBy,
    fun sizes sizes' same => ?_, fun sizes enough => ?_⟩
  · obtain ⟨p, reached⟩ := after_sweeps sound.stored sound.balanced sizes
    obtain ⟨p', reached'⟩ := after_sweeps sound.stored sound.balanced sizes'
    rw [reached, reached', same]
    rfl
  · have can := Store.canConclude_of_sublist
      (List.take_sublist (countedSum sizes) (s.overdue now))
    obtain ⟨p, reached⟩ := after_sweeps sound.stored sound.balanced sizes
    have none : (s.conclude ((s.overdue now).take (countedSum sizes)) .expired now).overdue now =
        [] := by
      rw [Store.overdue_conclude_take, List.drop_eq_nil_of_le enough]
    rw [reached]
    refine ⟨⟨_, rfl, fun r stored overdue => ?_⟩, run_expire_of_empty rfl
      (sound.balanced.conclude can) none⟩
    have queued : r ∈ (s.conclude ((s.overdue now).take (countedSum sizes)) .expired now).overdue
        now := (mem_overdue _ r).2 ⟨stored, overdue⟩
    rw [none] at queued
    exact List.not_mem_nil queued

end Desk

namespace Concert

def twoOClock : Instant := ⟨noon.date, 50400, 0, by decide, noon.nano_lt⟩

def threeOClock : Instant := ⟨noon.date, 54000, 0, by decide, noon.nano_lt⟩

def lateOrder : Uuid := .ofNat 10

/-- Two orders with one deadline, each for both classes, and a third with a later deadline. -/
def threeOrders : List Operation :=
  [.create (draft "Seats"), .create (draft "Standing"),
    .reserve order [⟨IdSupply.numbered 0, 2⟩, ⟨IdSupply.numbered 1, 1⟩] oneOClock,
    .reserve (.ofNat 8) [⟨IdSupply.numbered 1, 1⟩, ⟨IdSupply.numbered 0, 1⟩] oneOClock,
    .reserve lateOrder [⟨IdSupply.numbered 0, 1⟩] threeOClock]

theorem reachable_threeOrders : (opened.after threeOrders).Reachable := by
  have drawn : (opened.after threeOrders).ids = ⟨IdSupply.numbered, 7⟩ := rfl
  refine ⟨noon, IdSupply.numbered, false, threeOrders, rfl, ?_⟩
  rw [drawn]
  unfold IdSupply.NoRepeat
  decide

def late : Desk := (opened.after threeOrders).atTime twoOClock

end Concert

namespace Desk

/-- The second of two overdue orders is split between two sweeps, and a third sweep finds
nothing. -/
theorem sweeps_exact_concert :
    (Concert.opened.after Concert.threeOrders).Reachable ∧
      (Operation.run Concert.late (.expire 3)).1 = .ok (.count 3) ∧
      (Operation.run (Concert.late.after [.expire 3]) (.expire 0)).1 = .ok (.count 1) ∧
      (Operation.run (Concert.late.after [.expire 3, .expire 0]) (.expire 1000)).1 =
        .ok (.count 0) := by
  refine ⟨Concert.reachable_threeOrders, ?_⟩
  obtain ⟨s, stored, -, -, swept, -⟩ := sweeps_exact Concert.reachable_threeOrders Concert.twoOClock
  have four : (s.overdue Concert.twoOClock).length = 4 := by
    have rows : ((Concert.opened.after Concert.threeOrders).store.map fun s =>
        (s.reservations.rows.filter (Store.isOverdue Concert.twoOClock)).length) = some 4 := rfl
    rw [show (Concert.opened.after Concert.threeOrders).store = some s from stored] at rows
    rw [Store.overdue, List.length_mergeSort]
    exact Option.some.inj rows
  have answers (sizes : List Int) (size : Int) := (swept sizes).count size
  have time : ((Concert.opened.after Concert.threeOrders).atTime Concert.twoOClock).now =
      Concert.twoOClock := rfl
  simp only [time, four] at answers
  exact ⟨answers [] 3, answers [3] 0, answers [3, 0] 1000⟩

end Desk

end BoxOffice
