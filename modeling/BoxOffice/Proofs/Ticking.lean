import BoxOffice.Proofs.Runs
import BoxOffice.Proofs.Ticks
import Mathlib.Data.List.Forall2

/-!
Sessions under a sweeper. The sweeper sweeps at the multiples of its interval, counted from the
moment it was set up and over all the waits since then. A session under it comes to the same as one
without it, in which the sweeps are asked for by name at the times that each wait reaches.
-/

namespace BoxOffice

/-! ### What is published -/

theorem Desk.exists_published_sweep (d : Desk) (size : Int) : ∃ told,
    (d.sweep size).2.publisher.published = d.publisher.published ++ told := by
  rw [Operation.sweep_desk, expire]
  have same : (d.change fun s => s.expire (sweepLimit size) d.now).2.publisher = d.publisher := by
    rw [change]
    split <;> rfl
  rcases changed : d.change fun s => s.expire (sweepLimit size) d.now with
    ⟨_ | ⟨_ | ⟨id, ids⟩, lines⟩, after⟩
  all_goals rw [changed] at same
  · exact ⟨[], by rw [List.append_nil, ← same]⟩
  · exact ⟨[], by rw [List.append_nil, ← same]⟩
  · exact ⟨[.expired (id :: ids) lines after.now], by rw [← same]; rfl⟩

theorem Desk.exists_published_sweeps (d : Desk) (sizes : List Int) : ∃ told,
    (d.sweeps sizes).publisher.published = d.publisher.published ++ told := by
  induction sizes generalizing d with
  | nil => exact ⟨[], (List.append_nil _).symm⟩
  | cons size sizes ih =>
    obtain ⟨first, published⟩ := d.exists_published_sweep size
    obtain ⟨rest, others⟩ := ih (d.sweep size).2
    rw [published, List.append_assoc] at others
    exact ⟨first ++ rest, others⟩

namespace Session

open Sweeper (Loop)

variable {s : Session} {ws : List Sweeper} {interval moment : Nat} {size : Int}
  {reached : Option Nat}

/-! ### Single steps -/

/-- The accounts so far tell of all that is published. -/
def Accounted (s : Session) : Prop := s.accounted = s.desk.publisher.published.length

/-- Between the steps of a session: no sweeper is at work. -/
structure Idle (s : Session) : Prop where
  unattended : s.sweepers = []
  accounted : s.Accounted

def withSweepers (s : Session) (ws : List Sweeper) : Session := { s with sweepers := ws }

theorem withSweepers_nil (unattended : s.sweepers = []) :
    (s.withSweepers ws).withSweepers [] = s := by
  obtain ⟨desk, site, elapsed, sweepers, accounted⟩ := s
  cases unattended
  rfl

def Step.isPlain : Step → Bool
  | .underSweeper .. => false
  | _ => true

def next (s : Session) (step : Step) : Session := ((s.take step).2.account (s.take step).1).2

def accountOf (s : Session) (step : Step) : Account := ((s.take step).2.account (s.take step).1).1

theorem takeAll_cons (s : Session) (step : Step) (steps : List Step) :
    s.takeAll (step :: steps) =
      (s.accountOf step :: ((s.next step).takeAll steps).1, ((s.next step).takeAll steps).2) := rfl

theorem takeAll_append (s : Session) (steps steps' : List Step) :
    s.takeAll (steps ++ steps') =
      ((s.takeAll steps).1 ++ ((s.takeAll steps).2.takeAll steps').1,
        ((s.takeAll steps).2.takeAll steps').2) := by
  induction steps generalizing s with
  | nil => rfl
  | cons step steps ih => simp only [List.cons_append, takeAll_cons, ih]

theorem length_takeAll (s : Session) (steps : List Step) :
    (s.takeAll steps).1.length = steps.length := by
  induction steps generalizing s with
  | nil => rfl
  | cons step steps ih => rw [takeAll_cons, List.length_cons, List.length_cons, ih]

theorem accounted_next (s : Session) (step : Step) : (s.next step).Accounted := rfl

theorem Accounted.takeAll (accounted : s.Accounted) (steps : List Step) :
    (s.takeAll steps).2.Accounted := by
  induction steps generalizing s with
  | nil => exact accounted
  | cons step steps ih => exact ih (s.accounted_next step)

theorem take_withSweepers {step : Step} (plain : step.isPlain = true) (same : step.waited? = none) :
    (s.withSweepers ws).take step = ((s.take step).1, (s.take step).2.withSweepers ws) := by
  cases step with
  | operate op => simp only [take, operate, withSweepers]
  | unreadable => rfl
  | advance n =>
    have now : (s.withSweepers ws).desk = s.desk := rfl
    simp only [take, advance, now]
    cases s.desk.now.shift? n with
    | none => rfl
    | some time => simp only [operate, withSweepers]
  | access a =>
    have now : (s.withSweepers ws).desk = s.desk := rfl
    simp only [take, access, now]
    cases s.desk.store <;> rfl
  | request r =>
    have site : (s.withSweepers ws).site = s.site := rfl
    simp only [take, request, site]
    cases s.site with
    | none => rfl
    | some site => simp only [withSweepers]
  | wait => cases same
  | underSweeper => cases plain

theorem elapsed_take {step : Step} (plain : step.isPlain = true) (same : step.waited? = none) :
    (s.take step).2.elapsed = s.elapsed := by
  cases step with
  | operate | unreadable => rfl
  | advance n =>
    rw [take, advance]
    split <;> rfl
  | access a =>
    rw [take, access]
    split <;> rfl
  | request r =>
    rw [take, request]
    split <;> rfl
  | wait => cases same
  | underSweeper => cases plain

theorem length_sweepers_dismiss (s : Session) (grace : Nat) :
    (s.dismiss grace).sweepers.length = s.sweepers.length - 1 := by
  rw [dismiss]
  split <;> simp [wait]

mutual

theorem length_sweepers_take (s : Session) : (step : Step) →
    (s.take step).2.sweepers.length = s.sweepers.length
  | .operate op => by simp only [take, operate]
  | .unreadable => rfl
  | .wait n => List.length_map ..
  | .advance n => by
    rw [take, advance]
    split
    · simp only [operate]
    · rfl
  | .access a => by
    rw [take, access]
    split <;> rfl
  | .request r => by
    rw [take, request]
    split
    · rfl
    · simp only []
  | .underSweeper interval size grace steps => by
    have inner := length_sweepers_takeAll (s.hire interval size) steps
    rw [take, length_sweepers_dismiss, inner, hire, List.length_append]
    rfl

theorem length_sweepers_takeAll (s : Session) : (steps : List Step) →
    (s.takeAll steps).2.sweepers.length = s.sweepers.length
  | [] => rfl
  | step :: steps =>
    (length_sweepers_takeAll (s.next step) steps).trans (length_sweepers_take s step)

end

theorem unattended_next (unattended : s.sweepers = []) (step : Step) :
    (s.next step).sweepers = [] := by
  have length := length_sweepers_take s step
  rw [unattended] at length
  exact List.length_eq_zero_iff.1 length

/-! ### Sessions between their steps -/

/-- Steps have led to the session from its start. -/
def Reached (s : Session) : Prop :=
  ∃ (store : Option Store) (now : Instant) (ids : List Uuid) (production : Bool)
    (allowedOrigins : Option String) (steps : List Step),
    s = ((start store now ids production allowedOrigins).takeAll steps).2

theorem Reached.idle (reached : s.Reached) : s.Idle := by
  obtain ⟨store, now, ids, production, allowedOrigins, steps, rfl⟩ := reached
  have accounted : (start store now ids production allowedOrigins).Accounted := rfl
  exact ⟨List.length_eq_zero_iff.1 (length_sweepers_takeAll _ steps), accounted.takeAll steps⟩

/-! ### Splitting waits -/

/-- Accounts of several steps are told as one: as the account of the last step, but with the events
of all. -/
inductive Told : Account → List Account → Prop
  | intro (front : List Account) (last : Account) :
    Told (last.1, (front ++ [last]).flatMap (·.2.1), last.2.2) (front ++ [last])

theorem told_self (a : Account) : Told a [a] := by
  have told := Told.intro [] a
  rw [List.nil_append, List.flatMap_singleton] at told
  exact told

theorem told_pair (a b : Account) : Told (b.1, a.2.1 ++ b.2.1, b.2.2) [a, b] := by
  have told := Told.intro [a] b
  rw [List.flatMap_append, List.flatMap_singleton, List.flatMap_singleton] at told
  exact told

theorem exists_published_wait (s : Session) (n : Nat) : ∃ told,
    (s.wait n).desk.publisher.published = s.desk.publisher.published ++ told :=
  Desk.exists_published_sweeps ..

theorem accountOf_wait (accounted : s.Accounted) (n : Nat) {told : List Event}
    (published : (s.wait n).desk.publisher.published = s.desk.publisher.published ++ told) :
    s.accountOf (.wait n) = (.answer (.ok .done), told, (s.wait n).ticketClasses) := by
  have dropped : (s.wait n).desk.publisher.published.drop s.accounted = told := by
    rw [published, accounted, List.drop_left]
  rw [← dropped]
  rfl

theorem next_wait (s : Session) (n : Nat) : s.next (.wait n) =
    { s.wait n with accounted := (s.wait n).desk.publisher.published.length } := rfl

/-- A wait comes to the same as two in a row, and is told as these are together. -/
theorem told_wait_wait (accounted : s.Accounted) (m n : Nat) :
    (s.next (.wait m)).next (.wait n) = s.next (.wait (m + n)) ∧
      Told (s.accountOf (.wait (m + n)))
        [s.accountOf (.wait m), (s.next (.wait m)).accountOf (.wait n)] := by
  obtain ⟨first, published⟩ := s.exists_published_wait m
  obtain ⟨second, later⟩ := (s.wait m).exists_published_wait n
  have together : (s.wait (m + n)).desk.publisher.published =
      s.desk.publisher.published ++ (first ++ second) := by
    rw [← wait_wait, later, published, List.append_assoc]
  constructor
  · rw [next_wait s (m + n), ← wait_wait]
    rfl
  · rw [accountOf_wait accounted m published, accountOf_wait accounted (m + n) together,
      accountOf_wait (s.accounted_next (.wait m)) n later, ← wait_wait]
    exact told_pair (.answer (.ok .done), first, (s.wait m).ticketClasses)
      (.answer (.ok .done), second, ((s.wait m).wait n).ticketClasses)

/-- A run with a wait and the one in which the wait is split: what the wait told is told by its
parts, and all else is alike. -/
def SplitsAlike (s : Session) (before : List Step) (m n : Nat) (after : List Step) : Prop :=
  ∃ whole first second rest,
    (s.takeAll (before ++ .wait (m + n) :: after)).1 =
      (s.takeAll before).1 ++ whole :: rest ∧
    (s.takeAll (before ++ .wait m :: .wait n :: after)).1 =
      (s.takeAll before).1 ++ first :: second :: rest ∧
    Told whole [first, second] ∧
    (s.takeAll (before ++ .wait m :: .wait n :: after)).2 =
      (s.takeAll (before ++ .wait (m + n) :: after)).2

theorem Accounted.splitsAlike (accounted : s.Accounted) (before : List Step) (m n : Nat)
    (after : List Step) : s.SplitsAlike before m n after := by
  obtain ⟨same, told⟩ := told_wait_wait (accounted.takeAll before) m n
  simp only [SplitsAlike, takeAll_append, takeAll_cons, same]
  exact ⟨_, _, _, _, rfl, rfl, told, trivial⟩

/-! ### Sweeps asked for by name -/

/-- The times, since a sweeper was set up, at which it is due while a step is taken. -/
def Step.dueTimes (interval : Nat) (reached : Option Nat) : Step → List Nat
  | .wait n => Sweeper.dueTimes interval reached (reached.getD 0 + n)
  | _ => []

/-- The time that is reached with a step, when there was a wait. -/
def Step.reaches (before : Option Nat) : Step → Option Nat
  | .wait n => some (before.getD 0 + n)
  | _ => before

/-- A step with the sweeps that are due in it asked for before. -/
def Step.explicit (interval : Nat) (size : Int) (reached : Option Nat) (step : Step) : List Step :=
  ((step.dueTimes interval reached).map fun _ => .operate (.sweep size)) ++ [step]

/-- The steps with the sweeps of a sweeper asked for, step by step. -/
def explicit (interval : Nat) (size : Int) : Option Nat → List Step → List (List Step)
  | _, [] => []
  | reached, step :: steps =>
    step.explicit interval size reached :: explicit interval size (step.reaches reached) steps

/-- The sweeps that are made in a step, but not by sweepers that it sets up itself. -/
def sweepsOf (s : Session) : Step → List Sweep
  | .wait n => Sweeper.schedules (s.elapsed + n) s.sweepers
  | _ => []

def sweepsOfAll (s : Session) : List Step → List Sweep
  | [] => []
  | step :: steps => s.sweepsOf step ++ (s.next step).sweepsOfAll steps

def swept (s : Session) (sizes : List Int) : Session where
  desk := s.desk.sweeps sizes
  site := s.site
  elapsed := s.elapsed
  sweepers := s.sweepers
  accounted := (s.desk.sweeps sizes).publisher.published.length

theorem swept_nil (accounted : s.Accounted) : s.swept [] = s := by
  obtain ⟨desk, site, elapsed, sweepers, count⟩ := s
  have same : count = desk.publisher.published.length := accounted
  rw [same]
  rfl

/-- Sweeps that are asked for, and what they publish. -/
theorem takeAll_sweeps (accounted : s.Accounted) (sizes : List Int) : ∃ accounts,
    s.takeAll (sizes.map fun size => .operate (.sweep size)) = (accounts, s.swept sizes) ∧
    (s.desk.sweeps sizes).publisher.published =
      s.desk.publisher.published ++ accounts.flatMap (·.2.1) := by
  induction sizes generalizing s with
  | nil =>
    refine ⟨[], ?_, (List.append_nil _).symm⟩
    rw [swept_nil accounted]
    rfl
  | cons size sizes ih =>
    obtain ⟨told, published⟩ := s.desk.exists_published_sweep size
    obtain ⟨accounts, run, others⟩ := ih (s.accounted_next (.operate (.sweep size)))
    refine ⟨s.accountOf (.operate (.sweep size)) :: accounts, ?_, ?_⟩
    · rw [List.map_cons, takeAll_cons, run]
      rfl
    · have first : (s.accountOf (.operate (.sweep size))).2.1 = told := by
        have dropped : (s.desk.sweep size).2.publisher.published.drop s.accounted = told := by
          rw [published, accounted, List.drop_left]
        exact dropped
      rw [List.flatMap_cons, first, ← List.append_assoc, ← published]
      exact others

structure Beside (interval : Nat) (size : Int) (moment : Nat) (reached : Option Nat)
    (s under : Session) : Prop where
  same : under = s.withSweepers [.hired interval size moment reached]
  idle : s.Idle
  elapsed : s.elapsed = moment + reached.getD 0

variable {under : Session} {step : Step} {steps : List Step}

theorem wait_of_unattended (unattended : s.sweepers = []) (n : Nat) :
    s.wait n = { s with elapsed := s.elapsed + n } := by
  obtain ⟨desk, site, elapsed, sweepers, accounted⟩ := s
  cases unattended
  rfl

theorem Beside.sweepsOf_wait (beside : Beside interval size moment reached s under) (n : Nat) :
    under.sweepsOf (.wait n) =
      (Sweeper.hired interval size moment reached).schedule (s.elapsed + n) := by
  obtain ⟨rfl, -, -⟩ := beside
  exact List.merge_right ..

/-- Sweeps are due, and made, at the same times. -/
theorem Beside.map_due_sweepsOf (beside : Beside interval size moment reached s under)
    (step : Step) : (under.sweepsOf step).map (·.due) =
      (step.dueTimes interval reached).map (moment + ·) := by
  cases step with
  | wait n =>
    have time : s.elapsed + n = moment + (reached.getD 0 + n) := by
      rw [beside.elapsed, Nat.add_assoc]
    rw [beside.sweepsOf_wait, time,
      Sweeper.map_due_schedule_hired moment (Sweeper.reached_le reached n)]
    rfl
  | _ => rfl

theorem Beside.size_of_mem_sweepsOf (beside : Beside interval size moment reached s under)
    {sweep : Sweep} (made : sweep ∈ under.sweepsOf step) : sweep.size = size := by
  obtain ⟨rfl, -, -⟩ := beside
  cases step with
  | wait n =>
    obtain ⟨w, only, made⟩ := Sweeper.exists_mem_schedule made
    obtain rfl := List.mem_singleton.1 only
    rw [Sweeper.size_of_mem_schedule made, Sweeper.size_hired]
  | _ => cases made

def Step.sizes (interval : Nat) (size : Int) (reached : Option Nat) (step : Step) : List Int :=
  (step.dueTimes interval reached).map fun _ => size

theorem Step.explicit_eq (step : Step) : step.explicit interval size reached =
    ((step.sizes interval size reached).map fun size => .operate (.sweep size)) ++ [step] := by
  rw [explicit, sizes, List.map_map]
  rfl

theorem Beside.sizes_eq (beside : Beside interval size moment reached s under) (step : Step) :
    (under.sweepsOf step).map (·.size) = step.sizes interval size reached := by
  have dues := congrArg (List.map fun _ => size) (beside.map_due_sweepsOf step)
  rw [List.map_map, List.map_map] at dues
  exact (List.map_congr_left fun _ made => beside.size_of_mem_sweepsOf made).trans dues

theorem wait_eq (s : Session) (n : Nat) : s.wait n = { s with
    desk := s.desk.sweeps ((s.sweepsOf (.wait n)).map (·.size))
    elapsed := s.elapsed + n
    sweepers := s.sweepers.map (·.after (s.elapsed + n)) } := rfl

/-- A wait under the sweeper is told as its sweeps and a wait without sweepers. -/
theorem Beside.take_wait (beside : Beside interval size moment reached s under) (n : Nat) :
    ∃ accounts s',
      s.takeAll (Step.explicit interval size reached (.wait n)) = (accounts, s') ∧
      Told (under.accountOf (.wait n)) accounts ∧
      Beside interval size moment (Step.reaches reached (.wait n)) s' (under.next (.wait n)) := by
  let sizes := Step.sizes interval size reached (.wait n)
  obtain ⟨accounts, run, published⟩ := takeAll_sweeps beside.idle.accounted sizes
  have made := beside.sizes_eq (.wait n)
  obtain ⟨rfl, idle, elapsed⟩ := beside
  let under := s.withSweepers [.hired interval size moment reached]
  let swept := s.swept sizes
  have waited : under.wait n = { swept with
      elapsed := s.elapsed + n
      sweepers := [.hired interval size moment (some (reached.getD 0 + n))]
      accounted := s.accounted } := by
    have time : under.elapsed + n = moment + (reached.getD 0 + n) := by
      rw [← Nat.add_assoc, ← elapsed]
      rfl
    have later : under.sweepers.map (·.after (under.elapsed + n)) =
        [.hired interval size moment (some (reached.getD 0 + n))] := by
      rw [time, ← Sweeper.after_hired moment (Sweeper.reached_le reached n)]
      rfl
    rw [wait_eq, made, later]
    rfl
  have rested : swept.wait n = { swept with elapsed := swept.elapsed + n } :=
    wait_of_unattended (s := swept) idle.unattended n
  have next : swept.next (.wait n) = { swept with elapsed := s.elapsed + n } := by
    rw [next_wait, rested]
    rfl
  have told : under.accountOf (.wait n) =
      (.answer (.ok .done), accounts.flatMap (·.2.1), swept.ticketClasses) := by
    have tells : (under.wait n).desk.publisher.published =
        under.desk.publisher.published ++ accounts.flatMap (·.2.1) := by
      rw [waited]
      exact published
    rw [accountOf_wait (s := under) idle.accounted n tells, waited]
    rfl
  have last : swept.accountOf (.wait n) = (.answer (.ok .done), [], swept.ticketClasses) := by
    have quiet : (swept.wait n).desk.publisher.published =
        swept.desk.publisher.published ++ [] := by rw [rested, List.append_nil]
    rw [accountOf_wait (s := swept) rfl n quiet, rested]
    rfl
  refine ⟨accounts ++ [swept.accountOf (.wait n)], swept.next (.wait n), ?_, ?_, ?_, ?_, ?_⟩
  · rw [Step.explicit_eq, takeAll_append, run]
    rfl
  · have whole := Told.intro accounts (swept.accountOf (.wait n))
    rw [List.flatMap_append, List.flatMap_singleton, last, List.append_nil] at whole
    rw [told, last]
    exact whole
  · rw [next, next_wait, waited]
    rfl
  · rw [next]
    exact ⟨idle.unattended, rfl⟩
  · rw [next, elapsed, Nat.add_assoc]
    rfl

theorem Step.eq_wait {n : Nat} (waits : step.waited? = some n) : step = .wait n := by
  cases step with
  | wait m => rw [Option.some.inj waits]
  | _ => cases waits

theorem Step.reaches_of_instant (instant : step.waited? = none) (reached : Option Nat) :
    step.reaches reached = reached := by
  cases step with
  | wait => cases instant
  | _ => rfl

theorem Step.explicit_of_instant (instant : step.waited? = none) :
    step.explicit interval size reached = [step] := by
  cases step with
  | wait => cases instant
  | _ => rfl

/-- Any other step is taken under the sweeper as it is without. -/
theorem Beside.take_other (beside : Beside interval size moment reached s under)
    (plain : step.isPlain = true) (other : step.waited? = none) : ∃ accounts s',
      s.takeAll (step.explicit interval size reached) = (accounts, s') ∧
      Told (under.accountOf step) accounts ∧
      Beside interval size moment (step.reaches reached) s' (under.next step) := by
  obtain ⟨rfl, idle, elapsed⟩ := beside
  let under := s.withSweepers [.hired interval size moment reached]
  have took : under.take step = ((s.take step).1, (s.take step).2.withSweepers under.sweepers) :=
    take_withSweepers plain other
  have told : under.accountOf step = s.accountOf step := by
    rw [accountOf, took]
    rfl
  refine ⟨[s.accountOf step], s.next step, ?_, ?_, ?_⟩
  · rw [Step.explicit_of_instant other]
    rfl
  · rw [told]
    exact told_self _
  · rw [Step.reaches_of_instant other]
    refine ⟨?_, ⟨unattended_next idle.unattended step, s.accounted_next step⟩,
      (elapsed_take plain other).trans elapsed⟩
    rw [next, took]
    rfl

/-- A step under the sweeper is told as the step with its sweeps asked for. -/
theorem Beside.take (beside : Beside interval size moment reached s under)
    (plain : step.isPlain = true) : ∃ accounts s',
      s.takeAll (step.explicit interval size reached) = (accounts, s') ∧
      Told (under.accountOf step) accounts ∧
      Beside interval size moment (step.reaches reached) s' (under.next step) := by
  cases waits : step.waited? with
  | none => exact beside.take_other plain waits
  | some n =>
    obtain rfl := Step.eq_wait waits
    exact beside.take_wait n

/-- A run under the sweeper is told as the run with its sweeps asked for, step by step. -/
theorem Beside.takeAll (beside : Beside interval size moment reached s under)
    (plain : ∀ step ∈ steps, step.isPlain = true) : ∃ accounts s' reached',
      s.takeAll (explicit interval size reached steps).flatten = (accounts.flatten, s') ∧
      List.Forall₂ (fun block accounts => accounts.length = block.length)
        (explicit interval size reached steps) accounts ∧
      List.Forall₂ Told (under.takeAll steps).1 accounts ∧
      Beside interval size moment reached' s' (under.takeAll steps).2 := by
  induction steps generalizing reached s under with
  | nil => exact ⟨[], s, reached, rfl, .nil, .nil, beside⟩
  | cons step steps ih =>
    obtain ⟨first, others⟩ := List.forall_mem_cons.1 plain
    obtain ⟨front, s₁, run, told, beside₁⟩ := beside.take first
    obtain ⟨accounts, s₂, reached', rest, lengths, tells, beside₂⟩ := ih beside₁ others
    have length := s.length_takeAll (step.explicit interval size reached)
    rw [run] at length
    refine ⟨front :: accounts, s₂, reached', ?_, .cons length lengths, .cons told tells, beside₂⟩
    rw [explicit, List.flatten_cons, List.flatten_cons, takeAll_append, run, rest]

/-! ### Whole runs -/

/-- The milliseconds of the waits among the steps. -/
def waits (steps : List Step) : List Nat := steps.filterMap Step.waited?

/-- The times, since a sweeper was set up, at which it is due while steps are taken. -/
def dueTimesOfAll (interval : Nat) : Option Nat → List Step → List Nat
  | _, [] => []
  | reached, step :: steps =>
    step.dueTimes interval reached ++ dueTimesOfAll interval (step.reaches reached) steps

/-- No due time is passed over or met twice. -/
theorem dueTimesOfAll_eq (reached : Option Nat) (steps : List Step) :
    dueTimesOfAll interval reached steps =
      if reached = none ∧ waits steps = [] then []
      else Sweeper.dueTimes interval reached (reached.getD 0 + (waits steps).sum) := by
  induction steps generalizing reached with
  | nil =>
    cases reached with
    | none => rfl
    | some t => exact (Sweeper.dueTimes_self interval t).symm
  | cons step steps ih =>
    cases step with
    | wait n =>
      have cons : waits (.wait n :: steps) = n :: waits steps := rfl
      have later : ¬(Step.reaches reached (.wait n) = none ∧ waits steps = []) := fun none => by
        cases none.1
      have waited : ¬(reached = none ∧ n :: waits steps = []) := fun none =>
        List.cons_ne_nil _ _ none.2
      rw [dueTimesOfAll, ih, cons, if_neg later, if_neg waited, List.sum_cons, ← Nat.add_assoc,
        Sweeper.dueTimes_append (Sweeper.reached_le reached n) (Nat.le_add_right ..)]
      rfl
    | _ => exact ih reached

theorem Beside.map_due_sweepsOfAll (beside : Beside interval size moment reached s under)
    (plain : ∀ step ∈ steps, step.isPlain = true) :
    (under.sweepsOfAll steps).map (·.due) =
      (dueTimesOfAll interval reached steps).map (moment + ·) := by
  induction steps generalizing reached s under with
  | nil => rfl
  | cons step steps ih =>
    obtain ⟨first, others⟩ := List.forall_mem_cons.1 plain
    obtain ⟨-, _, -, -, beside'⟩ := beside.take first
    rw [sweepsOfAll, List.map_append, beside.map_due_sweepsOf, ih beside' others, dueTimesOfAll,
      List.map_append]

theorem Beside.size_of_mem_sweepsOfAll (beside : Beside interval size moment reached s under)
    (plain : ∀ step ∈ steps, step.isPlain = true) {sweep : Sweep}
    (made : sweep ∈ under.sweepsOfAll steps) : sweep.size = size := by
  induction steps generalizing reached s under with
  | nil => cases made
  | cons step steps ih =>
    obtain ⟨first, others⟩ := List.forall_mem_cons.1 plain
    obtain ⟨-, _, -, -, beside'⟩ := beside.take first
    rcases List.mem_append.1 made with now | later
    · exact beside.size_of_mem_sweepsOf now
    · exact ih beside' others later

theorem Beside.ticks (beside : Beside interval size moment reached s under) (n : Nat) :
    Loop.Ticks (s.elapsed + n) ⟨.hired interval size moment reached, false⟩
      (under.sweepsOf (.wait n))
      ⟨.hired interval size moment (some (reached.getD 0 + n)), false⟩ := by
  have later : moment + (reached.getD 0 + n) = s.elapsed + n := by
    rw [← Nat.add_assoc, ← beside.elapsed]
  have after : (Sweeper.hired interval size moment reached).after (s.elapsed + n) =
      .hired interval size moment (some (reached.getD 0 + n)) := by
    rw [← later]
    exact Sweeper.after_hired moment (Sweeper.reached_le reached n)
  rw [beside.sweepsOf_wait, ← after]
  exact Loop.ticks_schedule ..

/-- The loop of the sweeper makes the sweeps of all steps, tick by tick. -/
theorem Beside.serves (beside : Beside interval size moment reached s under)
    (plain : ∀ step ∈ steps, step.isPlain = true) :
    ∃ last, Loop.Serves s.elapsed ⟨.hired interval size moment reached, false⟩ steps
      (under.sweepsOfAll steps) last := by
  induction steps generalizing reached s under with
  | nil => exact ⟨_, .done⟩
  | cons step steps ih =>
    obtain ⟨first, others⟩ := List.forall_mem_cons.1 plain
    cases waits : step.waited? with
    | none =>
      obtain ⟨-, s', -, -, beside'⟩ := beside.take_other first waits
      have same := Step.reaches_of_instant waits reached
      have sameTime : s'.elapsed = s.elapsed := by rw [beside'.elapsed, same, beside.elapsed]
      obtain ⟨last, serves⟩ := ih beside' others
      have quiet : under.sweepsOf step = [] := by
        cases step with
        | wait => cases waits
        | _ => rfl
      rw [same, sameTime] at serves
      rw [sweepsOfAll, quiet]
      exact ⟨last, .other waits serves⟩
    | some n =>
      obtain rfl := Step.eq_wait waits
      obtain ⟨-, s', -, -, beside'⟩ := beside.take_wait n
      have time : s'.elapsed = s.elapsed + n := by
        rw [beside'.elapsed, beside.elapsed, Nat.add_assoc]
        rfl
      obtain ⟨last, serves⟩ := ih beside' others
      rw [time] at serves
      exact ⟨last, .wait (beside.ticks n) serves⟩

theorem sweepsOfAll_of_unattended (unattended : s.sweepers = []) (steps : List Step) :
    s.sweepsOfAll steps = [] := by
  induction steps generalizing s with
  | nil => rfl
  | cons step steps ih =>
    rw [sweepsOfAll, ih (unattended_next unattended step), List.append_nil]
    cases step with
    | wait n => rw [sweepsOf, unattended, Sweeper.schedules]
    | _ => rfl

theorem dismiss_of_single {w : Sweeper} (single : s.sweepers = [w]) (grace : Nat) :
    s.dismiss grace = s.withSweepers [] := by
  have last : s.sweepers.dropLast = [] := by
    rw [single]
    rfl
  rw [dismiss, last]
  split
  · rfl
  · exact wait_of_unattended (s := s.withSweepers []) rfl 0

/-- A run under a sweeper that is set up where no other is at work. -/
structure Regular (s : Session) (interval : Nat) (size : Int) (steps : List Step) : Prop where
  /-- It sweeps at the times that are due in the steps, -/
  dues : ((s.hire interval size).sweepsOfAll steps).map (·.due) =
    (dueTimesOfAll interval none steps).map (s.elapsed + ·)
  sizes : ∀ sweep ∈ (s.hire interval size).sweepsOfAll steps, sweep.size = size
  /-- and these are the multiples of its interval up to the time that was waited. -/
  multiples : dueTimesOfAll interval none steps =
    if interval = 0 ∨ waits steps = [] then []
    else (List.range ((waits steps).sum / interval + 1)).map (· * interval)
  /-- They are those that its loop makes, tick by tick, until it is told to stop. After that it
  makes none. -/
  loop : ∃ last,
    Loop.Serves s.elapsed (.start interval size s.elapsed) steps
      ((s.hire interval size).sweepsOfAll steps) last ∧
    (∀ sweeps last', Loop.Serves s.elapsed (.start interval size s.elapsed) steps sweeps last' →
      sweeps = (s.hire interval size).sweepsOfAll steps ∧ last' = last) ∧
    ∀ time later sweeps last', Loop.Serves time last.stop later sweeps last' → sweeps = []
  /-- The run is told as the one with these sweeps asked for. -/
  byName : ∃ accounts : List (List Account),
    s.takeAll (explicit interval size none steps).flatten =
      (accounts.flatten, ((s.hire interval size).takeAll steps).2.withSweepers []) ∧
    List.Forall₂ (fun block accounts => accounts.length = block.length)
      (explicit interval size none steps) accounts ∧
    List.Forall₂ Told ((s.hire interval size).takeAll steps).1 accounts
  /-- Where a wait is split makes no difference. -/
  split : ∀ before m n after, steps = before ++ .wait (m + n) :: after →
    (s.hire interval size).SplitsAlike before m n after
  /-- The sweeper stops with the steps. -/
  dismissed : ∀ grace, s.take (.underSweeper interval size grace steps) =
    (.accounts ((s.hire interval size).takeAll steps).1,
      ((s.hire interval size).takeAll steps).2.withSweepers [])
  quiet : ∀ later,
    (((s.hire interval size).takeAll steps).2.withSweepers []).sweepsOfAll later = []

theorem Idle.beside_hire (idle : s.Idle) (interval : Nat) (size : Int) :
    Beside interval size s.elapsed none s (s.hire interval size) := by
  refine ⟨?_, idle, rfl⟩
  rw [hire, idle.unattended]
  rfl

/-- In every session that steps have led to, a sweeper sweeps at the multiples of its interval that
are reached by waiting under it, whatever else is done meanwhile. -/
theorem sweeps_at_multiples (reached : s.Reached) (interval : Nat) (size : Int)
    {steps : List Step} (plain : ∀ step ∈ steps, step.isPlain = true) :
    s.Regular interval size steps := by
  have idle := reached.idle
  have beside := idle.beside_hire interval size
  obtain ⟨accounts, s', _, run, lengths, tells, beside'⟩ := beside.takeAll plain
  have same : ((s.hire interval size).takeAll steps).2.withSweepers [] = s' := by
    rw [beside'.same]
    exact withSweepers_nil beside'.idle.unattended
  exact {
    dues := beside.map_due_sweepsOfAll plain
    sizes := fun _ made => beside.size_of_mem_sweepsOfAll plain made
    multiples := by
      rw [dueTimesOfAll_eq, Option.getD_none, Nat.zero_add]
      by_cases none : waits steps = []
      · rw [if_pos ⟨rfl, none⟩, if_pos (.inr none)]
      · rw [if_neg fun both => none both.2]
        rcases Nat.eq_zero_or_pos interval with rfl | regular
        · rw [if_pos (.inl rfl), Sweeper.dueTimes_zero]
        · rw [if_neg (not_or.2 ⟨regular.ne', none⟩), Sweeper.dueTimes_none regular]
    loop := by
      obtain ⟨last, serves⟩ := beside.serves plain
      exact ⟨last, serves, fun _ _ other => other.unique serves,
        fun _ _ _ _ other => other.of_stopping rfl⟩
    byName := ⟨accounts, by rw [run, same], lengths, tells⟩
    split := fun before m n after _ =>
      have accounted : (s.hire interval size).Accounted := idle.accounted
      accounted.splitsAlike before m n after
    dismissed := fun grace => by
      have took : s.take (.underSweeper interval size grace steps) =
          (.accounts ((s.hire interval size).takeAll steps).1,
            ((s.hire interval size).takeAll steps).2.dismiss grace) := rfl
      have single := congrArg sweepers beside'.same
      rw [took, dismiss_of_single single]
    quiet := sweepsOfAll_of_unattended rfl }

end Session

def Concert.session : Session :=
  .start (Concert.opened.after (Concert.operations.take 3)).store Concert.noon [] false none

namespace Session

/-- A sweeper that sweeps every 100 milliseconds is due three times in 50 and 150, and the order is
confirmed between. -/
theorem sweeps_at_multiples_concert :
    Concert.session.Reached ∧
      ((Concert.session.hire 100 10).sweepsOfAll
        [.wait 50, .operate (.confirm Concert.order), .wait 150]).map (·.due) = [0, 100, 200] := by
  have reached : Concert.session.Reached := ⟨_, _, _, _, _, [], rfl⟩
  have regular : Concert.session.Regular 100 10
      [.wait 50, .operate (.confirm Concert.order), .wait 150] :=
    sweeps_at_multiples reached 100 10 (List.all_eq_true.1 rfl)
  refine ⟨reached, ?_⟩
  rw [regular.dues, regular.multiples]
  rfl

end Session

end BoxOffice
