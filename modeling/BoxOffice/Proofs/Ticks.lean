import BoxOffice.Proofs.Waiting

/-!
The loop of a sweeper, tick by tick. Each time round, the loop looks first whether it was told to
stop. If it was not and a sweep is due, it makes the sweep and plans the next one an interval later;
else it rests. A loop with an interval of zero fails before its first sweep.

How many sweeps are due up to a time is defined as a quotient (`Sweeper.sweepsUntil`). The loop
does not divide: it ticks as often as it can, and comes to the same.
-/

namespace BoxOffice

def Session.Step.waited? : Step → Option Nat
  | .wait n => some n
  | _ => none

namespace Sweeper

def next (w : Sweeper) : Sweeper := { w with planned := w.due, due := w.due + w.interval }

structure Loop where
  sweeper : Sweeper
  /-- Whether the loop was told to stop. -/
  stopping : Bool

namespace Loop

def start (interval : Nat) (size : Int) (time : Nat) : Loop := ⟨.start interval size time, false⟩

def stop (l : Loop) : Loop := { l with stopping := true }

/-- What is done at a time: the sweep that is made, if one is, and the loop after it. -/
def tick? (l : Loop) (time : Nat) : Option (Sweep × Loop) :=
  if l.stopping then none
  else if l.sweeper.interval = 0 ∨ time < l.sweeper.due then none
  else some (l.sweeper.nextSweep, { l with sweeper := l.sweeper.next })

/-- The sweeps that a loop makes at a time until it comes to rest. -/
inductive Ticks (time : Nat) : Loop → List Sweep → Loop → Prop
  | rest {l : Loop} (resting : l.tick? time = none) : Ticks time l [] l
  | tick {l l' last : Loop} {sweep : Sweep} {sweeps : List Sweep}
    (ticks : l.tick? time = some (sweep, l')) (others : Ticks time l' sweeps last) :
    Ticks time l (sweep :: sweeps) last

/-- The sweeps that a loop makes beside the steps of a session, from a time on: it ticks when a wait
has reached a later time. -/
inductive Serves : Nat → Loop → List Session.Step → List Sweep → Loop → Prop
  | done {time : Nat} {l : Loop} : Serves time l [] [] l
  | wait {time n : Nat} {l l' last : Loop} {steps : List Session.Step} {sweeps sweeps' : List Sweep}
    (ticks : Ticks (time + n) l sweeps l') (others : Serves (time + n) l' steps sweeps' last) :
    Serves time l (.wait n :: steps) (sweeps ++ sweeps') last
  | other {time : Nat} {l last : Loop} {step : Session.Step} {steps : List Session.Step}
    {sweeps : List Sweep} (instant : step.waited? = none)
    (others : Serves time l steps sweeps last) :
    Serves time l (step :: steps) sweeps last

end Loop

variable {w : Sweeper} {time : Nat}

/-! ### One tick -/

theorem afterSweeps_next (w : Sweeper) (n : Nat) :
    w.next.afterSweeps n = w.afterSweeps (n + 1) := by
  have one : w.afterSweeps 1 = w.next := by
    simp only [afterSweeps, next, Nat.zero_mul, Nat.add_zero, Nat.zero_add, Nat.one_mul]
  rw [← one, afterSweeps_afterSweeps, Nat.add_comm]

/-- A sweep that is due is one more than those that are due after it. -/
theorem sweepsUntil_next (regular : 0 < w.interval) (due : w.due ≤ time) :
    w.sweepsUntil time = w.next.sweepsUntil time + 1 := by
  have regular' : 0 < w.next.interval := regular
  rw [sweepsUntil_of_le regular due]
  by_cases again : w.next.due ≤ time
  · have later : w.due + w.interval ≤ time := again
    have part : (time - w.due) / w.interval = (time - w.next.due) / w.interval + 1 := by
      rw [Nat.div_eq_sub_div regular (by omega), Nat.sub_sub]
      rfl
    rw [sweepsUntil_of_le regular' again, part]
    rfl
  · have early : time < w.due + w.interval := Nat.lt_of_not_le again
    rw [sweepsUntil_of_lt (Nat.lt_of_not_le again), Nat.div_eq_of_lt (by omega)]

theorem schedule_next (regular : 0 < w.interval) (due : w.due ≤ time) :
    w.schedule time = w.nextSweep :: w.next.schedule time := by
  rw [schedule, sweepsUntil_next regular due, List.range_succ_eq_map, List.map_cons, List.map_map]
  refine congrArg _ (List.map_congr_left fun n _ => ?_)
  rw [afterSweeps_next]
  rfl

theorem after_next (regular : 0 < w.interval) (due : w.due ≤ time) :
    w.after time = w.next.after time := by
  rw [after, after, afterSweeps_next, sweepsUntil_next regular due]

/-! ### All ticks up to a time -/

namespace Loop

variable {l l' last last' : Loop} {sweep : Sweep} {sweeps sweeps' : List Sweep}

theorem tick?_of_stopping (stopping : l.stopping = true) (time : Nat) : l.tick? time = none :=
  if_pos stopping

theorem tick?_of_due (regular : 0 < w.interval) (due : w.due ≤ time) :
    tick? ⟨w, false⟩ time = some (w.nextSweep, ⟨w.next, false⟩) :=
  if_neg (not_or.2 ⟨regular.ne', due.not_gt⟩)

theorem tick?_of_sweepsUntil_eq_zero (none : w.sweepsUntil time = 0) :
    tick? ⟨w, false⟩ time = Option.none := by
  unfold sweepsUntil at none
  split at none
  next resting => exact if_pos resting
  next => cases none

/-- The sweeps that are due are those that are made tick by tick. -/
theorem ticks_schedule (w : Sweeper) (time : Nat) :
    Ticks time ⟨w, false⟩ (w.schedule time) ⟨w.after time, false⟩ := by
  generalize count : w.sweepsUntil time = n
  induction n generalizing w with
  | zero =>
    rw [schedule, after, count]
    exact .rest (tick?_of_sweepsUntil_eq_zero count)
  | succ n ih =>
    have due : w.due ≤ time := by
      by_contra early
      rw [sweepsUntil_of_lt (Nat.lt_of_not_le early)] at count
      cases count
    have regular : 0 < w.interval := Nat.pos_of_ne_zero fun never => by
      rw [sweepsUntil_of_zero never] at count
      cases count
    rw [sweepsUntil_next regular due] at count
    rw [schedule_next regular due, after_next regular due]
    exact .tick (tick?_of_due regular due) (ih w.next (Nat.succ.inj count))

theorem Ticks.unique (ticks : Ticks time l sweeps last) (ticks' : Ticks time l sweeps' last') :
    sweeps = sweeps' ∧ last = last' := by
  induction ticks generalizing sweeps' with
  | rest resting =>
    cases ticks' with
    | rest => exact ⟨rfl, rfl⟩
    | tick first => rw [resting] at first; cases first
  | tick first _ ih =>
    cases ticks' with
    | rest resting => rw [first] at resting; cases resting
    | tick first' others' =>
      obtain ⟨rfl, rfl⟩ := Prod.mk.inj (Option.some.inj (first.symm.trans first'))
      obtain ⟨rfl, rfl⟩ := ih others'
      exact ⟨rfl, rfl⟩

/-- A loop that was told to stop makes no sweep, whatever is due. -/
theorem Ticks.of_stopping (ticks : Ticks time l sweeps last) (stopping : l.stopping = true) :
    sweeps = [] ∧ last = l := by
  cases ticks with
  | rest => exact ⟨rfl, rfl⟩
  | tick first => rw [tick?_of_stopping stopping] at first; cases first

/-! ### Whole runs -/

variable {steps : List Session.Step}

theorem Serves.unique (serves : Serves time l steps sweeps last)
    (serves' : Serves time l steps sweeps' last') : sweeps = sweeps' ∧ last = last' := by
  induction serves generalizing sweeps' with
  | done =>
    cases serves'
    exact ⟨rfl, rfl⟩
  | wait ticks _ ih =>
    cases serves' with
    | wait ticks' others' =>
      obtain ⟨rfl, rfl⟩ := ticks.unique ticks'
      obtain ⟨rfl, rfl⟩ := ih others'
      exact ⟨rfl, rfl⟩
    | other instant => cases instant
  | other instant _ ih =>
    cases serves' with
    | wait => cases instant
    | other _ others' => exact ih others'

/-- Once it was told to stop, a loop makes no sweep, however long it is waited. -/
theorem Serves.of_stopping (serves : Serves time l steps sweeps last)
    (stopping : l.stopping = true) : sweeps = [] := by
  induction serves with
  | done => rfl
  | wait ticks _ ih =>
    obtain ⟨rfl, rfl⟩ := ticks.of_stopping stopping
    exact ih stopping
  | other _ _ ih => exact ih stopping

end Loop

end Sweeper

end BoxOffice
