import BoxOffice.Session
import Mathlib.Data.Nat.Basic
import Mathlib.Tactic.Ring

/-!
Waits. What a sweeper does up to a time does not depend on how often one looks in between: the
sweeps due up to the first moment come first, and the sweeper that they leave behind makes the
others. So it is with several sweepers, and a wait can be split into two. Since the moment that it
was set up, a sweeper sweeps at the multiples of its interval.
-/

namespace BoxOffice

/-! ### Merging -/

section Merge

variable {α : Type} {notAfter : α → α → Bool} {a b a' b' : List α}

theorem merge_append_right (before : ∀ y ∈ b, ∀ x ∈ a', notAfter x y = false) :
    a'.merge (b ++ b') notAfter = b ++ a'.merge b' notAfter := by
  induction b with
  | nil => rfl
  | cons y b ih =>
    obtain ⟨first, others⟩ := List.forall_mem_cons.1 before
    cases a' with
    | nil => simp
    | cons x a' =>
      have next : notAfter x y = false := first x List.mem_cons_self
      rw [List.cons_append, List.cons_merge_cons, next, ih others]
      rfl

theorem merge_append_left (before : ∀ x ∈ a, ∀ y ∈ b', notAfter x y = true) :
    (a ++ a').merge b' notAfter = a ++ a'.merge b' notAfter := by
  induction a with
  | nil => rfl
  | cons x a ih =>
    obtain ⟨first, others⟩ := List.forall_mem_cons.1 before
    cases b' with
    | nil => simp
    | cons y b' =>
      have next : notAfter x y = true := first y List.mem_cons_self
      rw [List.cons_append, List.cons_merge_cons, next, ih others]
      rfl

/-- When all that is in front comes before all that is behind, merging does not mix the two. -/
theorem merge_append (front : ∀ x ∈ a, ∀ y ∈ b', notAfter x y = true)
    (behind : ∀ y ∈ b, ∀ x ∈ a', notAfter x y = false) :
    (a ++ a').merge (b ++ b') notAfter = a.merge b notAfter ++ a'.merge b' notAfter := by
  induction a, b using List.merge.induct notAfter with
  | case1 b => rw [List.nil_append, List.nil_merge, merge_append_right behind]
  | case2 a => rw [List.nil_append, List.merge_right, merge_append_left front]
  | case3 x a y b next ih =>
    have rest := ih (fun z member => front z (List.mem_cons_of_mem x member)) behind
    simp only [List.cons_append, List.cons_merge_cons, next, if_true] at rest ⊢
    rw [rest]
  | case4 x a y b next ih =>
    have rest := ih front fun z member => behind z (List.mem_cons_of_mem y member)
    simp only [List.cons_append, List.cons_merge_cons, next] at rest ⊢
    simp [rest]

end Merge

namespace Sweeper

variable {w : Sweeper} {ws : List Sweeper} {t u : Nat} {sweep : Sweep}

/-! ### One sweeper -/

@[simp] theorem interval_afterSweeps (w : Sweeper) (n : Nat) :
    (w.afterSweeps n).interval = w.interval := by cases n <;> rfl

theorem interval_after (w : Sweeper) (t : Nat) : (w.after t).interval = w.interval :=
  interval_afterSweeps ..

@[simp] theorem size_afterSweeps (w : Sweeper) (n : Nat) :
    (w.afterSweeps n).size = w.size := by cases n <;> rfl

@[simp] theorem due_afterSweeps (w : Sweeper) (n : Nat) :
    (w.afterSweeps n).due = w.due + n * w.interval := by
  cases n with
  | zero => rw [Nat.zero_mul]; rfl
  | succ n => rfl

theorem afterSweeps_afterSweeps (w : Sweeper) (m n : Nat) :
    (w.afterSweeps m).afterSweeps n = w.afterSweeps (m + n) := by
  cases n with
  | zero => rfl
  | succ n =>
    cases m with
    | zero => rw [Nat.zero_add]; rfl
    | succ m =>
      have planned : w.due + (m + 1) * w.interval + n * w.interval =
          w.due + (m + 1 + n) * w.interval := by ring
      have due : w.due + (m + 1) * w.interval + (n + 1) * w.interval =
          w.due + (m + 1 + n + 1) * w.interval := by ring
      rw [← Nat.add_assoc]
      simp only [afterSweeps, planned, due]

theorem sweepsUntil_of_lt (early : t < w.due) : w.sweepsUntil t = 0 := if_pos (.inr early)

theorem sweepsUntil_of_zero (never : w.interval = 0) (t : Nat) : w.sweepsUntil t = 0 :=
  if_pos (.inl never)

theorem sweepsUntil_of_le (regular : 0 < w.interval) (due : w.due ≤ t) :
    w.sweepsUntil t = (t - w.due) / w.interval + 1 :=
  if_neg (not_or.2 ⟨regular.ne', due.not_gt⟩)

/-- Once the sweeps up to a time are made, the next one is due later. -/
theorem lt_due_after (regular : 0 < w.interval) (t : Nat) : t < (w.after t).due := by
  rw [after, due_afterSweeps]
  by_cases due : w.due ≤ t
  · have next := Nat.lt_mul_div_succ (t - w.due) regular
    rw [sweepsUntil_of_le regular due, Nat.mul_comm]
    omega
  · omega

/-- The sweeps up to a time are those up to an earlier one and those that come after these. -/
theorem sweepsUntil_add (le : t ≤ u) :
    w.sweepsUntil u = w.sweepsUntil t + (w.after t).sweepsUntil u := by
  rcases Nat.eq_zero_or_pos w.interval with never | regular
  · have never' := (w.interval_after t).trans never
    rw [sweepsUntil_of_zero never, sweepsUntil_of_zero never, sweepsUntil_of_zero never']
  by_cases due : w.due ≤ t
  · have regular' : 0 < (w.after t).interval := by rwa [interval_after]
    have next := lt_due_after regular t
    -- The sweeps between the two due times are left out of the quotient.
    have due' : (w.after t).due = w.due + w.interval * w.sweepsUntil t := by
      rw [after, due_afterSweeps, Nat.mul_comm]
    have first := sweepsUntil_of_le regular due
    rw [sweepsUntil_of_le regular (due.trans le)]
    by_cases late : (w.after t).due ≤ u
    · rw [sweepsUntil_of_le regular' late, interval_after, due', ← Nat.sub_sub,
        Nat.sub_mul_div]
      have enough : w.sweepsUntil t ≤ (u - w.due) / w.interval := by
        rw [Nat.le_div_iff_mul_le regular, Nat.mul_comm]
        omega
      omega
    · rw [sweepsUntil_of_lt (Nat.lt_of_not_le late), first]
      have same : (u - w.due) / w.interval = (t - w.due) / w.interval := by
        refine le_antisymm ?_ (Nat.div_le_div_right (by omega))
        rw [← Nat.lt_succ_iff, Nat.succ_eq_add_one, ← first, Nat.div_lt_iff_lt_mul regular,
          Nat.mul_comm]
        omega
      rw [same, Nat.add_zero]
  · have early := sweepsUntil_of_lt (Nat.lt_of_not_le due)
    rw [after, early, Nat.zero_add]
    rfl

theorem after_after (le : t ≤ u) : (w.after t).after u = w.after u := by
  have count := sweepsUntil_add (w := w) le
  rw [after, after, afterSweeps_afterSweeps, ← after, ← count]
  rfl

theorem schedule_append (le : t ≤ u) :
    w.schedule u = w.schedule t ++ (w.after t).schedule u := by
  rw [schedule, sweepsUntil_add le, List.range_add, List.map_append, List.map_map]
  congr 1
  refine List.map_congr_left fun n _ => ?_
  rw [after, afterSweeps_afterSweeps]
  rfl

theorem mem_schedule_iff :
    sweep ∈ w.schedule t ↔ ∃ n < w.sweepsUntil t, (w.afterSweeps n).nextSweep = sweep := by
  simp only [schedule, List.mem_map, List.mem_range]

theorem due_le_of_mem_schedule (member : sweep ∈ w.schedule t) : sweep.due ≤ t := by
  obtain ⟨n, inTime, rfl⟩ := mem_schedule_iff.1 member
  rw [sweepsUntil] at inTime
  split at inTime
  · exact absurd inTime n.not_lt_zero
  next regular =>
    obtain ⟨some, due⟩ := not_or.1 regular
    have whole := (Nat.le_div_iff_mul_le (Nat.pos_of_ne_zero some)).1 (Nat.le_of_lt_succ inTime)
    have due_eq : (w.afterSweeps n).nextSweep.due = w.due + n * w.interval := due_afterSweeps w n
    omega

theorem lt_due_of_mem_schedule_after (member : sweep ∈ (w.after t).schedule u) :
    t < sweep.due := by
  obtain ⟨n, inTime, rfl⟩ := mem_schedule_iff.1 member
  have regular : 0 < w.interval := Nat.pos_of_ne_zero fun never => by
    rw [sweepsUntil_of_zero ((w.interval_after t).trans never)] at inTime
    exact n.not_lt_zero inTime
  rw [nextSweep, due_afterSweeps]
  exact Nat.lt_add_right _ (lt_due_after regular t)

/-! ### Several sweepers -/

theorem exists_mem_schedule (member : sweep ∈ schedules t ws) : ∃ w ∈ ws, sweep ∈ w.schedule t := by
  induction ws with
  | nil => cases member
  | cons w ws ih =>
    rcases List.mem_merge.1 member with first | others
    · exact ⟨w, List.mem_cons_self, first⟩
    · obtain ⟨w', inRest, made⟩ := ih others
      exact ⟨w', List.mem_cons_of_mem w inRest, made⟩

theorem due_le_of_mem_schedules (member : sweep ∈ schedules t ws) : sweep.due ≤ t := by
  obtain ⟨_, -, made⟩ := exists_mem_schedule member
  exact due_le_of_mem_schedule made

theorem lt_due_of_mem_schedules_after (member : sweep ∈ schedules u (ws.map (·.after t))) :
    t < sweep.due := by
  obtain ⟨_, inAfter, made⟩ := exists_mem_schedule member
  obtain ⟨w, -, rfl⟩ := List.mem_map.1 inAfter
  exact lt_due_of_mem_schedule_after made

theorem Sweep.notAfter_of_lt {a b : Sweep} (before : a.due < b.due) :
    a.notAfter b = true ∧ b.notAfter a = false := by
  simp [Sweep.notAfter, before, before.not_gt, before.ne']

/-- The sweeps of several sweepers up to a time are those up to an earlier one and those that come
after these. -/
theorem schedules_append (le : t ≤ u) :
    schedules u ws = schedules t ws ++ schedules u (ws.map (·.after t)) := by
  induction ws with
  | nil => rfl
  | cons w ws ih =>
    have apart {a b : Sweep} (early : a.due ≤ t) (late : t < b.due) :=
      Sweep.notAfter_of_lt (early.trans_lt late)
    rw [schedules, ih, schedule_append le, merge_append
      (fun _ x _ y => (apart (due_le_of_mem_schedule x) (lt_due_of_mem_schedules_after y)).1)
      (fun _ y _ x => (apart (due_le_of_mem_schedules y) (lt_due_of_mem_schedule_after x)).2)]
    rfl

/-! ### Due times -/

variable {interval : Nat} {size : Int} {reached : Option Nat}

/-- The multiples of an interval up to a time, but for those up to a time that was reached before.
An interval of zero has none. -/
def dueTimes (interval : Nat) (reached : Option Nat) (time : Nat) : List Nat :=
  (List.range (time + 1)).filter fun t => interval ≠ 0 ∧ interval ∣ t ∧ reached.all (· < t)

theorem reached_le (reached : Option Nat) (n : Nat) :
    reached.all (· ≤ reached.getD 0 + n) = true := by
  cases reached <;> simp

theorem dueTimes_self (interval t : Nat) : dueTimes interval (some t) t = [] := by
  rw [dueTimes, List.filter_eq_nil_iff]
  intro x member
  have le := List.mem_range.1 member
  simp only [Option.all_some, decide_eq_true_eq]
  omega

theorem dueTimes_append (inOrder : reached.all (· ≤ t)) (le : t ≤ u) :
    dueTimes interval reached u = dueTimes interval reached t ++ dueTimes interval (some t) u := by
  have split : List.range (u + 1) =
      List.range (t + 1) ++ (List.range (u - t)).map (t + 1 + ·) := by
    rw [← List.range_add]
    congr 1
    omega
  have behind := dueTimes_self interval t
  rw [dueTimes] at behind
  rw [dueTimes, dueTimes, dueTimes, split, List.filter_append, List.filter_append, behind,
    List.nil_append]
  congr 1
  refine List.filter_congr fun x member => ?_
  obtain ⟨k, -, rfl⟩ := List.mem_map.1 member
  have late : reached.all (· < t + 1 + k) = true := by
    cases reached with
    | none => rfl
    | some r =>
      simp only [Option.all_some, decide_eq_true_eq] at inOrder ⊢
      omega
  have late' : (some t).all (· < t + 1 + k) = true := by
    simp only [Option.all_some, decide_eq_true_eq]
    omega
  rw [late, late']

theorem dueTimes_zero (reached : Option Nat) (time : Nat) : dueTimes 0 reached time = [] := by
  simp [dueTimes]

theorem dueTimes_none (regular : 0 < interval) (time : Nat) :
    dueTimes interval none time = (List.range (time / interval + 1)).map (· * interval) := by
  induction time with
  | zero => simp [dueTimes, regular.ne']
  | succ time ih =>
    have step : dueTimes interval none (time + 1) =
        dueTimes interval none time ++ if interval ∣ time + 1 then [time + 1] else [] := by
      rw [dueTimes, List.range_succ, List.filter_append, ← dueTimes]
      split <;> simp [regular.ne', *]
    rw [step, ih, Nat.succ_div]
    split
    next divides =>
      have last : (time / interval + 1) * interval = time + 1 := by
        have whole := Nat.div_mul_cancel divides
        rwa [Nat.succ_div_of_dvd divides] at whole
      rw [List.range_succ (n := time / interval + 1), List.map_append, List.map_singleton, last]
    next => rw [List.append_nil, Nat.add_zero]

/-- A sweeper that was set up at a moment, when a time since then was reached or, in the beginning,
none. -/
def hired (interval : Nat) (size : Int) (moment : Nat) : Option Nat → Sweeper
  | none => start interval size moment
  | some t => (start interval size moment).after (moment + t)

/-- Up to each time a sweeper sweeps at the multiples of its interval. -/
theorem map_due_schedule_hired (moment : Nat) (inOrder : reached.all (· ≤ t)) :
    ((hired interval size moment reached).schedule (moment + t)).map (·.due) =
      (dueTimes interval reached t).map (moment + ·) := by
  have fresh (t : Nat) : ((start interval size moment).schedule (moment + t)).map (·.due) =
      (dueTimes interval none t).map (moment + ·) := by
    rcases Nat.eq_zero_or_pos interval with rfl | regular
    · rw [schedule, sweepsUntil_of_zero rfl, dueTimes_zero]
      rfl
    · have due : moment ≤ moment + t := Nat.le_add_right ..
      have count : (start interval size moment).sweepsUntil (moment + t) = t / interval + 1 := by
        rw [sweepsUntil_of_le regular due]
        simp [start]
      rw [schedule, count, dueTimes_none regular, List.map_map, List.map_map]
      exact List.map_congr_left fun n _ => due_afterSweeps ..
  cases reached with
  | none => exact fresh t
  | some r =>
    have le : r ≤ t := by simpa using inOrder
    have whole := fresh t
    rw [schedule_append (Nat.add_le_add_left le moment), dueTimes_append (t := r) rfl le,
      List.map_append, List.map_append, fresh r] at whole
    exact List.append_cancel_left whole

theorem after_hired (moment : Nat) (inOrder : reached.all (· ≤ t)) :
    (hired interval size moment reached).after (moment + t) =
      hired interval size moment (some t) := by
  cases reached with
  | none => rfl
  | some r =>
    have le : r ≤ t := by simpa using inOrder
    exact after_after (Nat.add_le_add_left le moment)

theorem size_hired (moment : Nat) : (hired interval size moment reached).size = size := by
  cases reached with
  | none => rfl
  | some t => exact size_afterSweeps ..

theorem size_of_mem_schedule (member : sweep ∈ w.schedule t) : sweep.size = w.size := by
  obtain ⟨n, -, rfl⟩ := mem_schedule_iff.1 member
  exact size_afterSweeps ..

end Sweeper

theorem Desk.sweeps_append (d : Desk) (sizes sizes' : List Int) :
    d.sweeps (sizes ++ sizes') = (d.sweeps sizes).sweeps sizes' := List.foldl_append

/-- A wait can be split. -/
theorem Session.wait_wait (s : Session) (m n : Nat) : (s.wait m).wait n = s.wait (m + n) := by
  have le : s.elapsed + m ≤ s.elapsed + (m + n) := by omega
  have elapsed : s.elapsed + m + n = s.elapsed + (m + n) := by omega
  have sweepers : (s.sweepers.map (·.after (s.elapsed + m))).map (·.after (s.elapsed + (m + n))) =
      s.sweepers.map (·.after (s.elapsed + (m + n))) := by
    rw [List.map_map]
    exact List.map_congr_left fun w _ => Sweeper.after_after le
  simp only [wait, elapsed, sweepers, ← Desk.sweeps_append, ← List.map_append,
    ← Sweeper.schedules_append le]

end BoxOffice
