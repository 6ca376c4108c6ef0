import BoxOffice.Desk

/-!
Sweepers: they sweep a desk at regular times. The times are counted in milliseconds on a clock
of their own, which runs only while someone waits. A sweeper is due first at the moment it is
set up, and a sweep due at the very end of a wait is made in that wait. A sweeper with interval
zero never sweeps.
-/

namespace BoxOffice

structure Sweeper where
  interval : Nat
  size : Int
  /-- When the next sweep was planned: at the time of the last one, or when the sweeper was set
  up. -/
  planned : Nat
  /-- When the next sweep is due. -/
  due : Nat
  deriving DecidableEq

structure Sweep where
  due : Nat
  planned : Nat
  size : Int
  deriving DecidableEq

/-- Of two sweeps due at one time, the one that was planned earlier comes first. -/
def Sweep.notAfter (a b : Sweep) : Bool := a.due < b.due || a.due == b.due && a.planned ≤ b.planned

namespace Sweeper

def start (interval : Nat) (size : Int) (time : Nat) : Sweeper := ⟨interval, size, time, time⟩

def sweepsUntil (w : Sweeper) (time : Nat) : Nat :=
  if w.interval = 0 ∨ time < w.due then 0 else (time - w.due) / w.interval + 1

def afterSweeps (w : Sweeper) : Nat → Sweeper
  | 0 => w
  | n + 1 => { w with planned := w.due + n * w.interval, due := w.due + (n + 1) * w.interval }

def nextSweep (w : Sweeper) : Sweep := ⟨w.due, w.planned, w.size⟩

def schedule (w : Sweeper) (time : Nat) : List Sweep :=
  (List.range (w.sweepsUntil time)).map fun n => (w.afterSweeps n).nextSweep

def after (w : Sweeper) (time : Nat) : Sweeper := w.afterSweeps (w.sweepsUntil time)

/-- The sweeps of several sweepers in their order; where nothing else decides, that of the
earlier sweeper comes first. -/
def schedules (time : Nat) : List Sweeper → List Sweep
  | [] => []
  | w :: ws => (w.schedule time).merge (schedules time ws) Sweep.notAfter

end Sweeper

def Desk.sweeps (d : Desk) (sizes : List Int) : Desk :=
  sizes.foldl (fun d size => (d.sweep size).2) d

end BoxOffice
