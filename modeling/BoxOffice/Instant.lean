import BoxOffice.Calendar

/-!
Moments of time in UTC, to the nanosecond. A moment in a leap second keeps the second before it
and counts a thousand million nanoseconds more. Leap seconds end a minute, but a moment may place
one after any second. Moments are ordered by day, second and nanosecond, so a leap second comes
after all of the second that it prolongs and before the next one.
-/

namespace BoxOffice

open Calendar

structure Instant where
  date : Day
  second : Nat
  nano : Nat
  second_lt : second < 86400
  nano_lt : nano < 2000000000
  deriving DecidableEq

namespace Instant

/-- The place of a moment in the order of moments. Every month has 31 slots and every year 12
months here, so this is no measure of elapsed time. -/
def rank (t : Instant) : Int :=
  ((((t.date.year * 12 + t.date.month) * 31 + t.date.day) * 86400 + t.second) * 2000000000) +
    t.nano

instance : LT Instant := ⟨fun a b => a.rank < b.rank⟩

instance : LE Instant := ⟨fun a b => a.rank ≤ b.rank⟩

instance (a b : Instant) : Decidable (a < b) := inferInstanceAs (Decidable (a.rank < b.rank))

instance (a b : Instant) : Decidable (a ≤ b) := inferInstanceAs (Decidable (a.rank ≤ b.rank))

def ofParts? (date : Day) (second nano : Nat) : Option Instant :=
  if h : second < 86400 ∧ nano < 2000000000 then
    some ⟨date, second, nano, h.1, h.2⟩
  else none

/-- Whole seconds later, or earlier when negative; the nanoseconds stay. -/
def shiftSeconds? (t : Instant) (seconds : Int) : Option Instant :=
  let total := (t.second : Int) + seconds
  (t.date.shift? (total / 86400)).bind fun date => ofParts? date (total % 86400).toNat t.nano

/-- The moment a number of seconds and nanoseconds after the start of a day, both of any
size. -/
def ofOffset? (date : Day) (seconds nanos : Int) : Option Instant :=
  let total := seconds + nanos / 1000000000
  (date.shift? (total / 86400)).bind fun date =>
    ofParts? date (total % 86400).toNat (nanos % 1000000000).toNat

/-- A number of milliseconds later, or earlier when negative. Whole seconds, and a fraction
that passes its end, leave a leap second: forwards without counting it, backwards counting
it. -/
def shift? (t : Instant) (milliseconds : Int) : Option Instant :=
  let seconds := milliseconds.tdiv 1000
  let nanos := milliseconds.tmod 1000 * 1000000
  let second : Int := t.second
  let nano : Int := t.nano
  if t.nano < 1000000000 then ofOffset? t.date (second + seconds) (nano + nanos)
  else if 0 < seconds ∨ (0 < nanos ∧ 2000000000 ≤ nano + nanos) then
    ofOffset? t.date (second + seconds) (nano - 1000000000 + nanos)
  else if seconds < 0 then
    ofOffset? t.date (second + 1 + seconds) (nano - 1000000000 + nanos)
  else ofParts? t.date t.second (nano + nanos).toNat

end Instant

end BoxOffice
