import BoxOffice.Instant
import BoxOffice.Text.Blank
import BoxOffice.Text.Digits

/-!
How moments are written and read. The written form is year, month and day, a separator, and the
time of day with the fewest of 0, 3, 6 or 9 fraction digits; years outside 0 to 9999 carry a
sign. The read form is wider: fields may be short, blanks may stand between the parts, and an
offset from UTC may follow instead of the letter Z.
-/

namespace BoxOffice.Instant

open Text Calendar

def yearChars (year : Int) : List Char :=
  if 0 ≤ year ∧ year ≤ 9999 then padded 10 4 year.toNat
  else if year < 0 then '-' :: decimalAtLeast 4 year.natAbs
  else '+' :: decimalAtLeast 4 year.natAbs

def fractionChars (nano : Nat) : List Char :=
  if nano = 0 then []
  else if nano % 1000000 = 0 then '.' :: padded 10 3 (nano / 1000000)
  else if nano % 1000 = 0 then '.' :: padded 10 6 (nano / 1000)
  else '.' :: padded 10 9 nano

def dateChars (d : Day) : List Char :=
  yearChars d.year ++ '-' :: padded 10 2 d.month ++ '-' :: padded 10 2 d.day

/-- The time of day; a leap second is written as the second after the one that it prolongs. -/
def timeChars (second nano : Nat) : List Char :=
  let leap := decide (1000000000 ≤ nano)
  padded 10 2 (second / 3600) ++ ':' :: padded 10 2 (second / 60 % 60) ++
    ':' :: padded 10 2 (second % 60 + if leap then 1 else 0) ++
    fractionChars (if leap then nano - 1000000000 else nano)

def toChars (t : Instant) : List Char :=
  dateChars t.date ++ 'T' :: timeChars t.second t.nano ++ ['Z']

/-- The form used in data. -/
def text (t : Instant) : String := String.ofList t.toChars

/-- The form used in messages. -/
def displayText (t : Instant) : String :=
  String.ofList (dateChars t.date ++ ' ' :: timeChars t.second t.nano ++ " UTC".toList)

/-- A number of at least one digit and at most `width` digits, with no bound when it is
absent. -/
def number? (width : Option Nat) (cs : List Char) : Option (Nat × List Char) :=
  match (spanDigits cs).1 with
  | [] => none
  | digits =>
    let taken := match width with
      | some w => digits.take w
      | none => digits
    some (ofDigits 10 taken, cs.drop taken.length)

def shortNumber? (cs : List Char) : Option (Nat × List Char) := number? (some 2) (dropBlank cs)

def year? (cs : List Char) : Option (Int × List Char) :=
  match dropBlank cs with
  | '-' :: rest => (number? none rest).map fun (n, rest) => (-(n : Int), rest)
  | '+' :: rest => (number? none rest).map fun (n, rest) => ((n : Int), rest)
  | rest => (number? (some 4) rest).map fun (n, rest) => ((n : Int), rest)

def separator? (c : Char) (cs : List Char) : Option (List Char) :=
  match dropBlank cs with
  | d :: rest => if d = c then some rest else none
  | [] => none

def dateTimeSeparator? : List Char → Option (List Char)
  | 'T' :: rest | 't' :: rest | ' ' :: rest => some rest
  | _ => none

def fraction? : List Char → Option (Nat × List Char)
  | '.' :: rest =>
    match (spanDigits rest).1 with
    | [] => none
    | digits =>
      let nine := digits.take 9
      some (ofDigits 10 nine * Nat.pow 10 (9 - nine.length), (spanDigits rest).2)
  | cs => some (0, cs)

def twoDigits? : List Char → Option (Nat × List Char)
  | a :: b :: rest => do
    let x ← digit? a
    let y ← digit? b
    return (x * 10 + y, rest)
  | _ => none

/-- An offset from UTC in seconds: the letter Z, the letters UTC, or a sign, hours and
minutes. -/
def offset? : List Char → Option (Int × List Char)
  | 'Z' :: rest | 'z' :: rest => some (0, rest)
  | sign :: rest =>
    if ((sign :: rest).take 3).map Char.toUpper = "UTC".toList then
      some (0, (sign :: rest).drop 3)
    else if sign = '+' ∨ sign = '-' ∨ sign = '\u2212' then do
      let (hours, rest) ← twoDigits? rest
      let (minutes, rest) ← twoDigits? (rest.dropWhile fun c => c == ':' || isBlank c)
      if minutes < 60 ∧ hours < 24 then
        let seconds : Int := hours * 3600 + minutes * 60
        return (if sign = '+' then seconds else -seconds, rest)
      else none
    else none
  | [] => none

/-- The second of the day and the nanoseconds of a clock reading; second 60 is a leap
second. -/
def clock? (hour minute second nano : Nat) : Option (Nat × Nat) :=
  if hour < 24 ∧ minute < 60 ∧ second ≤ 60 then
    if second = 60 then some (hour * 3600 + minute * 60 + 59, nano + 1000000000)
    else some (hour * 3600 + minute * 60 + second, nano)
  else none

def ofChars? (cs : List Char) : Option Instant := do
  let (year, cs) ← year? cs
  let cs ← separator? '-' cs
  let (month, cs) ← shortNumber? cs
  let cs ← separator? '-' cs
  let (day, cs) ← shortNumber? cs
  let cs ← dateTimeSeparator? cs
  let (hour, cs) ← shortNumber? cs
  let cs ← separator? ':' cs
  let (minute, cs) ← shortNumber? cs
  let cs ← separator? ':' cs
  let (second, cs) ← shortNumber? cs
  let (nano, cs) ← fraction? cs
  let (offset, cs) ← offset? (dropBlank cs)
  if dropBlank cs = [] then
    let date ← Day.ofParts? year month day
    let (second, nano) ← clock? hour minute second nano
    let reading ← ofParts? date second nano
    if offset = 0 then some reading else reading.shiftSeconds? (-offset)
  else none

def ofText? (s : String) : Option Instant := ofChars? s.toList

end BoxOffice.Instant
