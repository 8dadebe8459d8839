import ImportOrder.Text.Basic

/-!
# Points in time

A date of the calendar, alone or with a time of day and perhaps the distance from universal time.

## Main definitions

* `daysInMonth`: the length of a month
* `Moment`: a date with or without a time of day
* `Moment.isPossible`: whether the calendar and the clock have it
* `Moment.display`: its text
-/

namespace ImportOrder

/-- Whether a year has a leap day. -/
def isLeapYear (year : Nat) : Bool := year % 4 == 0 && (year % 100 != 0 || year % 400 == 0)

/-- The number of days of a month; no days if there is no such month. -/
def daysInMonth (year month : Nat) : Nat :=
  if [4, 6, 9, 11].contains month then 30
  else if month = 2 then (if isLeapYear year then 29 else 28)
  else if 1 ≤ month ∧ month ≤ 12 then 31
  else 0

/-- **A time of day**, with the minutes that it is ahead of universal time if they are known. -/
structure ClockTime where
  hour : Nat
  minute : Nat
  second : Nat
  microsecond : Nat
  ahead : Option Int
deriving Repr, DecidableEq, Inhabited

/-- **A point in time**: a date, or a date with a time of day. -/
structure Moment where
  year : Nat
  month : Nat
  day : Nat
  time : Option ClockTime
deriving Repr, DecidableEq, Inhabited

namespace ClockTime

/-- Whether the clock has a time of day. Universal time is less than a day away. -/
def isPossible (t : ClockTime) : Bool :=
  t.hour < 24 && t.minute < 60 && t.second < 60 && t.ahead.all (·.natAbs < 24 * 60)

end ClockTime

namespace Moment

/-- Whether the calendar and the clock have a point in time. -/
def isPossible (m : Moment) : Bool :=
  1 ≤ m.year && 1 ≤ m.day && m.day ≤ daysInMonth m.year m.month && m.time.all ClockTime.isPossible

/-- A number with zeros in front up to a width. -/
def padded (width n : Nat) : String :=
  let digits := Nat.toDigits 10 n
  String.ofList (List.replicate (width - digits.length) '0' ++ digits)

/-- The text of a distance from universal time. -/
def displayAhead (minutes : Int) : String :=
  let sign := if minutes < 0 then "-" else "+"
  sign ++ padded 2 (minutes.natAbs / 60) ++ ":" ++ padded 2 (minutes.natAbs % 60)

/-- The text of a time of day. -/
def displayTime (t : ClockTime) : String :=
  let fraction := if t.microsecond = 0 then "" else "." ++ padded 6 t.microsecond
  padded 2 t.hour ++ ":" ++ padded 2 t.minute ++ ":" ++ padded 2 t.second ++ fraction ++
    (t.ahead.map displayAhead).getD ""

/-- The text of a point in time. -/
def display (m : Moment) : String :=
  let date := padded 4 m.year ++ "-" ++ padded 2 m.month ++ "-" ++ padded 2 m.day
  match m.time with
  | none => date
  | some t => date ++ " " ++ displayTime t

end Moment

end ImportOrder
