import ImportOrder.Data.Moment
import ImportOrder.Number.Numeral

/-!
# YAML timestamps

A timestamp is a date with hyphens, alone or with a time of day after a space or the letter T; the
time may have a fraction and the distance from universal time.

## Main definitions

* `Yaml.readTimestamp?`: the point in time that a text writes
* `Yaml.isTimestamp`: whether a text without a tag is a timestamp
-/

namespace ImportOrder

namespace Yaml

/-- A number of exactly `width` digits, and what follows. -/
def fixedNumber? (width : Nat) (t : Text) : Option (Nat × Text) :=
  let ds := t.take width
  if ds.length = width ∧ ds.all isAsciiDigit then some (decimalNumber ds, t.drop width) else none

/-- A number of one or two digits, and what follows. -/
def shortNumber? (t : Text) : Option (Nat × Text) :=
  let ds := (t.take 2).takeWhile isAsciiDigit
  if ds.isEmpty then none else some (decimalNumber ds, t.drop ds.length)

/-- What follows a given character. -/
def afterChar? (c : Char) (t : Text) : Option Text := Text.after? [c] t

/-- What follows the space between a date and a time. -/
def afterGap? : Text → Option Text
  | [] => none
  | c :: t =>
    if c = 'T' ∨ c = 't' then some t
    else if c = ' ' ∨ c = '\t' then some (t.dropWhile fun d => d == ' ' || d == '\t')
    else none

/-- The millionths of a second that the digits of a fraction write. -/
def microseconds (ds : Text) : Nat :=
  let kept := ds.take 6
  decimalNumber (kept ++ List.replicate (6 - kept.length) '0')

/-- The fraction of a second, if there is one, and what follows. -/
def fraction : Text → Nat × Text
  | '.' :: t => (microseconds (t.takeWhile isAsciiDigit), t.dropWhile isAsciiDigit)
  | t => (0, t)

/-- The distance from universal time in minutes, up to the end of the text; there may be none. -/
def ahead? (t : Text) : Option (Option Int) :=
  if t.isEmpty then some none
  else
    match t.dropWhile fun c => c == ' ' || c == '\t' with
    | ['Z'] => some (some 0)
    | sign :: u => do
      if sign ≠ '+' ∧ sign ≠ '-' then none
      let (hours, rest) ← shortNumber? u
      let minutes ←
        if rest.isEmpty then some 0
        else do
          let (n, rest) ← fixedNumber? 2 (← afterChar? ':' rest)
          if rest.isEmpty then some n else none
      let total : Int := 60 * hours + minutes
      return some (if sign = '-' then -total else total)
    | [] => none

/-- The time of day that the end of a timestamp writes. -/
def clockTime? (t : Text) : Option ClockTime := do
  let (hour, t) ← shortNumber? t
  let (minute, t) ← fixedNumber? 2 (← afterChar? ':' t)
  let (second, t) ← fixedNumber? 2 (← afterChar? ':' t)
  let (microsecond, t) := fraction t
  return { hour, minute, second, microsecond, ahead := ← ahead? t }

/-- A text without a line break at its very end. -/
def withoutLastBreak (t : Text) : Text :=
  if t.getLast? = some '\n' then t.dropLast else t

/-- The point in time that a text writes, whether the calendar and the clock have it or not. -/
def readTimestamp? (t : Text) : Option Moment := do
  let (year, t) ← fixedNumber? 4 (withoutLastBreak t)
  let (month, t) ← shortNumber? (← afterChar? '-' t)
  let (day, t) ← shortNumber? (← afterChar? '-' t)
  let time ← if t.isEmpty then some none else ((afterGap? t).bind clockTime?).map some
  return { year, month, day, time }

/-- Whether a text without a tag is a timestamp. A date alone must have all its digits. -/
def isTimestamp (t : Text) : Bool :=
  match readTimestamp? t with
  | none => false
  | some m => m.time.isSome || (withoutLastBreak t).length == 10

end Yaml

end ImportOrder
