import ImportOrder.Number.Binary64
import ImportOrder.Text.Basic
import ImportOrder.Text.WordChar

/-!
# Numerals

Texts that write numbers. A numeral may have spaces around it, a sign, and digits of any script;
underscores may stand between the digits of an integer. An integer of base two, eight or sixteen may
name its base in front of its digits. Decimal integers beyond a fixed number of digits are refused.

## Main definitions

* `hexNumber?`, `decimalNumber`: the numbers that plain digits write
* `readInteger?`: the integer that a numeral writes
* `readNumber?`: the floating-point number that a numeral writes
-/

namespace ImportOrder

/-- The most digits that a decimal integer may have. -/
def digitLimit : Nat := 4300

/-- The value of a hexadecimal digit. -/
def hexValue? (c : Char) : Option Nat :=
  if '0' ≤ c ∧ c ≤ '9' then some (c.toNat - 48)
  else if 'a' ≤ c ∧ c ≤ 'f' then some (c.toNat - 87)
  else if 'A' ≤ c ∧ c ≤ 'F' then some (c.toNat - 55)
  else none

/-- The number that digits of a base up to sixteen write. -/
def numberInBase? (base : Nat) (ds : Text) : Option Nat :=
  ds.foldl (fun acc c => do
    let d ← hexValue? c
    if d < base then return base * (← acc) + d else none) (some 0)

/-- The number that hexadecimal digits write. -/
def hexNumber? (ds : Text) : Option Nat := numberInBase? 16 ds

/-- The number that decimal digits write. -/
def decimalNumber (ds : Text) : Nat := ds.foldl (fun acc c => 10 * acc + (c.toNat - 48)) 0

namespace Numeral

/-- The ASCII character that a character of a numeral counts as: digits of any script are digits,
and blanks beyond ASCII are spaces. -/
def plainChar (c : Char) : Char :=
  if c.toNat < 0x80 then c
  else if isBlank c then ' '
  else ((digitValue? c).map fun d => Char.ofNat (48 + d)).getD c

/-- Whether a character may stand around a numeral. -/
def isSpace (c : Char) : Bool := c == ' ' || (0x09 ≤ c.toNat && c.toNat ≤ 0x0d)

/-- A numeral in ASCII and without the spaces around it. -/
def plain (t : Text) : Text :=
  (((t.map plainChar).dropWhile isSpace).reverse.dropWhile isSpace).reverse

/-- Whether a numeral is negative, and what follows its sign. -/
def splitSign : Text → Bool × Text
  | '-' :: t => (true, t)
  | '+' :: t => (false, t)
  | t => (false, t)

/-- The letter that names a base, if the base can be named. -/
def baseLetter? : (base : Nat) → Option Char
  | 2 => some 'b'
  | 8 => some 'o'
  | 16 => some 'x'
  | _ => none

/-- What follows the name of the base, if it is there. -/
def afterBase? (base : Nat) : Text → Option Text
  | '0' :: c :: t => if baseLetter? base = some c.toLower then some t else none
  | _ => none

/-- The digits of an integer without the underscores, each of which must stand between digits;
`joins` tells that an underscore may come. -/
def withoutUnderscores? : (joins : Bool) → Text → Option Text
  | joins, [] => if joins then some [] else none
  | joins, c :: t =>
    if c = '_' then (if joins then withoutUnderscores? false t else none)
    else (withoutUnderscores? true t).map (c :: ·)

/-- The digits of an integer in a base, without the name of the base and underscores. -/
def integerDigits? (base : Nat) (t : Text) : Option Text :=
  match afterBase? base t with
  | some ('_' :: u) => withoutUnderscores? false u
  | some u => withoutUnderscores? false u
  | none => withoutUnderscores? false t

end Numeral

open Numeral in
/-- The integer that a numeral writes in a base, if it does. -/
def readInteger? (base : Nat) (t : Text) : Option Int := do
  let (negative, u) := splitSign (plain t)
  let digits ← integerDigits? base u
  if base = 10 ∧ digitLimit < digits.length then none
  let n ← numberInBase? base digits
  return if negative then -(n : Int) else n

namespace Numeral

/-- The exponent that the rest of a decimal writes; nothing written is none. -/
def exponent? : Text → Option Int
  | [] => some 0
  | c :: t =>
    let (negative, digits) := splitSign t
    if c.toLower = 'e' ∧ digits ≠ [] ∧ digits.all isAsciiDigit then
      some (if negative then -(decimalNumber digits : Int) else decimalNumber digits)
    else none

/-- The number that a decimal without a sign writes: digits, with a point among them or not, and an
exponent. -/
def decimal? (t : Text) : Option Float := do
  let whole := t.takeWhile isAsciiDigit
  let (fraction, rest) := match t.drop whole.length with
    | '.' :: u => (u.takeWhile isAsciiDigit, u.dropWhile isAsciiDigit)
    | u => ([], u)
  if whole.isEmpty && fraction.isEmpty then failure
  return readDecimal (decimalNumber (whole ++ fraction)) ((← exponent? rest) - fraction.length)

end Numeral

open Numeral in
/-- The floating-point number that a numeral writes, if it does. The words for infinity and for no
number are numerals, too. -/
def readNumber? (t : Text) : Option Float := do
  let (negative, u) := splitSign (plain t)
  let word := String.ofList (u.map Char.toLower)
  let x ←
    if word = "inf" ∨ word = "infinity" then some (1 / 0)
    else if word = "nan" then some (0 / 0)
    else decimal? u
  return if negative then -x else x

end ImportOrder
