/-!
# Binary floating-point numbers, exactly

A finite number of the 64-bit format is an integer times a power of two. Comparisons with integers
and the choice of decimal digits work on this form, in exact arithmetic.

## Main definitions

* `Binary64`: sign, integer and power of two
* `Binary64.ofFloat?`: the exact form of a finite number
* `Binary64.toInt?`: the integer that a number is
* `readDecimal`: the number nearest to a decimal
-/

namespace ImportOrder

/-- A power of two. -/
def powerOfTwo (n : Nat) : Nat := Nat.pow 2 n

/-- A power of ten. -/
def powerOfTen (n : Nat) : Nat := Nat.pow 10 n

/-- **A finite number** `± mantissa * 2 ^ exponent`. The flag `narrow` tells that the next smaller
number is half as far away as the next larger one. -/
structure Binary64 where
  negative : Bool
  mantissa : Nat
  exponent : Int
  narrow : Bool
deriving Repr, DecidableEq, Inhabited

namespace Binary64

/-- The exact form of a finite number. -/
def ofFloat? (x : Float) : Option Binary64 :=
  let bits := x.toBits.toNat
  let fraction : Nat := bits % powerOfTwo 52
  let scale : Nat := bits / powerOfTwo 52 % powerOfTwo 11
  let negative := bits / powerOfTwo 63 == 1
  if scale == 2047 then none
  else if scale == 0 then some ⟨negative, fraction, -1074, false⟩
  else some ⟨negative, powerOfTwo 52 + fraction, (scale : Int) - 1075, fraction == 0 && scale != 1⟩

/-- The integer that a number is, if it is one. -/
def toInt? (b : Binary64) : Option Int :=
  let signed (n : Nat) : Int := if b.negative then -(n : Int) else n
  if 0 ≤ b.exponent then some (signed (b.mantissa * powerOfTwo b.exponent.toNat))
  else
    let unit := powerOfTwo (-b.exponent).toNat
    if b.mantissa % unit == 0 then some (signed (b.mantissa / unit)) else none

end Binary64

/-- The number nearest to `digits * 10 ^ exponent`. Exponents beyond every finite number are cut
off before they are computed. -/
def readDecimal (digits : Nat) (exponent : Int) : Float :=
  let size : Int := (Nat.toDigits 10 digits).length
  if digits == 0 || exponent + size < -400 then 0
  else if 400 < exponent + size then 1 / 0
  else if 0 ≤ exponent then Float.ofScientific digits false exponent.toNat
  else Float.ofScientific digits true (-exponent).toNat

end ImportOrder
