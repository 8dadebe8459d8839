import ImportOrder.Number.Binary64

/-!
# Shortest decimals

A floating-point number is written with the fewest decimal digits that read back as the same
number, the nearest such digits to it, and of two equally near ones the even. Numbers of ordinary
size are written positionally and always with a point, very large and very small ones with an
exponent.

## Main definitions

* `Binary64.shortest`: the fewest digits that read back
* `showFloat`: the text of a number
-/

namespace ImportOrder

namespace Binary64

/-- Compares `a * 10 ^ p` with `b * 2 ^ q`: whether the first is smaller. -/
def decimalLess (a : Nat) (p : Int) (b : Nat) (q : Int) : Bool :=
  a * powerOfTen p.toNat * powerOfTwo (-q).toNat < b * powerOfTwo q.toNat * powerOfTen (-p).toNat

/-- Compares `b * 2 ^ q` with `a * 10 ^ p`: whether the first is smaller. -/
def binaryLess (b : Nat) (q : Int) (a : Nat) (p : Int) : Bool :=
  b * powerOfTwo q.toNat * powerOfTen (-p).toNat < a * powerOfTen p.toNat * powerOfTwo (-q).toNat

/-- The integer part of `b * 2 ^ q / 10 ^ p`. -/
def floorQuotient (b : Nat) (q : Int) (p : Int) : Nat :=
  (b * powerOfTwo q.toNat * powerOfTen (-p).toNat) / (powerOfTen p.toNat * powerOfTwo (-q).toNat)

/-- The least power of ten above a number. -/
def magnitude (b : Binary64) : Int :=
  let above (i : Nat) : Bool := binaryLess b.mantissa b.exponent 1 ((i : Int) - 330)
  ((List.range 650).find? above).getD 650 - 330

/-- Whether `a * 10 ^ p` reads back as the number: it lies between the midpoints to the neighbours,
or on one of them if the mantissa is even. -/
def readsBack (b : Binary64) (a : Nat) (p : Int) : Bool :=
  let low := 4 * b.mantissa - (if b.narrow then 1 else 2)
  let high := 4 * b.mantissa + 2
  let q := b.exponent - 2
  if b.mantissa % 2 == 0 then !decimalLess a p low q && !binaryLess high q a p
  else binaryLess low q a p && decimalLess a p high q

/-- Of two decimals `a * 10 ^ p` around the number, `below` and the next one, the nearer; halfway
between them, the even one. -/
def nearer (b : Binary64) (below : Nat) (p : Int) : Nat :=
  if binaryLess (2 * b.mantissa) b.exponent (2 * below + 1) p then below
  else if decimalLess (2 * below + 1) p (2 * b.mantissa) b.exponent then below + 1
  else if below % 2 = 0 then below
  else below + 1

/-- The decimal `a * 10 ^ p` next to the number with the given number of digits, if one of its two
neighbours reads back; the nearer one if both do. -/
def withDigits? (b : Binary64) (top : Int) (count : Nat) : Option (Nat × Int) :=
  let p := top - count
  let below := floorQuotient b.mantissa b.exponent p
  match b.readsBack below p, b.readsBack (below + 1) p with
  | true, true => some (b.nearer below p, p)
  | true, false => some (below, p)
  | false, true => some (below + 1, p)
  | false, false => none

/-- The fewest digits that read back, as `a * 10 ^ p`. -/
def shortest (b : Binary64) : Nat × Int :=
  let top := b.magnitude
  ((List.range 17).findSome? fun i => b.withDigits? top (i + 1)).getD (0, 0)

end Binary64

/-- The digits of a decimal without the zeros at its end, and the place of its point. -/
def significantDigits (a : Nat) (p : Int) : List Char × Int :=
  let digits := Nat.toDigits 10 a
  let kept := (digits.reverse.dropWhile (· == '0')).reverse
  (kept, digits.length + p)

/-- Digits with the point after `place` of them, in the style of ordinary numbers. -/
def positional (digits : List Char) (place : Int) : List Char :=
  if place ≤ 0 then '0' :: '.' :: List.replicate (-place).toNat '0' ++ digits
  else if digits.length ≤ place then
    digits ++ List.replicate (place.toNat - digits.length) '0' ++ ['.', '0']
  else digits.take place.toNat ++ '.' :: digits.drop place.toNat

/-- Digits with an exponent of at least two places and a sign. -/
def exponential (digits : List Char) (place : Int) : List Char :=
  let e := place - 1
  let exponent := Nat.toDigits 10 e.natAbs
  let padded := if exponent.length < 2 then '0' :: exponent else exponent
  let fraction := if digits.length ≤ 1 then [] else '.' :: digits.drop 1
  digits.take 1 ++ fraction ++ 'e' :: (if e < 0 then '-' else '+') :: padded

/-- The text of a floating-point number. Numbers from `0.0001` up to `10 ^ 16` are positional. -/
def showFloat (x : Float) : String :=
  match Binary64.ofFloat? x with
  | none => if x.isNaN then "nan" else if x < 0 then "-inf" else "inf"
  | some b =>
    let sign := if b.negative then ['-'] else []
    if b.mantissa == 0 then String.ofList (sign ++ ['0', '.', '0'])
    else
      let (a, p) := b.shortest
      let (digits, place) := significantDigits a p
      let body := if -4 < place ∧ place ≤ 16 then positional digits place
        else exponential digits place
      String.ofList (sign ++ body)

end ImportOrder
