import ImportOrder.Breakdown
import ImportOrder.Data.Basic
import ImportOrder.Text.Lowercase
import ImportOrder.Yaml.Kind

/-!
# Values of YAML scalars

The value of a text of a given kind. A tag may name a kind that the text does not fit; then reading
breaks down, except for bytes, whose text is malformed.

## Main definitions

* `Yaml.readInt`, `Yaml.readFloat`, `Yaml.readBytes?`: the values of texts of these kinds
* `Yaml.NodeKind.read`: the value of a text of some kind
-/

namespace ImportOrder

namespace Yaml

/-- The value that is there, or the breakdown that there is none. -/
def numberOr {α : Type} (x : Option α) : Except Breakdown α :=
  match x with
  | some a => .ok a
  | none => .error .badNumber

/-- The integer that a text without underscores and sign writes. -/
def readUnsignedInt (t : Text) : Except Breakdown Int :=
  match t with
  | [] => .error .missingNumber
  | ['0'] => .ok 0
  | '0' :: 'b' :: ds => numberOr (readInteger? 2 ds)
  | '0' :: 'x' :: ds => numberOr (readInteger? 16 ds)
  | '0' :: _ => numberOr (readInteger? 8 t)
  | _ => do
    let places ← (Text.splitAt ':' t).mapM fun p => numberOr (readInteger? 10 p)
    return places.foldl (fun n d => 60 * n + d) 0

/-- The integer that a text writes. -/
def readInt (t : Text) : Except Breakdown Int :=
  let (negative, u) := Numeral.splitSign (t.filter (· != '_'))
  (readUnsignedInt u).map fun n => if negative then -n else n

/-- The sum of places in base sixty, the last place first; `base` is the weight of the next one. -/
def sumSixties : (base : Nat) → (total : Float) → List Float → Except Breakdown Float
  | _, total, [] => .ok total
  | base, total, x :: xs =>
    if powerOfTwo 1024 ≤ base then .error .tooLarge
    else sumSixties (60 * base) (total + x * readDecimal base 0) xs

/-- The number that a text in small letters, without underscores and sign, writes. -/
def readUnsignedFloat (t : Text) : Except Breakdown Float :=
  if t.contains ':' then do
    let places ← (Text.splitAt ':' t).mapM fun p => numberOr (readNumber? p)
    sumSixties 1 0 places.reverse
  else numberOr (readNumber? t)

/-- The number that a text writes. -/
def readFloat (t : Text) : Except Breakdown Float := do
  let bare := Text.lower (t.filter (· != '_'))
  if bare.isEmpty then throw .missingNumber
  let (negative, u) := Numeral.splitSign bare
  let sign : Float := if negative then -1 else 1
  if u = ".inf".toList then return sign * (1 / 0)
  if u = ".nan".toList then return 0 / 0
  return sign * (← readUnsignedFloat u)

/-- The value of a digit in base sixty-four. -/
def sextet? (c : Char) : Option Nat :=
  if 'A' ≤ c ∧ c ≤ 'Z' then some (c.toNat - 65)
  else if 'a' ≤ c ∧ c ≤ 'z' then some (c.toNat - 71)
  else if isAsciiDigit c then some (c.toNat + 4)
  else if c = '+' then some 62
  else if c = '/' then some 63
  else none

/-- The bytes that digits in base sixty-four write. `held` are the digits of the present group of
four, and `pads` the padding characters since the last digit. Other characters do not count. The
padding that completes a group ends the text. -/
def sextetBytes? (held : List Nat) (pads : Nat) : Text → Option (List UInt8)
  | [] => if held.isEmpty then some [] else none
  | c :: t =>
    if c = '=' then
      match held with
      | [a, b] =>
        if pads = 0 then sextetBytes? held 1 t else some [(4 * a + b / 16).toUInt8]
      | [a, b, d] => some [(4 * a + b / 16).toUInt8, (16 * b + d / 4).toUInt8]
      | _ => sextetBytes? held pads t
    else
      match sextet? c with
      | none => sextetBytes? held pads t
      | some n =>
        match held with
        | [a, b, d] =>
          (sextetBytes? [] 0 t).map fun rest =>
            (4 * a + b / 16).toUInt8 :: (16 * b + d / 4).toUInt8 :: (64 * d + n).toUInt8 :: rest
        | _ => sextetBytes? (held ++ [n]) 0 t

/-- The bytes that a text in ASCII writes in base sixty-four. -/
def readBytes? (t : Text) : Option (List UInt8) :=
  if t.all (·.toNat < 0x80) then sextetBytes? [] 0 t else none

/-- The point in time that a text writes. -/
def readMoment (t : Text) : Except Breakdown Moment :=
  match readTimestamp? t with
  | none => .error .badTimestamp
  | some m => if m.isPossible then .ok m else .error .impossibleTime

namespace NodeKind

/-- The value of a text of some kind. Kinds of collections and keys have no texts. -/
def read (kind : NodeKind) (t : WideText) : Except Rejection Scalar :=
  match kind with
  | .null => .ok .null
  | .bool =>
    match boolWords.lookup (String.ofList (Text.lower t.chars)) with
    | some b => .ok (.bool b)
    | none => .error (.broken .badTruthValue)
  | .int => ((readInt t.chars).map Scalar.int).mapError .broken
  | .float => ((readFloat t.chars).map Scalar.float).mapError .broken
  | .str => .ok (.str t)
  | .binary =>
    match readBytes? t.chars with
    | some bytes => .ok (.bytes bytes)
    | none => .error .malformed
  | .timestamp => ((readMoment t.chars).map Scalar.moment).mapError .broken
  | _ => .error .malformed

end NodeKind

end Yaml

end ImportOrder
