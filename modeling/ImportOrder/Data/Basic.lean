import ImportOrder.Data.Moment
import ImportOrder.Number.Binary64
import ImportOrder.Text.CodePoint

/-!
# File data

The data that settings files hold: scalars, lists, and maps in the order of their keys' first
appearance. Keys may be any scalar. Some formats also have bytes, points in time, sets and pairs,
for which no setting has a use.

## Main definitions

* `Scalar`, `Data`: the values
* `Scalar.sameKey`: when two keys are one
* `Data.insertKey`: setting a key of a map
* `Data.field?`: the value of a key
-/

namespace ImportOrder

/-- **A scalar** of file data. -/
inductive Scalar where
  | null
  | bool (b : Bool)
  | int (n : Int)
  | float (x : Float)
  | str (s : WideText)
  | bytes (b : List UInt8)
  | moment (m : Moment)
deriving Repr, Inhabited

/-- **A value** of file data. -/
inductive Data where
  | scalar (s : Scalar)
  | list (items : List Data)
  | map (entries : List (Scalar × Data))
  | set (members : List Scalar)
  | pair (first second : Data)
deriving Repr, Inhabited

namespace Scalar

/-- A number or truth value as an integer, if it is one. -/
def toInt? : Scalar → Option Int
  | bool b => some (if b then 1 else 0)
  | int n => some n
  | float x => (Binary64.ofFloat? x).bind Binary64.toInt?
  | null | str _ | bytes _ | moment _ => none

/-- Whether two scalars are the same key of a map. Numbers are compared by value, and truth values
count as zero and one. -/
def sameKey : Scalar → Scalar → Bool
  | null, null => true
  | str a, str b => a == b
  | bytes a, bytes b => a == b
  | moment a, moment b => a == b
  | float x, float y => x == y
  | a, b =>
    match a.toInt?, b.toInt? with
    | some m, some n => m == n
    | _, _ => false

/-- Whether a scalar is zero as a number. -/
def isZero (s : Scalar) : Bool := s.toInt? == some 0

end Scalar

namespace Data

/-- The missing value. -/
@[match_pattern] abbrev null : Data := .scalar .null

/-- A truth value. -/
@[match_pattern] abbrev bool (b : Bool) : Data := .scalar (.bool b)

/-- An integer. -/
@[match_pattern] abbrev int (n : Int) : Data := .scalar (.int n)

/-- A text. -/
@[match_pattern] abbrev str (s : WideText) : Data := .scalar (.str s)

/-- Sets a key: the value is replaced if the key is there, and the key comes last if it is not. -/
def insertKey (entries : List (Scalar × Data)) (key : Scalar) (value : Data) :
    List (Scalar × Data) :=
  if entries.any (·.1.sameKey key) then
    entries.map fun e => if e.1.sameKey key then (e.1, value) else e
  else entries ++ [(key, value)]

/-- Sets the keys of `new` in `base`, in order. -/
def updateKeys (base new : List (Scalar × Data)) : List (Scalar × Data) :=
  new.foldl (fun acc e => insertKey acc e.1 e.2) base

/-- The value of a key among entries. -/
def lookup? (entries : List (Scalar × Data)) (key : String) : Option Data :=
  (entries.find? (·.1.sameKey (.str (.ofString key)))).map (·.2)

/-- The entries of a map. -/
def entries? : Data → Option (List (Scalar × Data))
  | map entries => some entries
  | _ => none

/-- The value of a key of a map. -/
def field? (d : Data) (key : String) : Option Data := d.entries?.bind (lookup? · key)

/-- The items of a list. -/
def items? : Data → Option (List Data)
  | list items => some items
  | _ => none

/-- The text of a text value. -/
def text? : Data → Option WideText
  | str s => some s
  | _ => none

/-- The string of a text value that has characters only. -/
def str? (d : Data) : Option String := d.text?.bind WideText.string?

/-- The truth value of a truth value. -/
def bool? : Data → Option Bool
  | bool b => some b
  | _ => none

/-- The integer of an integer value; truth values are not integers. -/
def int? : Data → Option Int
  | int n => some n
  | _ => none

/-- Whether a value counts as absent where an optional object is read: null, false, zero, and
anything empty. -/
def isEmptyValue : Data → Bool
  | scalar .null => true
  | scalar (.str s) => s.isEmpty
  | scalar (.bytes b) => b.isEmpty
  | scalar s => s.isZero
  | list items => items.isEmpty
  | map entries => entries.isEmpty
  | set members => members.isEmpty
  | pair _ _ => false

end Data

end ImportOrder
