import ImportOrder.Breakdown
import ImportOrder.Data.Basic
import ImportOrder.Number.Numeral
import ImportOrder.Number.Shortest
import ImportOrder.Text.Quoted

/-!
# File data in messages

Messages show data on one line, with texts quoted, lists in brackets and maps in braces. An integer
with more digits than can be read back cannot be shown, nor can a value that is nested too deeply.

## Main definitions

* `Data.display`: the text of a value in a message
* `Data.displayFault?`: why a value cannot be shown
-/

namespace ImportOrder

/-- A text as a message shows it. -/
def quoted (s : String) : String := Text.quoted s.toList

/-- Whether an integer has few enough digits to be shown. -/
def canDisplayInt (n : Int) : Bool := n.natAbs < powerOfTen digitLimit

namespace Scalar

/-- The text of a scalar in a message. -/
def display : Scalar → String
  | null => "None"
  | bool true => "True"
  | bool false => "False"
  | int n => toString n
  | float x => showFloat x
  | str s => s.quoted
  | bytes b => Text.quoted (b.map fun n => Char.ofNat n.toNat)
  | moment m => m.display

/-- Why a scalar cannot be shown, if it cannot. -/
def displayFault? : Scalar → Option Breakdown
  | int n => if canDisplayInt n then none else some .tooManyDigits
  | _ => none

end Scalar

namespace Data

mutual

/-- The text of a value in a message. -/
def display : Data → String
  | scalar s => s.display
  | list items => "[" ++ String.intercalate ", " (displayItems items) ++ "]"
  | map entries => "\x7b" ++ String.intercalate ", " (displayEntries entries) ++ "\x7d"
  | set [] => "set()"
  | set members => "\x7b" ++ String.intercalate ", " (members.map Scalar.display) ++ "\x7d"
  | pair first second => "(" ++ display first ++ ", " ++ display second ++ ")"

/-- The texts of the items of a list. -/
def displayItems : List Data → List String
  | [] => []
  | d :: ds => display d :: displayItems ds

/-- The texts of the entries of a map. -/
def displayEntries : List (Scalar × Data) → List String
  | [] => []
  | (k, v) :: es => (k.display ++ ": " ++ display v) :: displayEntries es

end

/-- Why a value in which `room` values may be nested cannot be shown, if it cannot. What would be
shown first decides. A set is shown by way of a list. -/
def displayFault? : (room : Nat) → Data → Option Breakdown
  | 0, _ => some .tooDeep
  | _ + 1, scalar s => s.displayFault?
  | room + 1, list items => items.findSome? (displayFault? room)
  | room + 1, map entries =>
    entries.findSome? fun e => (displayFault? room (scalar e.1)).or (displayFault? room e.2)
  | _ + 1, set [] => none
  | room + 1, set members => displayFault? room (list (members.map scalar))
  | room + 1, pair first second => (displayFault? room first).or (displayFault? room second)

end Data

end ImportOrder
