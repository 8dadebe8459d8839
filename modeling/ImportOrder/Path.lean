import ImportOrder.Text.Basic

/-!
# Paths

A path is a list of components, from the root directory or from the current one. Empty components
and single dots are dropped when a path is read; double dots stay until the path is made absolute.

## Main definitions

* `Path.ofString`, `Path.toString`: reading and writing
* `Path.name`, `Path.suffix`: the last component and its ending
* `Path.resolve`: the absolute path without double dots
-/

namespace ImportOrder

/-- **A path** to a file or directory. -/
structure Path where
  absolute : Bool
  parts : List String
deriving Repr, DecidableEq, Inhabited

namespace Path

/-- The components of a text, without the empty ones and the single dots. -/
def components (s : String) : List String :=
  ((Text.splitAt '/' s.toList).map String.ofList).filter fun p => p ≠ "" ∧ p ≠ "."

/-- Reads a path. -/
def ofString (s : String) : Path := ⟨s.toList.head? = some '/', components s⟩

/-- The text of a path. -/
def toString (p : Path) : String :=
  let body := String.intercalate "/" p.parts
  if p.absolute then "/" ++ body else if p.parts.isEmpty then "." else body

/-- The last component. -/
def name (p : Path) : String := p.parts.getLast?.getD ""

/-- The ending of a file name, from its last dot; a dot at either end of the name starts none. -/
def suffixOfName (name : String) : String :=
  let stem := (name.toList.reverse.dropWhile (· ≠ '.')).reverse
  let ending := (name.toList.reverse.takeWhile (· ≠ '.')).reverse
  if 1 < stem.length ∧ ending ≠ [] then String.ofList ('.' :: ending) else ""

/-- The ending of the last component. -/
def suffix (p : Path) : String := suffixOfName p.name

/-- A path continued by one component. -/
def child (p : Path) (name : String) : Path := { p with parts := p.parts ++ [name] }

/-- Components without those that lead up: each of these takes back the component before it. -/
def withoutUps {α : Type} [DecidableEq α] (up : α) (parts : List α) : List α :=
  (parts.foldl (fun acc p => if p = up then acc.tail else p :: acc) []).reverse

/-- Components without double dots. -/
def collapse (parts : List String) : List String := withoutUps ".." parts

/-- The absolute path, seen from the directory `current`, without double dots. -/
def resolve (current : List String) (p : Path) : List String :=
  collapse (if p.absolute then p.parts else current ++ p.parts)

/-- The absolute path with the given components. -/
def ofAbsolute (parts : List String) : Path := ⟨true, parts⟩

end Path

end ImportOrder
