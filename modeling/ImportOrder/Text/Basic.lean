/-!
# Texts

The text of a source file is a list of code points, so that an offset into it is a position in the
list. Slices, blanks and the few splittings that the library needs are defined here.

## Main definitions

* `Text`: a list of code points
* `Text.slice`: the text between two offsets
* `Text.trim`: a text without the blanks at its ends
* `Text.beforeFirst`: what precedes the first occurrence of a text
-/

namespace ImportOrder

/-- **A text** as its list of code points. Offsets are positions in this list. -/
abbrev Text := List Char

/-- Blank characters: the white space of the standard and the four information separators. -/
def isBlank (c : Char) : Bool :=
  let n := c.toNat
  (0x09 ≤ n && n ≤ 0x0d) || (0x1c ≤ n && n ≤ 0x20) || n == 0x85 || n == 0xa0 || n == 0x1680 ||
    (0x2000 ≤ n && n ≤ 0x200a) || n == 0x2028 || n == 0x2029 || n == 0x202f || n == 0x205f ||
    n == 0x3000

namespace Text

/-- The text between two offsets; offsets past the end stand for the end. -/
def slice (t : Text) (start stop : Nat) : Text := (t.take stop).drop start

/-- The text without the blanks at its start. -/
def trimLeft (t : Text) : Text := t.dropWhile isBlank

/-- The text without the blanks at its end. -/
def trimRight (t : Text) : Text := (t.reverse.dropWhile isBlank).reverse

/-- The text without the blanks at its ends. -/
def trim (t : Text) : Text := trimRight (trimLeft t)

/-- What follows `head` in `t`, if `t` starts with it. -/
def after? (head : Text) (t : Text) : Option Text :=
  if head.isPrefixOf t then some (t.drop head.length) else none

/-- Every suffix of a text, the whole text first and the empty one last. -/
def suffixes : Text → List Text
  | [] => [[]]
  | c :: t => (c :: t) :: suffixes t

/-- What precedes the first occurrence of `needle` in `t`: all of `t` if there is none. -/
def beforeFirst (needle : Text) : Text → Text
  | [] => []
  | c :: t => if needle.isPrefixOf (c :: t) then [] else c :: beforeFirst needle t

/-- The parts of a text between the occurrences of a character, or of a code point in a text of code
points. -/
def splitAt {α : Type} [DecidableEq α] (sep : α) : List α → List (List α)
  | [] => [[]]
  | c :: t =>
    if c = sep then [] :: splitAt sep t
    else match splitAt sep t with
      | [] => [[c]]
      | part :: parts => (c :: part) :: parts

/-- Texts joined with a separator between them. -/
def join (sep : Text) (parts : List Text) : Text := (parts.intersperse sep).flatten

@[simp] theorem join_nil (sep : Text) : join sep [] = [] := rfl

@[simp] theorem join_singleton (sep t : Text) : join sep [t] = t := by simp [join]

theorem join_cons_cons (sep t u : Text) (ts : List Text) :
    join sep (t :: u :: ts) = t ++ sep ++ join sep (u :: ts) := by simp [join]

theorem join_concat (sep : Text) (ts : List Text) (t : Text) :
    join sep (ts ++ [t]) = ts.flatMap (· ++ sep) ++ t := by
  induction ts with
  | nil => simp
  | cons u ts ih =>
    cases ts with
    | nil => simp [join_cons_cons]
    | cons v ts =>
      rw [List.cons_append, List.cons_append, join_cons_cons, ← List.cons_append, ih]
      simp

end Text

end ImportOrder
