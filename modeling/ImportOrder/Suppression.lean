import ImportOrder.Source.Pragma

/-!
# Suppressions

Comments can keep import sorting away from lines: a switch for the whole file, and lint directives
that name a sorting rule, for one line, for the next line, or from where they stand up to a
directive that enables the rule again.

## Main definitions

* `LineRange`, `Suppressions`: the lines that are left alone
* `Suppressions.covers`: whether lines are among them
* `Suppressions.find`: the lines that the comments of a source leave alone
-/

namespace ImportOrder

/-- **A range of lines**, with both ends. -/
structure LineRange where
  first : Int
  last : Int
deriving Repr, DecidableEq, Inhabited

/-- **The lines that are left alone.** -/
structure Suppressions where
  ranges : List LineRange := []
  disabled : Bool := false
deriving Repr, DecidableEq, Inhabited

/-- The line after which no line comes. -/
def lastLine : Int := 9223372036854775807

/-- The lint rules that are about the order of imports. -/
def sortRules : List String := ["sort-imports", "import/order", "simple-import-sort/imports"]

/-- What a lint directive does. -/
inductive LintAction where
  | disableNextLine
  | disableLine
  | disable
  | enable
deriving Repr, DecidableEq, Inhabited

/-- The words of lint directives. -/
def lintWords : List (String × LintAction) := [
  ("disable-next-line", .disableNextLine), ("disable-line", .disableLine), ("disable", .disable),
  ("enable", .enable)]

namespace Text

/-- What follows the mark that opens a comment. -/
def afterCommentMark? (t : Text) : Option Text :=
  (after? "//".toList t).or (after? "/*".toList t)

/-- The text without the mark that closes a block comment at its end. -/
def withoutCloseMark (t : Text) : Text :=
  if "*/".toList.isSuffixOf t then t.take (t.length - 2) else t

/-- The action of a lint directive and what it says after its word. The word must end there: no
word character and no hyphen follows. -/
def lintDirective? (t : Text) : Option (LintAction × Text) := do
  let opened ← afterCommentMark? t.trim
  let named ← after? "eslint-".toList (trimLeft opened)
  lintWords.findSome? fun (word, action) => do
    let rest ← after? word.toList named
    if startsOutsideWord rest && rest.head? ≠ some '-' then
      some (action, withoutCloseMark rest)
    else none

/-- Whether the rules that a lint directive names, up to a remark, include a sorting rule. -/
def namesSortRule (t : Text) : Bool :=
  (splitAt ',' (beforeFirst "--".toList t)).any fun name =>
    sortRules.any (·.toList == trim name)

end Text

namespace Suppressions

/-- Whether some line from `first` to `last` is left alone. -/
def covers (s : Suppressions) (first last : Int) : Bool :=
  s.disabled || s.ranges.any fun r => r.first ≤ last && first ≤ r.last

/-- The lines that one or the other leaves alone. -/
def union (s t : Suppressions) : Suppressions :=
  ⟨s.ranges ++ t.ranges, s.disabled || t.disabled⟩

end Suppressions

namespace Comment

/-- The action of a comment on import sorting, if it is a lint directive for it. -/
def sortAction? (c : Comment) : Option LintAction :=
  match c.text.lintDirective? with
  | some (action, rest) => if rest.namesSortRule then some action else none
  | none => none

end Comment

namespace Suppressions

/-- The lines that comments leave alone; `since` is the line where a disabled stretch began. -/
def rangesFrom (source : Text) : (since : Option Int) → List Comment → List LineRange
  | none, [] => []
  | some line, [] => [⟨line, lastLine⟩]
  | since, c :: cs =>
    let first : Int := source.lineAt c.start
    let last : Int := source.lineAt c.stop
    if c.text.hasFileSwitch then rangesFrom source since cs
    else
      match c.sortAction?, since with
      | some .disableLine, _ => ⟨first, first⟩ :: rangesFrom source since cs
      | some .disableNextLine, _ => ⟨last + 1, last + 1⟩ :: rangesFrom source since cs
      | some .disable, none => rangesFrom source (some first) cs
      | some .enable, some line => ⟨line, last⟩ :: rangesFrom source none cs
      | _, _ => rangesFrom source since cs

/-- The lines that the comments of a source leave alone. -/
def find (source : Text) (comments : List Comment) : Suppressions :=
  ⟨rangesFrom source none comments, comments.any (·.text.hasFileSwitch)⟩

end Suppressions

end ImportOrder
