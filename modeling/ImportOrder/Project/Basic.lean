import ImportOrder.Data.Basic
import ImportOrder.Text.CodePoint

/-!
# Project options

What the project file of a source tree says about module names: a table of aliases, and the way
modules are resolved.

## Main definitions

* `Project`: the options
* `matchesAlias`: whether a pattern of the table covers a specifier
* `Project.isAlias`: whether the table covers a specifier
-/

namespace ImportOrder

/-- **The options of a project.** -/
structure Project where
  paths : List (WideText × List Data) := []
  baseUrl : Option Data := none
  moduleResolution : Option String := none
deriving Inhabited

/-- Whether a pattern covers a specifier. The first star of a pattern stands for any text; a
pattern without one covers itself only. -/
def matchesAlias (pattern specifier : WideText) : Bool :=
  match pattern.dropWhile (· ≠ .char '*') with
  | [] => specifier == pattern
  | _ :: after =>
    let before := pattern.takeWhile (· ≠ .char '*')
    before.isPrefixOf specifier && after.isSuffixOf specifier &&
      before.length + after.length ≤ specifier.length

namespace Project

/-- Whether the table of aliases covers a specifier. -/
def isAlias (p : Project) (specifier : Text) : Bool :=
  p.paths.any fun e => matchesAlias e.1 specifier.widen

end Project

end ImportOrder
