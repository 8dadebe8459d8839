import ImportOrder.Source.Token

/-!
# Pragma comments

Some comments speak to tools about the whole file: reference directives, licence notices, type
checking and linting switches. They stay at the top of the file when imports move.

## Main definitions

* `Comment.isPragma`: whether a comment is such a comment
* `Text.hasFileSwitch`: whether a comment switches import sorting off for the file
-/

namespace ImportOrder

namespace Text

/-- Whether a text does not start with a word character. -/
def startsOutsideWord (t : Text) : Bool := !(t.head?.map isWordChar).getD false

/-- Whether some occurrence of `needle` in a text is followed by what `ok` accepts. -/
def hasFollowedBy (needle : String) (ok : Text → Bool) (t : Text) : Bool :=
  (suffixes t).any fun s => ((after? needle.toList s).map ok).getD false

/-- The switch that turns import sorting off, followed by what `ok` accepts. -/
def hasSwitch (ok : Text → Bool) : Text → Bool :=
  hasFollowedBy "import-sorter:" fun t => ((after? "disable".toList (trimLeft t)).map ok).getD false

/-- Whether a comment turns import sorting off for the whole file. -/
def hasFileSwitch : Text → Bool := hasSwitch startsOutsideWord

/-- Whether a comment turns linting off from where it stands: `eslint-disable` and no longer
word. -/
def isLintSwitch (t : Text) : Bool :=
  match (after? "/*".toList t).bind fun u => after? "eslint-disable".toList (trimLeft u) with
  | none => false
  | some rest => startsOutsideWord rest && rest.head? ≠ some '-'

/-- Whether a comment is a triple-slash directive with a tag. -/
def isReferenceDirective (t : Text) : Bool :=
  match after? "///".toList t with
  | none => false
  | some rest => (trimLeft rest).head? = some '<'

end Text

namespace Comment

/-- Whether a comment concerns the whole file. -/
def isPragma (c : Comment) : Bool :=
  let t := c.text
  t.isReferenceDirective || "/*!".toList.isPrefixOf t ||
    ["@flow", "@license", "@preserve", "@ts-nocheck"].any
      (t.hasFollowedBy · Text.startsOutsideWord) ||
    t.hasFollowedBy "@jsx" (fun _ => true) || t.isLintSwitch || t.hasSwitch (fun _ => true)

end Comment

end ImportOrder
