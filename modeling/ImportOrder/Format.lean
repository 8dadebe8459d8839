import ImportOrder.Arrangement
import ImportOrder.Region
import ImportOrder.Render
import ImportOrder.Suppression

/-!
# Formatting a source file

The imports of a source are read, arranged and written back in the place where they stood. A source
whose imports cannot be handled is left alone, and so is one that a second pass would change again.

## Main definitions

* `formatOnce`: one pass over a source
* `format`: a stable pass over a source
-/

namespace ImportOrder

/-- **What formatting depends on** besides the source: the name of the file, the settings, the
project, and lines that the caller wants left alone. -/
structure FormatContext where
  file : String
  settings : Settings
  project : Option Project := none
  exceptions : Option Suppressions := none

namespace FormatContext

/-- A remark about the file. -/
def remark (c : FormatContext) (text : String) : String := s!"[{c.file}] {text}"

/-- The line ending for a source under settings that know it. -/
def eolFor (c : FormatContext) (source : Text) : Eol := c.settings.eol?.getD source.dominantEol

/-- Whether the region of a head is to be left alone. -/
def isSuppressed (c : FormatContext) (head : Head) (region : Span) : Bool :=
  let found := Suppressions.find head.source head.comments
  (found.union (c.exceptions.getD {})).covers (head.source.lineAt region.start)
    (head.source.lineAt region.stop)

/-- The text of the arranged imports of a head. -/
def regionText [Platform] (c : FormatContext) (head : Head) : Journaled Failure Text := do
  let groups ← arrange c.settings c.project (head.statements c.settings.gap)
  Journaled.ofExcept (renderRegion c.settings (c.eolFor head.source) groups)

/-- The source of a head with its imports arranged; nothing if there are none, or if they are to be
left alone. -/
def formatHead [Platform] (c : FormatContext) (head : Head) : Journaled Failure (Option Text) := do
  match head.region c.settings.gap with
  | none =>
    Journaled.debug (c.remark "no imports")
    return none
  | some region =>
    if c.isSuppressed head region then
      Journaled.debug (c.remark "import sorting is suppressed")
      return none
    else return some (head.source.splice region (← c.regionText head))

/-- Leaves a source alone if its imports cannot be handled. -/
def orLeaveAlone (c : FormatContext) (x : Journaled Failure (Option Text)) :
    Journaled Failure (Option Text) :=
  match x.result with
  | .error (.unsupported cause) =>
    ⟨x.journal ++ [⟨.debug, c.remark s!"skipped: {cause.message}"⟩], .ok none⟩
  | _ => x

/-- The head of a source. -/
def parseHead (source : Text) (dialect : Dialect) : Except Failure Head :=
  (Head.parse source dialect).mapError fun e => .unsupported (.unreadable e)

/-- One pass over a source: the new text, or nothing if the source is left alone. The line ending is
looked up before the source is read. -/
def formatOnce [Platform] (c : FormatContext) (source : Text) : Journaled Failure (Option Text) :=
  match Dialect.ofPath? (Path.ofString c.file) with
  | none => do
    Journaled.debug (c.remark "unsupported file type")
    return none
  | some dialect =>
    if c.settings.knowsEol then
      c.orLeaveAlone do c.formatHead (← Journaled.ofExcept (parseHead source dialect))
    else Journaled.fail (.broken .unknownStyle)

/-- The new text of a source; nothing if it is left alone or does not change. -/
def format [Platform] (c : FormatContext) (source : Text) : Journaled Failure (Option Text) := do
  match ← c.formatOnce source with
  | none => return none
  | some text =>
    if text = source then return none
    else
      match ← c.formatOnce text with
      | none => return some text
      | some again =>
        if again = text then return some text
        else
          Journaled.note .warning (c.remark "import order is not stable, leaving file unchanged")
          return none

end FormatContext

end ImportOrder
