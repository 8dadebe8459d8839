import ImportOrder.Breakdown
import ImportOrder.Data.Display
import ImportOrder.Platform.Basic
import ImportOrder.Source.Head

/-!
# Failures

Everything that can go wrong, by its cause, and the one place where the causes are put into words.

## Main definitions

* `Unsupported`: imports that cannot be handled, so that the file is left alone
* `Conflict`: imports of one module that cannot be merged
* `SettingsError`: settings that are malformed or contradict themselves
* `Failure`: any of these, a source file that cannot be read, or a breakdown
-/

namespace ImportOrder

namespace Wanted

/-- What was wanted, in a message. -/
def display : Wanted → String
  | text s => quoted s
  | name => "name"
  | string => "string"

end Wanted

namespace SyntaxError

/-- The wording of a syntax error. -/
def message : SyntaxError → String
  | unterminated offset => s!"unterminated string or comment at offset {offset}"
  | expected wanted found =>
    s!"expected {wanted.display} at offset {found.start}, got {found.text.quoted}"
  | unexpectedInList found =>
    s!"unexpected {found.text.quoted} in import list at offset {found.start}"
  | stringNeedsAlias offset => s!"string import name needs an alias at offset {offset}"
  | importEquals offset => s!"'import = require' is not supported (offset {offset})"
  | unexpected found => s!"unexpected {found.text.quoted} at offset {found.start}"
  | expectedClause found =>
    s!"expected an import clause at offset {found.start}, got {found.text.quoted}"
  | unterminatedAttributes offset => s!"unterminated import attributes at offset {offset}"
  | unexpectedAfterImport found =>
    s!"unexpected {found.text.quoted} after import at offset {found.start}"

end SyntaxError

/-- **Why the imports of a file are left as they are.** -/
inductive Unsupported where
  | unreadable (cause : SyntaxError)
  | mergeAcrossComments (specifier : Text)
  | changeAcrossComments (specifier : Text)
deriving Repr, DecidableEq

namespace Unsupported

/-- The wording of an unsupported construct. -/
def message : Unsupported → String
  | unreadable cause => cause.message
  | mergeAcrossComments specifier =>
    s!"cannot merge imports of {specifier.quoted} with comments inside"
  | changeAcrossComments specifier =>
    s!"cannot rewrite import of {specifier.quoted} with comments inside"

end Unsupported

/-- Why two bindings of one module exclude each other. -/
inductive Clash where
  | sameLocalName (name : Text)
  | differentHeads (kind : BindingKind) (first second : Text)
deriving Repr, DecidableEq

/-- **Imports of one module that cannot be merged** without losing a binding. -/
structure Conflict where
  specifier : Text
  clash : Clash
deriving Repr, DecidableEq

namespace BindingKind

/-- The name of a kind of binding. -/
def label : BindingKind → String
  | defaultExport => "default"
  | namespaceObject => "namespace"
  | namedExport => "named"

end BindingKind

namespace Conflict

/-- The wording of a conflict. -/
def message (c : Conflict) : String :=
  match c.clash with
  | .sameLocalName name => s!"{c.specifier.quoted}: local name {name.quoted} is bound twice"
  | .differentHeads kind first second =>
    s!"{c.specifier.quoted}: conflicting {kind.label} imports {first.quoted} and {second.quoted}"

end Conflict

/-- **Why a file cannot be read**, or cannot be read as data. -/
inductive ReadFault where
  | notFound
  | isDirectory
  | notDirectory
  | undecodable
  | malformedJson
  | malformedYaml
deriving Repr, DecidableEq

namespace ReadFault

/-- The name of the kind of fault. -/
def label : ReadFault → String
  | notFound => "FileNotFoundError"
  | isDirectory => "IsADirectoryError"
  | notDirectory => "NotADirectoryError"
  | undecodable => "UnicodeDecodeError"
  | malformedJson => "ValueError"
  | malformedYaml => "YAMLError"

/-- The wording of a fault. -/
def message (f : ReadFault) : String := s!"<{f.label}>"

end ReadFault

/-- **Settings that cannot be used.** -/
inductive SettingsError where
  | notAnObject (value : Data)
  | unknownField (key : Scalar)
  | badValue (key : String) (expected : String) (value : Data)
  | unknownGroupFields (index : Nat) (names : List WideText)
  | missingPattern (index : Nat)
  | unknownPattern (pattern : WideText)
  | badRegex (expression : WideText)
  | samePosition (first second : WideText) (position : Int)
  | noCatchAll
  | unreadableFile (path : String) (fault : ReadFault)
  | inFile (path : String) (cause : SettingsError)
  | circularExtends (path : String)
  | projectNotObject (path : String)
  | pathsNotObject (path : String)
  | broken (cause : Breakdown)

namespace SettingsError

/-- The wording of an error in settings. -/
def message : SettingsError → String
  | notAnObject value => s!"expected an object, got {value.display}"
  | unknownField key => s!"unknown field {key.display}"
  | badValue key expected value => s!"{key}: expected {expected}, got {value.display}"
  | unknownGroupFields index names =>
    let list := String.intercalate ", " (names.map WideText.shown)
    s!"groups[{index}]: unknown field(s) {list}"
  | missingPattern index => s!"groups[{index}]: missing 'pattern'"
  | unknownPattern pattern => s!"unknown group pattern {pattern.quoted}"
  | badRegex expression => s!"invalid regex {expression.quoted} in group pattern: <error>"
  | samePosition first second position =>
    s!"groups {first.quoted} and {second.quoted} share position {position}"
  | noCatchAll => "no catch-all group configured"
  | unreadableFile path fault => s!"{path}: {fault.message}"
  | inFile path cause => s!"{path}: {cause.message}"
  | circularExtends path => s!"{path}: circular 'extends'"
  | projectNotObject path => s!"{path}: expected an object"
  | pathsNotObject path => s!"{path}: 'paths' must be an object"
  | broken cause => cause.message

/-- Why the values in an error cannot be shown, if they cannot. -/
def displayFault? [Platform] : SettingsError → Option Breakdown
  | notAnObject value | badValue _ _ value => value.displayFault? Platform.displayDepth
  | unknownField key => key.displayFault?
  | samePosition _ _ position => (Scalar.int position).displayFault?
  | _ => none

/-- The error itself if it can be put into words, and the breakdown of doing so if it cannot. -/
def worded [Platform] (e : SettingsError) : SettingsError :=
  (e.displayFault?.map broken).getD e

/-- The error as one of a file. A breakdown is no error of a file. -/
def ofFile (path : String) : SettingsError → SettingsError
  | broken cause => broken cause
  | e => inFile path e

/-- The error of reading a regular expression. -/
def ofRejection (expression : WideText) : Rejection → SettingsError
  | .malformed => badRegex expression
  | .broken cause => broken cause

/-- The breakdown that an error is, if it is one. -/
def breakdown? : SettingsError → Option Breakdown
  | broken cause => some cause
  | _ => none

end SettingsError

/-- **Any failure.** -/
inductive Failure where
  | unsupported (cause : Unsupported)
  | conflict (cause : Conflict)
  | settings (cause : SettingsError)
  | source (fault : ReadFault)
  | broken (cause : Breakdown)

namespace Failure

/-- The wording of a failure. -/
def message : Failure → String
  | unsupported cause => cause.message
  | conflict cause => cause.message
  | settings cause => cause.message
  | source fault => fault.message
  | broken cause => cause.message

/-- The breakdown that a failure is, if it is one. -/
def breakdown? : Failure → Option Breakdown
  | broken cause => some cause
  | settings cause => cause.breakdown?
  | _ => none

end Failure

end ImportOrder
