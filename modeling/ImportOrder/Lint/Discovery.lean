import ImportOrder.Lint.Override
import ImportOrder.Settings.Discovery

/-!
# Finding linter rules

The linter's rules for a source file come from the linter's own settings in the directories around
it, up to a directory that declares itself the root. Nearer rules win. A file that cannot be read is
passed over.

## Main definitions

* `Workspace.lintData`: the linter settings of a directory
* `Workspace.lintRulesFor`: the rules for a source file
* `Workspace.fileSettings`: the settings of a source file with the linter's on top
-/

namespace ImportOrder

/-- The names of linter settings files, in the order in which they are looked for, with the formats
to try. -/
def lintFiles : List (String × List DataFormat) := [
  (".eslintrc.yaml", [.yaml]),
  (".eslintrc.yml", [.yaml]),
  (".eslintrc.json", [.json]),
  (".eslintrc", [.json, .yaml])]

/-- The key of linter settings in package files. -/
def lintPackageKey : String := "eslintConfig"

namespace Workspace

/-- The data of a file in the first of some formats that it is well-formed in. A breakdown ends the
search. -/
def readFirst [Platform] (w : Workspace) (p : Path) : List DataFormat → Except SettingsError Data
  | [] => .error (.unreadableFile p.toString .notFound)
  | [format] => w.readData format p
  | format :: more =>
    match w.readData format p with
    | .ok data => .ok data
    | .error (.broken cause) => .error (.broken cause)
    | .error _ => w.readFirst p more

/-- The linter settings of a directory: those of the first linter settings file, or else those in
the package file. -/
def lintData [Platform] (w : Workspace) (dir : Place) : Journaled SettingsError (Option Data) :=
  match lintFiles.find? fun f => w.tree.isFile (dir ++ [f.1]) with
  | some (name, formats) =>
    let p := Path.ofAbsolute (dir ++ [name])
    match w.readFirst p formats with
    | .ok data => return if data.entries?.isSome then some data else none
    | .error (.broken cause) => Journaled.fail (.broken cause)
    | .error e => do
      Journaled.debug s!"Ignoring {p.toString}: {e.message}"
      return none
  | none =>
    if w.tree.isFile (dir ++ [packageFileName]) then do
      let data ← Journaled.ofExcept (w.readJson (.ofAbsolute (dir ++ [packageFileName])))
      return (data.field? lintPackageKey).filter (·.entries?.isSome)
    else return none

/-- Whether linter settings declare the root. -/
def isLintRoot (data : Data) : Bool := data.field? "root" matches some (.bool true)

/-- The rules of linter settings. -/
def rulesOf (data : Data) : LintRules := ((data.field? "rules").bind Data.entries?).getD []

/-- The rules of directories, the nearest first; a directory that declares itself the root is the
last. -/
def collectRules [Platform] (w : Workspace) : List Place → Journaled SettingsError (List LintRules)
  | [] => pure []
  | dir :: dirs => do
    match ← w.lintData dir with
    | none => w.collectRules dirs
    | some data =>
      if isLintRoot data then return [rulesOf data]
      else return rulesOf data :: (← w.collectRules dirs)

/-- The rules for a source file; nearer ones win. -/
def lintRulesFor [Platform] (w : Workspace) (file : Path) : Journaled SettingsError LintRules := do
  let nearestFirst ← w.collectRules (w.directoriesOf file)
  return nearestFirst.foldr (fun rules base => Data.updateKeys base rules) []

/-- The settings of a source file: its settings files, a layer given for the run, and what the
linter's rules say on top. -/
def fileSettings [Platform] (w : Workspace) (file : Path) (given : Option Layer) :
    Journaled SettingsError Settings := do
  let settings ← w.settingsFor file none given.toList
  let rules ← w.lintRulesFor file
  if rules.isEmpty then return settings
  else
    let layer := LintRules.overrides rules settings.ignoreLintRules
    layer.remarkLint
    return settings.override layer

end Workspace

end ImportOrder
