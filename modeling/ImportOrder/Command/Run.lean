import ImportOrder.Command.Arguments
import ImportOrder.SourceFile

/-!
# Running a command

A run collects the source files that its paths name, formats each, and writes the new texts if it is
to fix them. The exit code tells whether a file was out of order, or whether something went wrong. A
breakdown ends the run.

## Main definitions

* `Report`: what a run says and leaves behind
* `Workspace.handleFiles`: a run over files and directories
* `Answer`, `Workspace.answer`: the answer to a request
-/

namespace ImportOrder

/-- **What a run says and leaves behind**: the exit code, the remarks, the number of files out of
order, the breakdown that ended it, and the workspace. -/
structure Report where
  exitCode : Nat := 0
  journal : List Entry := []
  changed : Nat := 0
  breakdown : Option Breakdown := none
  workspace : Workspace

namespace Report

/-- Adds remarks. -/
def say (r : Report) (entries : List Entry) : Report := { r with journal := r.journal ++ entries }

/-- Notes that something went wrong. -/
def failed (r : Report) (text : String) : Report :=
  { r.say [⟨.error, text⟩] with exitCode := max r.exitCode 2 }

/-- Notes a file that is, or was, out of order. -/
def outOfOrder (r : Report) (mode : Mode) (file : Path) : Report :=
  let remark := match mode with
    | .check => s!"[{file.toString}] imports would be reordered."
    | .fix => s!"[{file.toString}] file updated."
  { r.say [⟨.info, remark⟩] with exitCode := max r.exitCode 1, changed := r.changed + 1 }

/-- Notes the failure of a file. -/
def fileFailed (r : Report) (file : Path) (failure : Failure) : Report :=
  match failure.breakdown?, failure with
  | some cause, _ => { r with breakdown := some cause }
  | none, .conflict cause => r.failed s!"[{file.toString}] CONFLICT: {cause.message}"
  | none, cause => r.failed s!"[{file.toString}] ERROR: {cause.message}"

/-- Handles one file; a fixing run writes its new text. -/
def handleFile [Platform] (mode : Mode) (given : Option Layer) (file : Path) (r : Report) :
    Report :=
  let (outcome, workspace) := r.workspace.processFile (mode = .fix) file given
  let r := { r.say outcome.journal with workspace }
  match outcome.result with
  | .error failure => r.fileFailed file failure
  | .ok false => r.say [⟨.debug, s!"[{file.toString}] unchanged."⟩]
  | .ok true => r.outOfOrder mode file

/-- Handles files up to the first breakdown. -/
def handleAll [Platform] (mode : Mode) (given : Option Layer) (r : Report) : List Path → Report
  | [] => r
  | file :: files =>
    if r.breakdown.isSome then r else (r.handleFile mode given file).handleAll mode given files

/-- Adds the number of files out of order, if there are some and the run was not broken off. -/
def total (mode : Mode) (r : Report) : Report :=
  if r.changed = 0 ∨ r.breakdown.isSome then r
  else
    let what := match mode with
      | .check => "to update"
      | .fix => "updated"
    r.say [⟨.info, s!"Total files {what}: {r.changed}"⟩]

end Report

namespace Workspace

/-- The layer of a settings file given for the run; it has to be good on its own. -/
def givenLayer [Platform] (w : Workspace) : Option String → Journaled SettingsError (Option Layer)
  | none => pure none
  | some file => do
    let layer ← w.readLayer true (Path.ofString file)
    let _ ← Journaled.ofExcept (Settings.resolve layer.toList)
    return layer

/-- The source files that paths name: a file is itself, a directory the source files below. -/
def collectFiles [Platform] (w : Workspace) (given : Option Layer) :
    List String → Journaled SettingsError (List Path)
  | [] => pure []
  | s :: rest => do
    let p := Path.ofString s
    let files ← if w.isFile p then pure [p]
      else do
        let settings ← w.settingsFor (p.child settingsFileName) none given.toList
        pure (w.sourceFiles p settings.exclude)
    return files ++ (← w.collectFiles given rest)

/-- The layer given for a run and the files that it handles. -/
def prepare [Platform] (w : Workspace) (config : Option String) (paths : List String) :
    Journaled SettingsError (Option Layer × List Path) := do
  let given ← w.givenLayer config
  return (given, ← w.collectFiles given paths)

/-- A run over files and directories. -/
def handleFiles [Platform] (w : Workspace) (mode : Mode) (config : Option String)
    (paths : List String) : Report :=
  let start := w.prepare config paths
  let report : Report := { journal := start.journal, workspace := w }
  match start.result with
  | .error (.broken cause) => { report with breakdown := some cause }
  | .error e => report.failed s!"Invalid configuration: {e.message}"
  | .ok (given, files) => (report.handleAll mode given files).total mode

/-- What stands where an argument points. An argument that ends in a slash, or in a slash and a dot,
can only point to a directory. -/
def argument? (w : Workspace) (arg : String) : Option FileNode :=
  let last := (Text.splitAt '/' arg.toList).getLast?.getD []
  if arg = "" then none
  else
    match w.find (Path.ofString arg) with
    | .error _ => none
    | .ok (_, .directory) => some .directory
    | .ok (_, .file content) => if last = [] ∨ last = ['.'] then none else some (.file content)

/-- Whether the paths of a run point to something, and its settings file to a file. -/
def allows (w : Workspace) (i : Invocation) : Bool :=
  (i.paths.all fun arg => (w.argument? arg).isSome) &&
    i.config.all fun arg => w.argument? arg matches some (.file _)

end Workspace

/-- **The answer to a request**: how to use the program, because it was asked or because the
arguments are wrong; the version; the report of a run; or what a run that broke down said and left
behind. -/
inductive Answer where
  | usage (asked : Bool)
  | version
  | ran (exitCode : Nat) (shown : List String) (workspace : Workspace)
  | brokeDown (cause : Breakdown) (shown : List String) (workspace : Workspace)

namespace Answer

/-- The exit code. -/
def exitCode : Answer → Nat
  | usage asked => if asked then 0 else 2
  | version => 0
  | ran code _ _ => code
  | brokeDown _ _ _ => 1

/-- The line that tells the version. -/
def versionLine : String := "import-sorter CLI, version import-sorter 0.1.0"

end Answer

namespace Workspace

/-- The answer to a request. -/
def answer [Platform] (w : Workspace) : Request → Answer
  | .invalid => .usage false
  | .help => .usage true
  | .version => .version
  | .run i =>
    if w.allows i then
      let report := w.handleFiles i.mode i.config i.paths
      let shown := (report.journal.filter fun e => i.level.rank ≤ e.level.rank).map (·.text)
      match report.breakdown with
      | some cause => .brokeDown cause shown report.workspace
      | none => .ran report.exitCode shown report.workspace
    else .usage false

end Workspace

end ImportOrder
