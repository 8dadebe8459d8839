import ImportOrder.Command.Run
import ImportOrder.Platform.Usual

/-!
# The program

The command line program. What a run can see of the disk is read first, the run itself is a function
of that on the usual platform, and then its remarks are printed and the files that it changed are
written.

## Main definitions

* `Snapshot.ofRequest`: the part of the disk that a request can see
* `main`: the program
-/

namespace ImportOrder

/-- How to use the program. -/
def usageText : String := String.intercalate "\n" [
  "Usage: import-sorter [OPTIONS] COMMAND [ARGS]...",
  "",
  "  Sort and group JavaScript/TypeScript imports.",
  "",
  "Options:",
  "  -v, --verbose  Increase verbosity.",
  "  -q, --quiet    Suppress non-error output.",
  "  --version      Show the version and exit.",
  "  --help         Show this message and exit.",
  "",
  "Commands:",
  "  check [--config FILE] PATHS...  Report files whose imports are out of order without modifying them.",
  "  fix [--config FILE] PATHS...    Sort imports in place."]

namespace Snapshot

/-- The names of files that settings, rules and project options are read from. -/
def knownNames : List String :=
  [settingsFileName, packageFileName] ++ lintFiles.map (·.1) ++ projectFileNames

/-- The path of a place on disk. -/
def diskPath (place : Place) : String := (Path.ofAbsolute place).toString

/-- Adds what stands at a place on disk, if something does and it can be read. -/
def addPlace (tree : FileTree) (place : Place) : IO FileTree := do
  if (tree.get? place).isSome then return tree
  let p := (← IO.currentDir) / diskPath place
  try
    if ← p.isDir then return tree.add place .directory
    else if ← p.pathExists then return tree.add place (.file (← IO.FS.readBinFile p))
    else return tree
  catch _ => return tree

/-- Adds the directories, source files and known files below a directory. -/
partial def addBelow (tree : FileTree) (dir : Place) : IO FileTree := do
  let mut tree := tree
  for entry in ← ((← IO.currentDir) / diskPath dir).readDir do
    let place := dir ++ [entry.fileName]
    if ← entry.path.isDir then
      tree ← addBelow (tree.add place .directory) place
    else if isSourcePlace [] [entry.fileName] || knownNames.contains entry.fileName then
      tree ← addPlace tree place
  return tree

/-- Adds what an argument points to, the directories on the way, and the known files around it. -/
def addArgument (current : Place) (tree : FileTree) (arg : String) : IO FileTree := do
  let p := Path.ofString arg
  let place := p.resolve current
  let mut tree := tree
  for n in List.range (p.parts.length + 1) do
    tree ← addPlace tree (Path.resolve current { p with parts := p.parts.take n })
  if tree.isDirectory place then tree ← addBelow tree place
  for dir in Workspace.enclosing place do
    for name in knownNames do
      tree ← addPlace tree (dir ++ [name])
  return tree

/-- Adds the files that a project file extends, directly and through others that are not among those
seen so far. -/
partial def addExtended [Platform] (seen : List Place) (tree : FileTree) (place : Place) :
    IO FileTree := do
  match Workspace.readProjectFile ⟨tree, []⟩ seen.length place with
  | .error _ => return tree
  | .ok file =>
    match file.target with
    | none => return tree
    | some target =>
      let tree ← addPlace tree target
      if tree.isFile target && !(place :: seen).contains target then
        addExtended (place :: seen) tree target
      else return tree

/-- The part of the disk that a request can see. -/
def ofRequest [Platform] (request : Request) : IO Workspace := do
  let current := Path.components (← IO.currentDir).toString
  match request with
  | .run i =>
    let mut tree : FileTree := ({} : FileTree).add current .directory
    for arg in i.paths ++ i.config.toList do
      tree ← addArgument current tree arg
    for (place, _) in tree.entries do
      if projectFileNames.contains (place.getLast?.getD "") then
        tree ← addExtended [] tree place
    return ⟨tree, current⟩
  | _ => return ⟨{}, current⟩

/-- Writes the files that differ between two trees. -/
def writeChanges (before after : FileTree) : IO Unit := do
  for (place, content) in after.changedSince before do
    IO.FS.writeBinFile (diskPath place) content

end Snapshot

end ImportOrder

open ImportOrder in
/-- Runs the program. -/
def main (args : List String) : IO UInt32 := do
  let _ : Platform := .usual
  let request := Request.ofArguments args
  let workspace ← Snapshot.ofRequest request
  let answer := workspace.answer request
  match answer with
  | .usage true => IO.println usageText
  | .usage false => IO.eprintln usageText
  | .version => IO.println Answer.versionLine
  | .ran _ shown after =>
    for line in shown do
      IO.eprintln line
    Snapshot.writeChanges workspace.tree after.tree
  | .brokeDown cause shown after =>
    for line in shown do
      IO.eprintln line
    Snapshot.writeChanges workspace.tree after.tree
    IO.eprintln cause.message
  return answer.exitCode.toUInt32
