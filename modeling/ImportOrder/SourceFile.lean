import ImportOrder.Format
import ImportOrder.Glob
import ImportOrder.Lint.Discovery
import ImportOrder.Project.Discovery

/-!
# Source files

Source files are found by the endings of their names, below a directory, and formatted with the
settings and the project that apply to them.

## Main definitions

* `Workspace.sourceFiles`: the source files below a directory
* `Workspace.formatFile`: the new text of a source file
* `Workspace.processFile`: formatting a source file in place
-/

namespace ImportOrder

/-- The name of directories whose files belong to others. -/
def dependenciesName : String := "node_modules"

/-- Whether a place below a directory is that of a source file to format: its name has the ending of
one, no directory on the way holds dependencies, and no pattern leaves it out. -/
def isSourcePlace (exclude : List (List Glob.Piece)) (place : Place) : Bool :=
  (Dialect.ofPath? ⟨false, place⟩).isSome && !place.contains dependenciesName &&
    !exclude.any fun g => Glob.covers g (Path.toString ⟨false, place⟩).toList

/-- Whether a place comes no later than another, component by component. -/
def placeLe (a b : Place) : Bool := !decide (b < a)

namespace Workspace

/-- The source files below a directory, in order; none if there is no such directory. -/
def sourceFiles (w : Workspace) (root : Path) (exclude : List WideText) : List Path :=
  let globs := exclude.map Glob.parse
  match w.find root with
  | .ok (dir, .directory) =>
    let places := (w.tree.below dir).filter fun place =>
      w.tree.isFile (dir ++ place) && isSourcePlace globs place
    (inOrder placeLe places).map fun place => { root with parts := root.parts ++ place }
  | _ => []

/-- The new text of a source file; nothing if it stays as it is. -/
def formatFile [Platform] (w : Workspace) (file : Path) (given : Option Layer) :
    Journaled Failure (Option Text) := do
  let source ← Journaled.ofExcept ((w.readSource file).mapError Failure.source)
  let settings ← (w.fileSettings file given).mapError Failure.settings
  let project ← match w.projectFile? file with
    | none => pure none
    | some p => do
      let project ← (w.readProject p.toString).mapError Failure.settings
      pure (some project)
  FormatContext.format { file := file.toString, settings, project } source

/-- Formats a source file and, if it `writes`, puts the new text in its place. Gives whether the
text is a new one, and the workspace after that. -/
def processFile [Platform] (w : Workspace) (writes : Bool) (file : Path) (given : Option Layer) :
    Journaled Failure Bool × Workspace :=
  let outcome := w.formatFile file given
  match outcome.result with
  | .error e => (⟨outcome.journal, .error e⟩, w)
  | .ok none => (⟨outcome.journal, .ok false⟩, w)
  | .ok (some text) =>
    (⟨outcome.journal, .ok true⟩, if writes then w.writeSource file text else w)

end Workspace

end ImportOrder
