import ImportOrder.DataFile
import ImportOrder.Settings.Reader

/-!
# Finding settings

The settings of a source file come from the settings files in the directories around it: nearer ones
are laid over those farther out. A package file may hold settings under a key of its own.

## Main definitions

* `Workspace.settingsFiles`: the settings files of a source file
* `Workspace.readLayer`: the layer of a settings file
* `Workspace.settingsFor`: the settings of a source file
-/

namespace ImportOrder

/-- The name of settings files. -/
def settingsFileName : String := "import-sorter.json"

/-- The name of package files. -/
def packageFileName : String := "package.json"

/-- The key of settings in package files. -/
def packageKey : String := "importSorter"

namespace Workspace

/-- Directories up to and including one of them; all if it is not among them. -/
def upTo (stop : Option Place) (dirs : List Place) : List Place :=
  match stop with
  | none => dirs
  | some stop => dirs.takeWhile (· ≠ stop) ++ (dirs.filter (· = stop)).take 1

/-- The files of given names in some directories, directory by directory. -/
def filesNamed (w : Workspace) (names : List String) (dirs : List Place) : List Path :=
  dirs.flatMap fun dir =>
    ((names.map fun name => dir ++ [name]).filter w.tree.isFile).map Path.ofAbsolute

/-- The settings files of a source file, the nearest first, up to a root directory if one is given.
In one directory the settings file comes before the package file. -/
def settingsFiles (w : Workspace) (file : Path) (root : Option Path) : List Path :=
  w.filesNamed [settingsFileName, packageFileName]
    (upTo (root.map w.resolve) (w.directoriesOf file))

/-- The settings in the data of a file: all of it, or what a package file has under their key. -/
def settingsData? (p : Path) (data : Data) : Option Data :=
  if p.name = packageFileName then (data.field? packageKey).filter fun d => !(d matches .null)
  else some data

/-- The layer of a settings file; nothing if a package file has no settings. -/
def readLayer [Platform] (w : Workspace) (strict : Bool) (p : Path) :
    Journaled SettingsError (Option Layer) := do
  let data ← Journaled.ofExcept (w.readJson p)
  match settingsData? p data with
  | none => return none
  | some settings => return some (← (Layer.read strict settings).mapError (.ofFile p.toString))

/-- The layers of settings files, in order. -/
def readLayers [Platform] (w : Workspace) : List Path → Journaled SettingsError (List Layer)
  | [] => pure []
  | p :: ps => do
    match ← w.readLayer false p with
    | none => w.readLayers ps
    | some layer =>
      Journaled.debug s!"Using config layer {p.toString}"
      return layer :: (← w.readLayers ps)

/-- The settings of a source file: the layers of its settings files, the outermost first, and more
layers on top. -/
def settingsFor [Platform] (w : Workspace) (file : Path) (root : Option Path) (extra : List Layer) :
    Journaled SettingsError Settings := do
  let layers ← w.readLayers (w.settingsFiles file root).reverse
  Journaled.ofExcept (Settings.resolve (layers ++ extra))

end Workspace

end ImportOrder
