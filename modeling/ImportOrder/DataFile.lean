import ImportOrder.FileTree
import ImportOrder.Json5.Reader
import ImportOrder.Text.LineBreak
import ImportOrder.Yaml.Reader

/-!
# Data files

Files that hold data, in JSON with comments or in YAML. Line endings do not matter in them.

## Main definitions

* `DataFormat`: the formats
* `Workspace.readData`: the data of a file
-/

namespace ImportOrder

/-- **The format of a data file.** -/
inductive DataFormat where
  | json
  | yaml
deriving Repr, DecidableEq, Inhabited

namespace DataFormat

/-- Reads the data of a text, on account of so many project files. -/
def parse [Platform] (format : DataFormat) (before : Nat) (t : Text) : Except Rejection Data :=
  match format with
  | json => Json5.parse (Platform.jsonDepth before) t
  | yaml => Yaml.parse t

/-- The fault of a text that is not well-formed. -/
def fault : DataFormat → ReadFault
  | json => .malformedJson
  | yaml => .malformedYaml

end DataFormat

namespace Workspace

/-- The data of a file, given how its text is read and the fault of one that is not well-formed. -/
def readWith (w : Workspace) (parse : Text → Except Rejection Data) (fault : ReadFault) (p : Path) :
    Except SettingsError Data := do
  let source ← (w.readSource p).mapError (.unreadableFile p.toString)
  match parse (source.withEol .lf) with
  | .ok data => return data
  | .error .malformed => throw (.unreadableFile p.toString fault)
  | .error (.broken cause) => throw (.broken cause)

/-- The data of a file that is read on account of so many project files. -/
def readData [Platform] (w : Workspace) (format : DataFormat) (p : Path) (before : Nat := 0) :
    Except SettingsError Data :=
  w.readWith (format.parse before) format.fault p

/-- The data of a file in JSON. -/
def readJson [Platform] (w : Workspace) (p : Path) (before : Nat := 0) :
    Except SettingsError Data :=
  w.readData .json p before

end Workspace

end ImportOrder
