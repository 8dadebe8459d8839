import ImportOrder.Project.Basic
import ImportOrder.Settings.Discovery
import ImportOrder.Text.Lowercase

/-!
# Finding project options

The nearest project file around a source file gives its project options. A project file may extend
another one by a relative path; its own options win. Files that are read one on account of another
have to be few enough, and names of files short enough.

## Main definitions

* `Workspace.projectFile?`: the project file of a source file
* `Workspace.extendedFile`: the place that a project file extends
* `Workspace.readProjectFile`: what one project file holds
* `Workspace.compilerOptions`: the options of a project file and those it extends
* `Workspace.readProject`: the project options of a project file

## Main results

* `FileTree.unmet_lt`: each file that is met leaves fewer of them
-/

namespace ImportOrder

namespace FileTree

/-- The number of entries that have not been met. -/
def unmet (t : FileTree) (seen : List Place) : Nat := t.entries.countP fun e => e.1 ∉ seen

theorem exists_mem_of_isFile {t : FileTree} {place : Place} (h : t.isFile place = true) :
    ∃ content, (place, .file content) ∈ t.entries := by
  unfold isFile get? at h
  split at h
  · rename_i content hget
    split at hget
    · cases hget
    · obtain ⟨before, after, hentries, -⟩ := List.lookup_eq_some_iff.1 hget
      exact ⟨content, hentries ▸ List.mem_append_right before List.mem_cons_self⟩
  · cases h

/-- **Each file that is met leaves fewer of them.** -/
theorem unmet_lt {t : FileTree} {seen : List Place} {place : Place} (hfile : t.isFile place = true)
    (hmet : place ∉ seen) : t.unmet (place :: seen) < t.unmet seen := by
  have hle : ∀ es : List (Place × FileNode),
      es.countP (fun e => e.1 ∉ place :: seen) ≤ es.countP (fun e => e.1 ∉ seen) := by
    intro es
    apply List.countP_mono_left
    intro e _ he
    simp only [List.mem_cons, not_or, decide_eq_true_eq] at he ⊢
    exact he.2
  obtain ⟨content, hmem⟩ := exists_mem_of_isFile hfile
  obtain ⟨before, after, hentries⟩ := List.append_of_mem hmem
  have hbefore := hle before
  have hafter := hle after
  have hold : decide (place ∉ place :: seen) = false := by simp
  have hnew : decide (place ∉ seen) = true := decide_eq_true hmet
  simp only [unmet, hentries, List.countP_append, List.countP_cons, hold, hnew, if_true,
    Bool.false_eq_true, if_false]
  omega

end FileTree

/-- The names of project files, in the order in which they are looked for. -/
def projectFileNames : List String := ["tsconfig.json", "jsconfig.json"]

namespace Workspace

/-- The project file of a source file: the nearest one. -/
def projectFile? (w : Workspace) (file : Path) : Option Path :=
  (w.filesNamed projectFileNames (w.directoriesOf file)).head?

/-- The relative path that a project file extends. -/
def extendedPath? (data : Data) : Option WideText := do
  let text ← (← data.field? "extends").text?
  if text.head? = some (.char '.') then some text else none

/-- Why the file system refuses a name, if it does. Of the halves it takes only those that stand for
undecodable bytes, and one character ends names. -/
def nameFault? (name : WideText) : Option Breakdown :=
  let isByte (c : CodePoint) : Bool := 0xdc80 ≤ c.toNat && c.toNat ≤ 0xdcff
  if name.any fun c => c.char?.isNone && !isByte c then some .badFileName
  else if name.contains (.char '\x00') then some .endedFileName
  else none

/-- The ending of data files. -/
def dataEnding : WideText := ".json"

/-- Names with the ending of data files on the last one, if it does not have it behind a name of its
own. The root directory has no name. -/
def withDataEnding (names : List WideText) : Except Breakdown (List WideText) :=
  match names.getLast? with
  | none => .error .missingFileName
  | some name =>
    if dataEnding.length < name.length ∧ dataEnding.isSuffixOf name then .ok names
    else .ok (names.dropLast ++ [name ++ dataEnding])

/-- The names of a relative path. -/
def relativeNames (relative : WideText) : List WideText :=
  (Text.splitAt (.char '/') relative).filter fun name => name ≠ [] ∧ name ≠ [.char '.']

/-- The names from the root directory to where names lead from the directory of a file. -/
def namesFrom (place : Place) (names : List WideText) : List WideText :=
  Path.withoutUps (WideText.ofString "..") (place.dropLast.map WideText.ofString ++ names)

/-- The bytes of a name. A half stands for the byte in its last eight bits. -/
def nameBytes (name : WideText) : List UInt8 :=
  name.flatMap fun
    | .char c => String.utf8EncodeChar c
    | .half unit => [unit.val.toUInt8]

/-- The file name with the bytes of a name, if there can be a file. -/
def fileName? (name : WideText) : Option String := String.fromUTF8? (nameBytes name).toByteArray

/-- The number of bytes in the path with the given names, each behind a slash. -/
def pathLength (names : List WideText) : Nat :=
  names.foldl (fun n name => n + (nameBytes name).length + 1) 0

/-- Whether a name that is too long is asked for on the way along names. Only what stands in a
directory is asked for. -/
def meetsLongName [Platform] (t : FileTree) : Place → List WideText → Bool
  | _, [] => false
  | here, name :: names =>
    t.isDirectory here &&
      (Platform.nameLimit < (nameBytes name).length ||
        (fileName? name).any fun s => meetsLongName t (here ++ [s]) names)

/-- Whether the file system takes a path as too long. -/
def isTooLong [Platform] (t : FileTree) (names : List WideText) : Bool :=
  Platform.pathLimit < pathLength names || meetsLongName t [] names

/-- The place that a project file extends by a relative path. Every name on the way is asked for, so
that the first one that is refused decides, also if it is taken back later. -/
def extendedFile [Platform] (t : FileTree) (place : Place) (relative : WideText) :
    Except Breakdown (Option Place) := do
  let names := relativeNames relative
  match names.findSome? nameFault? with
  | some fault => throw fault
  | none =>
    let names ← withDataEnding (namesFrom place names)
    if isTooLong t names then throw .longFileName
    return names.mapM fileName?

/-- The options in the data of a project file. -/
def ownOptions (data : Data) : List (Scalar × Data) :=
  ((data.field? "compilerOptions").bind Data.entries?).getD []

/-- The place that a project file with some data extends. -/
def targetOf [Platform] (t : FileTree) (place : Place) (data : Data) :
    Except Breakdown (Option Place) :=
  match extendedPath? data with
  | none => .ok none
  | some relative => extendedFile t place relative

end Workspace

/-- **What a project file holds**: its own options, the relative path that it extends, and the place
where this leads, if there can be a file. -/
structure ProjectFile where
  options : List (Scalar × Data)
  relative : Option WideText
  target : Option Place

namespace Workspace

/-- What a project file with some data holds. -/
def projectFileOf [Platform] (t : FileTree) (place : Place) :
    Data → Except SettingsError ProjectFile
  | .map entries => do
    let data := Data.map entries
    let target ← (targetOf t place data).mapError .broken
    return { options := ownOptions data, relative := extendedPath? data, target }
  | _ => .error (.projectNotObject (Path.ofAbsolute place).toString)

/-- What the project file at a place holds, if it is read on account of so many others. -/
def readProjectFile [Platform] (w : Workspace) (before : Nat) (place : Place) :
    Except SettingsError ProjectFile :=
  if Platform.chainLimit ≤ before then .error (.broken .tooDeep)
  else w.readJson (.ofAbsolute place) before >>= projectFileOf w.tree place

/-- The remark on a project file that extends a file that is not there. -/
def remarkMissing (place : Place) (file : ProjectFile) : Journaled SettingsError Unit :=
  let p := Path.ofAbsolute place
  file.relative.forM fun relative =>
    Journaled.debug s!"{p.toString}: extended config {relative.quoted} not found"

/-- The options of a project file, on top of those that it extends. No file may be met twice on the
way; `seen` are those met so far. -/
def compilerOptions [Platform] (w : Workspace) (seen : List Place) (place : Place) :
    Journaled SettingsError (List (Scalar × Data)) := do
  let file ← Journaled.ofExcept (w.readProjectFile seen.length place)
  match _ : file.target.filter w.tree.isFile with
  | some target =>
    if _ : target ∈ place :: seen then
      Journaled.fail (.circularExtends (Path.ofAbsolute target).toString)
    else
      let base ← w.compilerOptions (place :: seen) target
      return Data.updateKeys base file.options
  | none =>
    remarkMissing place file
    return Data.updateKeys [] file.options
termination_by w.tree.unmet (place :: seen)
decreasing_by
  rename_i htarget hmet
  exact FileTree.unmet_lt (Option.filter_eq_some_iff.1 htarget).2 hmet

section

variable [Platform] {w : Workspace} {seen : List Place} {place target : Place}
  {file : ProjectFile}

theorem compilerOptions_of_error {e : SettingsError}
    (h : w.readProjectFile seen.length place = .error e) :
    w.compilerOptions seen place = Journaled.fail e := by
  rw [compilerOptions, h]
  rfl

theorem compilerOptions_of_last (h : w.readProjectFile seen.length place = .ok file)
    (htarget : file.target.filter w.tree.isFile = none) :
    w.compilerOptions seen place =
      (do remarkMissing place file; return Data.updateKeys [] file.options) := by
  rw [compilerOptions, h, Journaled.ofExcept_ok_bind]
  split
  · rename_i hsome
    cases htarget.symm.trans hsome
  · rfl

theorem compilerOptions_of_met (h : w.readProjectFile seen.length place = .ok file)
    (htarget : file.target.filter w.tree.isFile = some target) (hmet : target ∈ place :: seen) :
    w.compilerOptions seen place =
      Journaled.fail (.circularExtends (Path.ofAbsolute target).toString) := by
  rw [compilerOptions, h, Journaled.ofExcept_ok_bind]
  split
  · rename_i hsome
    obtain rfl := Option.some.inj (htarget.symm.trans hsome)
    rw [dif_pos hmet]
  · rename_i hnone
    cases htarget.symm.trans hnone

theorem compilerOptions_of_unmet (h : w.readProjectFile seen.length place = .ok file)
    (htarget : file.target.filter w.tree.isFile = some target) (hmet : target ∉ place :: seen) :
    w.compilerOptions seen place =
      (do
        let base ← w.compilerOptions (place :: seen) target
        return Data.updateKeys base file.options) := by
  rw [compilerOptions, h, Journaled.ofExcept_ok_bind]
  split
  · rename_i hsome
    obtain rfl := Option.some.inj (htarget.symm.trans hsome)
    rw [dif_neg hmet]
  · rename_i hnone
    cases htarget.symm.trans hnone

end

/-- The targets of an entry of the table of aliases. -/
def aliasTargets : Data → List Data
  | .list items => items
  | d => [d]

/-- The entries of the table of aliases; none if it counts as absent. The path is that of the
project file, as it is given. -/
def aliasTable (file : String) : Data → Except SettingsError (List (Scalar × Data))
  | .map entries => .ok entries
  | d => if d.isEmptyValue then .ok [] else .error (.pathsNotObject file)

/-- The project that the options of a project file describe. -/
def projectOf (file : String) (options : List (Scalar × Data)) : Except SettingsError Project :=
  (aliasTable file ((Data.lookup? options "paths").getD .null)).map fun entries => {
    paths := entries.filterMap fun e => match e.1 with
      | .str key => some (key, aliasTargets e.2)
      | _ => none
    baseUrl := Data.lookup? options "baseUrl"
    moduleResolution := ((Data.lookup? options "moduleResolution").bind Data.text?).map fun t =>
      String.ofList (Text.lower t.chars) }

/-- The project options of a project file. -/
def readProject [Platform] (w : Workspace) (file : String) : Journaled SettingsError Project := do
  let options ← w.compilerOptions [] (w.resolve (Path.ofString file))
  Journaled.ofExcept (projectOf file options)

end Workspace

end ImportOrder
