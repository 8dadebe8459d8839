import ImportOrder.Command.Run
import ImportOrder.Proofs.Files.DataText
import ImportOrder.Proofs.Files.Paths
import ImportOrder.Proofs.Files.ProjectChain
import Mathlib.Data.List.Induction

/-!
# Workspaces with other source texts

Nothing but the texts of source files changes when files are fixed. Everything that is looked up in
a workspace besides those texts stays the same: which files there are, the settings, the linter's
rules and the project options, since the files that hold them are no source files.

## Main definitions

* `HasImports`: the content of a file that has imports
* `Workspace.IsRevision`: a workspace with other texts in files that have imports

## Main results

* `IsRevision.fileSettings_eq`, `IsRevision.readProject_eq`: settings and project options stay
* `IsRevision.collectFiles_eq`: the files of a run stay
* `IsRevision.formatFile_eq`: so does the outcome of formatting a file with the same text
-/

namespace ImportOrder

/-- **A content with imports.** -/
def HasImports (content : ByteArray) : Prop :=
  ∃ (s : String) (d : Dialect) (head : Head), String.fromUTF8? content = some s ∧
    Head.parse s.toList d = .ok head ∧ head.imports ≠ []

/-- **A workspace with other source texts**: the same places, and other contents only in files that
have imports and whose names are not those of files that hold data. -/
structure Workspace.IsRevision (w w' : Workspace) : Prop where
  current : w'.current = w.current
  places : w'.tree.entries.map (·.1) = w.tree.entries.map (·.1)
  node (place : Place) : w'.tree.get? place = w.tree.get? place ∨
    ∃ content content', w.tree.get? place = some (.file content) ∧
      w'.tree.get? place = some (.file content') ∧ HasImports content ∧
      ∀ name ∈ place.getLast?, ¬IsDataName name

theorem IsDataName.ne_dots {name : String} (h : IsDataName name) : name ≠ ".." := by
  rintro rfl
  obtain ⟨e, he, hsuffix⟩ := h
  have hlength := hsuffix.length_le
  simp only [dataEndings, List.mem_cons, List.not_mem_nil, or_false] at he
  rcases he with rfl | rfl | rfl | rfl <;> revert hlength <;> decide

theorem isDataName_of_mem_settings :
    ∀ name ∈ [settingsFileName, packageFileName], IsDataName name := by
  decide

theorem isDataName_of_mem_lint : ∀ f ∈ lintFiles, IsDataName f.1 := by
  decide

theorem isDataName_of_mem_project : ∀ name ∈ projectFileNames, IsDataName name := by
  decide

theorem Workspace.exists_of_mem_filesNamed {w : Workspace} {names : List String}
    {dirs : List Place} {p : Path} (h : p ∈ w.filesNamed names dirs) :
    ∃ dir, ∃ name ∈ names, p = Path.ofAbsolute (dir ++ [name]) := by
  obtain ⟨dir, -, hp⟩ := List.mem_flatMap.1 h
  obtain ⟨place, hplace, rfl⟩ := List.mem_map.1 hp
  obtain ⟨name, hname, rfl⟩ := List.mem_map.1 (List.mem_filter.1 hplace).1
  exact ⟨dir, name, hname, rfl⟩

theorem getLast?_of_name {p : Path} {name : String} (h : p.name = name) (hne : name ≠ "") :
    p.parts.getLast? = some name := by
  rw [Path.name] at h
  cases hlast : p.parts.getLast? with
  | none =>
    rw [hlast] at h
    exact absurd h.symm hne
  | some last =>
    rw [hlast] at h
    exact congrArg some h

/-- The text of a file at the place that a path leads to. -/
theorem Workspace.readSource_of_get? {w : Workspace} {p : Path} {place : Place}
    {content : ByteArray} {s : String} (hplace : w.locate p = .ok place)
    (hfile : w.tree.get? place = some (.file content))
    (hdecode : String.fromUTF8? content = some s) :
    w.readSource p = .ok s.toList := by
  unfold readSource find
  simp only [hplace, bind, Except.bind, hfile, hdecode, pure, Except.pure]

/-- A settings file that can be read is a package file, or its text is a document with a map. -/
theorem Workspace.document_of_readLayer [Platform] {w : Workspace} {strict : Bool} {p : Path}
    {layer : Option Layer} (h : (w.readLayer strict p).result = .ok layer) :
    p.name = packageFileName ∨ ∃ source es, w.readSource p = .ok source ∧
      Json5.parse (Platform.jsonDepth 0) (source.withEol .lf) = .ok (.map es) := by
  obtain ⟨data, hdata, h⟩ := Journaled.ok_of_bind h
  by_cases hname : p.name = packageFileName
  · exact .inl hname
  right
  rw [settingsData?, if_neg hname] at h
  obtain ⟨es, rfl⟩ : ∃ es, data = .map es := by
    obtain ⟨layer', hlayer, -⟩ := Journaled.ok_of_bind h
    cases data with
    | map es => exact ⟨es, rfl⟩
    | _ => cases hlayer
  obtain ⟨source, hsource, hparse⟩ := Parser.ok_of_bind hdata
  refine ⟨source, es, mapError_eq_ok_iff.1 hsource, ?_⟩
  cases hjson : DataFormat.json.parse 0 (source.withEol .lf) with
  | ok data =>
    rw [hjson] at hparse
    exact hjson.trans (congrArg Except.ok (Except.ok.inj hparse))
  | error e =>
    rw [hjson] at hparse
    cases e <;> cases hparse

/-! ## What project files extend -/

/-- A character whose last byte is an ASCII character has no other bytes. -/
theorem utf8EncodeChar_of_getLast? {c : Char} {b : UInt8} (hb : b < 128)
    (h : (String.utf8EncodeChar c).getLast? = some b) : String.utf8EncodeChar c = [b] := by
  have hlast : ∀ n, UInt8.ofNat (n % 64 + 128) ≠ b := by
    rintro n rfl
    rw [UInt8.lt_iff_toNat_lt, UInt8.toNat_ofNat'] at hb
    have hbound : (128 : UInt8).toNat = 128 := rfl
    omega
  unfold String.utf8EncodeChar at h ⊢
  dsimp only at h ⊢
  split at h
  · rw [if_pos ‹_›]
    exact congrArg (· :: []) (Option.some.inj h)
  · split at h
    · exact absurd (Option.some.inj h) (hlast _)
    · split at h
      · exact absurd (Option.some.inj h) (hlast _)
      · exact absurd (Option.some.inj h) (hlast _)

/-- A text whose bytes end in those of ASCII characters ends in these. -/
theorem suffix_of_flatMap_utf8EncodeChar {cs ending : Text} {bs : List UInt8}
    (hascii : ∀ c ∈ ending, c.utf8Size = 1)
    (h : cs.flatMap String.utf8EncodeChar = bs ++ ending.flatMap String.utf8EncodeChar) :
    ending <:+ cs := by
  induction ending using List.reverseRecOn generalizing cs with
  | nil => exact List.nil_suffix
  | append_singleton ending e ih =>
    have hsize := hascii e (List.mem_append_right _ List.mem_cons_self)
    have hencode := String.utf8EncodeChar_eq_singleton hsize
    rw [List.flatMap_append, List.flatMap_singleton, hencode, ← List.append_assoc] at h
    rcases List.eq_nil_or_concat cs with rfl | ⟨front, c, rfl⟩
    · simp at h
    rw [List.concat_eq_append] at h ⊢
    rw [List.flatMap_append, List.flatMap_singleton] at h
    have hc : String.utf8EncodeChar c = [e.val.toUInt8] := by
      apply utf8EncodeChar_of_getLast?
      · have hle := UInt32.le_iff_toNat_le.1 (Char.utf8Size_eq_one_iff.1 hsize)
        have hbound : (127 : UInt32).toNat = 127 ∧ (128 : UInt8).toNat = 128 := ⟨rfl, rfl⟩
        rw [UInt8.lt_iff_toNat_lt, UInt32.toNat_toUInt8]
        omega
      · rw [← List.getLast?_append_of_ne_nil _ String.utf8EncodeChar_ne_nil, h,
          List.getLast?_concat]
    have hce : e = c := by
      have hsame : [e].utf8Encode ++ ByteArray.empty = [c].utf8Encode := by
        rw [List.utf8Encode_singleton, List.utf8Encode_singleton, hc, hencode,
          ByteArray.append_empty]
      simpa using List.isPrefix_of_utf8Encode_append_eq_utf8Encode _ hsame
    rw [hc] at h
    obtain ⟨before, hbefore⟩ := ih (fun x hx => hascii x (List.mem_append_left _ hx))
      (List.append_cancel_right h)
    exact ⟨before, by rw [← hbefore, hce, List.append_assoc]⟩

/-- A name with the ending of data files is that of a file that holds data. -/
theorem Workspace.isDataName_of_suffix {t : WideText} {name : String} (h : dataEnding <:+ t)
    (hname : fileName? t = some name) : IsDataName name := by
  obtain ⟨front, rfl⟩ := h
  have hall : ".json".toList.all (·.utf8Size == 1) = true := rfl
  have hascii : ∀ c ∈ ".json".toList, c.utf8Size = 1 := fun c hc =>
    eq_of_beq (List.all_eq_true.1 hall c hc)
  refine ⟨".json", List.mem_cons_self,
    @suffix_of_flatMap_utf8EncodeChar _ _ (nameBytes front) hascii ?_⟩
  have hbytes : name.toByteArray = (nameBytes (front ++ dataEnding)).toByteArray := by
    unfold fileName? String.fromUTF8? at hname
    split at hname
    · exact congrArg String.toByteArray (Option.some.inj hname).symm
    · cases hname
  rw [← String.utf8Encode_toList, List.utf8Encode, List.toByteArray_inj, nameBytes,
    List.flatMap_append] at hbytes
  exact hbytes

/-- Names with the ending of data files lead to a file that holds data. -/
theorem Workspace.exists_name_of_withDataEnding {names ended : List WideText} {target : Place}
    (h : withDataEnding names = .ok ended) (htarget : ended.mapM fileName? = some target) :
    ∃ name, target.getLast? = some name ∧ IsDataName name := by
  obtain ⟨front, last, rfl, hsuffix⟩ : ∃ front last, ended = front ++ [last] ∧
      dataEnding <:+ last := by
    unfold withDataEnding at h
    split at h
    · cases h
    · rename_i name hlast
      split at h
      · rename_i hended
        obtain rfl := Except.ok.inj h
        obtain ⟨front, rfl⟩ := List.getLast?_eq_some_iff.1 hlast
        exact ⟨front, name, rfl, List.isSuffixOf_iff_suffix.1 hended.2⟩
      · exact ⟨_, _, (Except.ok.inj h).symm, List.suffix_append _ _⟩
  rw [List.mapM_append] at htarget
  obtain ⟨places, -, htarget⟩ := Option.bind_eq_some_iff.1 htarget
  obtain ⟨ends, hends, htarget⟩ := Option.bind_eq_some_iff.1 htarget
  obtain rfl := Option.some.inj htarget
  obtain ⟨name, hname, hends⟩ := Option.bind_eq_some_iff.1 hends
  obtain rfl := Option.some.inj hends
  exact ⟨name, List.getLast?_concat, isDataName_of_suffix hsuffix hname⟩

/-- What a project file extends is a file that holds data. -/
theorem Workspace.exists_name_of_target [Platform] {w : Workspace} {before : Nat}
    {place target : Place} {file : ProjectFile} (h : w.readProjectFile before place = .ok file)
    (htarget : file.target = some target) :
    ∃ name, target.getLast? = some name ∧ IsDataName name := by
  obtain ⟨entries, -, hof, -⟩ := readProjectFile_eq_ok h
  rw [htarget] at hof
  unfold targetOf at hof
  split at hof
  · cases hof
  · obtain ⟨ended, hended, hof⟩ := Option.bind_eq_some_iff.1 (linked?_of_extendedFile hof)
    exact exists_name_of_withDataEnding (Except.eq_ok_of_toOption hended) hof

theorem Workspace.meetsLongName_congr [Platform] {t t' : FileTree}
    (h : t'.isDirectory = t.isDirectory) (here : Place) (names : List WideText) :
    meetsLongName t' here names = meetsLongName t here names := by
  induction names generalizing here with
  | nil => rfl
  | cons name names ih => simp only [meetsLongName, h, ih]

theorem Workspace.targetOf_congr [Platform] {t t' : FileTree}
    (h : t'.isDirectory = t.isDirectory) (place : Place) (data : Data) :
    targetOf t' place data = targetOf t place data := by
  have hlong : isTooLong t' = isTooLong t := by
    funext names
    rw [isTooLong, meetsLongName_congr h, isTooLong]
  unfold targetOf extendedFile
  rw [hlong]

theorem Workspace.projectFileOf_congr [Platform] {t t' : FileTree}
    (h : t'.isDirectory = t.isDirectory) (place : Place) :
    projectFileOf t' place = projectFileOf t place := by
  funext data
  unfold projectFileOf
  simp only [targetOf_congr h]

namespace Workspace.IsRevision

variable {w w' : Workspace} (h : w.IsRevision w')

include h

/-! ## Files -/

theorem tree_isFile_eq : w'.tree.isFile = w.tree.isFile := by
  funext place
  unfold FileTree.isFile
  rcases h.node place with hsame | ⟨content, content', hfile, hfile', -⟩
  · rw [hsame]
  · rw [hfile, hfile']

theorem tree_isDirectory_eq : w'.tree.isDirectory = w.tree.isDirectory := by
  funext place
  unfold FileTree.isDirectory
  rcases h.node place with hsame | ⟨content, content', hfile, hfile', -⟩
  · rw [hsame]
  · rw [hfile, hfile']

theorem walk_eq (here : Place) (parts : List String) :
    walk w'.tree here parts = walk w.tree here parts := by
  induction parts generalizing here with
  | nil => rfl
  | cons c parts ih =>
    rw [walk, walk]
    rcases h.node here with hsame | ⟨content, content', hfile, hfile', -⟩
    · rw [hsame]
      simp only [ih]
    · rw [hfile, hfile']

theorem locate_eq (p : Path) : w'.locate p = w.locate p := by
  rw [locate, locate, h.walk_eq, h.current]

theorem resolve_eq (p : Path) : w'.resolve p = w.resolve p := by
  rw [resolve, resolve, h.current]

theorem isFile_eq (p : Path) : w'.isFile p = w.isFile p := by
  unfold isFile find
  rw [h.locate_eq]
  cases w.locate p with
  | error e => rfl
  | ok place =>
    simp only [bind, Except.bind]
    rcases h.node place with hsame | ⟨content, content', hfile, hfile', -⟩
    · rw [hsame]
    · rw [hfile, hfile']
      rfl

theorem below_eq (dir : Place) : w'.tree.below dir = w.tree.below dir := by
  have hmap : ∀ t : FileTree, t.below dir = (t.entries.map (·.1)).filterMap fun place =>
      if dir.isPrefixOf place && dir.length < place.length then some (place.drop dir.length)
      else none := by
    intro t
    rw [List.filterMap_map]
    rfl
  rw [hmap, hmap, h.places]

theorem sourceFiles_eq (root : Path) (exclude : List WideText) :
    w'.sourceFiles root exclude = w.sourceFiles root exclude := by
  unfold sourceFiles find
  rw [h.locate_eq]
  cases w.locate root with
  | error e => rfl
  | ok place =>
    simp only [bind, Except.bind, h.below_eq, h.tree_isFile_eq]
    rcases h.node place with hsame | ⟨content, content', hfile, hfile', -⟩
    · rw [hsame]
    · rw [hfile, hfile']
      rfl

/-- A file whose content stays is read as before. -/
theorem readSource_eq {p : Path}
    (hp : ∀ place, w.locate p = .ok place → w'.tree.get? place = w.tree.get? place) :
    w'.readSource p = w.readSource p := by
  unfold readSource find
  rw [h.locate_eq]
  cases hplace : w.locate p with
  | error e => rfl
  | ok place =>
    have hsame := hp place hplace
    simp only [bind, Except.bind, hsame]

/-! ## Data -/

theorem get?_of_isDataName {place : Place} {name : String} (hlast : place.getLast? = some name)
    (hname : IsDataName name) : w'.tree.get? place = w.tree.get? place := by
  rcases h.node place with hsame | ⟨content, content', -, -, -, hsource⟩
  · exact hsame
  · exact absurd hname (hsource name hlast)

/-- Files that hold data are read as before. -/
theorem readData_eq [Platform] (format : DataFormat) {p : Path} {name : String}
    (hlast : p.parts.getLast? = some name) (hname : IsDataName name) (before : Nat) :
    w'.readData format p before = w.readData format p before := by
  have hread : w'.readSource p = w.readSource p := by
    apply h.readSource_eq
    intro place hplace
    apply h.get?_of_isDataName _ hname
    exact getLast?_of_locate hplace hlast hname.ne_dots
  rw [readData, readWith, hread, readData, readWith]

/-! ## Settings -/

theorem filesNamed_eq (names : List String) (dirs : List Place) :
    w'.filesNamed names dirs = w.filesNamed names dirs := by
  rw [filesNamed, h.tree_isFile_eq, filesNamed]

theorem directoriesOf_eq (file : Path) : w'.directoriesOf file = w.directoriesOf file := by
  rw [directoriesOf, h.resolve_eq, directoriesOf]

theorem readLayer_eq [Platform] (strict : Bool) {p : Path} {name : String}
    (hlast : p.parts.getLast? = some name) (hname : IsDataName name) :
    w'.readLayer strict p = w.readLayer strict p := by
  rw [readLayer, readJson, h.readData_eq .json hlast hname 0, readLayer, readJson]

theorem readLayers_eq [Platform] {ps : List Path}
    (hps : ∀ p ∈ ps, ∃ name, p.parts.getLast? = some name ∧ IsDataName name) :
    w'.readLayers ps = w.readLayers ps := by
  induction ps with
  | nil => rfl
  | cons p ps ih =>
    obtain ⟨name, hlast, hname⟩ := hps p List.mem_cons_self
    rw [readLayers, h.readLayer_eq false hlast hname,
      ih fun q hq => hps q (List.mem_cons_of_mem p hq), readLayers]

theorem settingsFor_eq [Platform] (file : Path) (root : Option Path) (extra : List Layer) :
    w'.settingsFor file root extra = w.settingsFor file root extra := by
  have hfiles : w'.settingsFiles file root = w.settingsFiles file root := by
    have hroot : root.map w'.resolve = root.map w.resolve := by
      cases root with
      | none => rfl
      | some root => exact congrArg some (h.resolve_eq root)
    rw [settingsFiles, h.filesNamed_eq, h.directoriesOf_eq, hroot, settingsFiles]
  have hlayers : w'.readLayers (w.settingsFiles file root).reverse =
      w.readLayers (w.settingsFiles file root).reverse := by
    apply h.readLayers_eq
    intro p hp
    obtain ⟨dir, name, hname, rfl⟩ := exists_of_mem_filesNamed (List.mem_reverse.1 hp)
    exact ⟨name, List.getLast?_concat, isDataName_of_mem_settings name hname⟩
  rw [settingsFor, hfiles, hlayers, settingsFor]

/-! ## Rules of the linter -/

theorem readFirst_eq [Platform] {p : Path} {name : String} (hlast : p.parts.getLast? = some name)
    (hname : IsDataName name) (formats : List DataFormat) :
    w'.readFirst p formats = w.readFirst p formats := by
  fun_induction readFirst w p formats with
  | case1 => rfl
  | case2 format => rw [readFirst, h.readData_eq format hlast hname]
  | case3 format more hmore data hdata =>
    rw [readFirst, h.readData_eq format hlast hname 0, hdata]
    exact hmore
  | case4 format more hmore cause hcause =>
    rw [readFirst, h.readData_eq format hlast hname 0, hcause]
    exact hmore
  | case5 format more hmore e hcause he ih =>
    rw [readFirst, h.readData_eq format hlast hname 0, he]
    · cases e with
      | broken cause => exact absurd rfl (hcause cause)
      | _ => exact ih
    · exact hmore

theorem lintData_eq [Platform] (dir : Place) : w'.lintData dir = w.lintData dir := by
  unfold lintData
  rw [h.tree_isFile_eq]
  split
  · rename_i name formats hfind
    have hname : IsDataName name := isDataName_of_mem_lint _ (List.mem_of_find?_eq_some hfind)
    dsimp only
    rw [h.readFirst_eq (p := Path.ofAbsolute (dir ++ [name])) List.getLast?_concat hname]
  · have hname : IsDataName packageFileName := by decide
    rw [readJson, readJson, h.readData_eq .json (p := Path.ofAbsolute (dir ++ [packageFileName]))
      List.getLast?_concat hname 0]

theorem collectRules_eq [Platform] (dirs : List Place) :
    w'.collectRules dirs = w.collectRules dirs := by
  induction dirs with
  | nil => rfl
  | cons dir dirs ih => rw [collectRules, h.lintData_eq, ih, collectRules]

/-- The settings of a source file stay the same. -/
theorem fileSettings_eq [Platform] (file : Path) (given : Option Layer) :
    w'.fileSettings file given = w.fileSettings file given := by
  have hrules : w'.lintRulesFor file = w.lintRulesFor file := by
    rw [lintRulesFor, h.directoriesOf_eq, h.collectRules_eq, lintRulesFor]
  rw [fileSettings, h.settingsFor_eq, hrules, fileSettings]

/-! ## Project options -/

theorem projectFile?_eq (file : Path) : w'.projectFile? file = w.projectFile? file := by
  rw [projectFile?, h.filesNamed_eq, h.directoriesOf_eq, projectFile?]

theorem compilerOptions_eq [Platform] (seen : List Place) {place : Place} {name : String}
    (hlast : place.getLast? = some name) (hname : IsDataName name) :
    w'.compilerOptions seen place = w.compilerOptions seen place := by
  -- the name is generalized: the chain goes on at a file with another one
  induction seen, place using compilerOptions.induct w generalizing name with
  | case1 seen place ih =>
    have hread : w'.readJson (Path.ofAbsolute place) seen.length =
        w.readJson (Path.ofAbsolute place) seen.length :=
      h.readData_eq .json (p := Path.ofAbsolute place) hlast hname _
    have hfile' : w'.readProjectFile seen.length place = w.readProjectFile seen.length place := by
      rw [readProjectFile, hread, projectFileOf_congr h.tree_isDirectory_eq, readProjectFile]
    cases hfile : w.readProjectFile seen.length place with
    | error e =>
      rw [hfile] at hfile'
      rw [compilerOptions_of_error hfile, compilerOptions_of_error hfile']
    | ok file =>
      rw [hfile] at hfile'
      cases htarget : file.target.filter w.tree.isFile with
      | none =>
        have htarget' : file.target.filter w'.tree.isFile = none := by
          rw [h.tree_isFile_eq, htarget]
        rw [compilerOptions_of_last hfile htarget, compilerOptions_of_last hfile' htarget']
      | some target =>
        have htarget' : file.target.filter w'.tree.isFile = some target := by
          rw [h.tree_isFile_eq, htarget]
        by_cases hmet : target ∈ place :: seen
        · rw [compilerOptions_of_met hfile htarget hmet,
            compilerOptions_of_met hfile' htarget' hmet]
        · obtain ⟨name', hlast', hname'⟩ :=
            exists_name_of_target hfile (Option.filter_eq_some_iff.1 htarget).1
          rw [compilerOptions_of_unmet hfile htarget hmet,
            compilerOptions_of_unmet hfile' htarget' hmet,
            ih file target htarget hmet hlast' hname']

/-- The options of the project of a source file stay the same. -/
theorem readProject_eq [Platform] {file p : Path} (hp : w.projectFile? file = some p) :
    w'.readProject p.toString = w.readProject p.toString := by
  obtain ⟨dir, name, hname, rfl⟩ := exists_of_mem_filesNamed (List.mem_of_mem_head? hp)
  have hplain : ∀ name ∈ projectFileNames, name ≠ "" ∧ name ≠ "." ∧ '/' ∉ name.toList := by
    decide
  have hlast : (w.resolve (Path.ofString (Path.ofAbsolute (dir ++ [name])).toString)).getLast? =
      some name := by
    obtain ⟨hempty, hdot, hslash⟩ := hplain name hname
    apply Path.getLast?_resolve (Path.getLast?_ofString_absolute hempty hdot hslash)
    exact (isDataName_of_mem_project name hname).ne_dots
  rw [readProject, h.resolve_eq,
    h.compilerOptions_eq _ hlast (isDataName_of_mem_project name hname), readProject]

/-! ## Runs -/

/-- Settings given for a run stay the same if they could be read. -/
theorem givenLayer_eq [Platform] {config : Option String} {given : Option Layer}
    (hgiven : (w.givenLayer config).result = .ok given) :
    w'.givenLayer config = w.givenLayer config := by
  cases config with
  | none => rfl
  | some file =>
    obtain ⟨layer, hlayer, -⟩ := Journaled.ok_of_bind hgiven
    have hread : w'.readSource (Path.ofString file) = w.readSource (Path.ofString file) := by
      apply h.readSource_eq
      intro place hplace
      rcases h.node place with hsame | ⟨content, content', hfile, -, himports, hsource⟩
      · exact hsame
      rcases document_of_readLayer hlayer with hname | ⟨source, es, hread, hjson⟩
      · have hlast : (Path.ofString file).parts.getLast? = some packageFileName :=
          getLast?_of_name hname (by decide)
        have hdata := isDataName_of_mem_settings packageFileName (by simp)
        exact absurd hdata (hsource _ (getLast?_of_locate hplace hlast hdata.ne_dots))
      · obtain ⟨s, d, head, hdecode, hparse, hne⟩ := himports
        rw [readSource_of_get? hplace hfile hdecode] at hread
        obtain rfl := Except.ok.inj hread
        exact absurd (Json5.imports_eq_nil_of_parse hjson hparse) hne
    rw [givenLayer, readLayer, readJson, readData, readWith, hread, givenLayer, readLayer, readJson,
      readData, readWith]

/-- The files of a run stay the same. -/
theorem collectFiles_eq [Platform] (given : Option Layer) (paths : List String) :
    w'.collectFiles given paths = w.collectFiles given paths := by
  induction paths with
  | nil => rfl
  | cons s paths ih =>
    simp only [collectFiles, h.isFile_eq, h.settingsFor_eq, h.sourceFiles_eq, ih]

/-- **A file with the same text** is formatted as before. -/
theorem formatFile_eq [Platform] {file : Path} (given : Option Layer)
    (hread : w'.readSource file = w.readSource file) :
    w'.formatFile file given = w.formatFile file given := by
  unfold formatFile
  rw [hread, h.fileSettings_eq, h.projectFile?_eq]
  apply bind_congr
  intro source
  apply bind_congr
  intro settings
  split
  · rfl
  · rename_i p hp
    rw [h.readProject_eq hp]

end Workspace.IsRevision

end ImportOrder
