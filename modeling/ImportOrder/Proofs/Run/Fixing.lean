import ImportOrder.Proofs.Files.Revision
import ImportOrder.Proofs.Format.Pass

/-!
# Fixing files

A file that is fixed gets the text that formatting gave. After that, formatting it gives nothing
new, by whatever path the file is named; other files are formatted as before.

## Main definitions

* `Workspace.IsFixed`: a workspace after some files were fixed
* `Workspace.IsApart`: a file at another place than those with a new text

## Main results

* `Workspace.isRevision_writeSource`: fixing a file revises the workspace
* `Workspace.formatFile_again`: a fixed file is in order
* `Workspace.IsFixed.step`: fixing one more file
-/

namespace ImportOrder

/-- The bytes of a text in a file. -/
def Text.bytes (t : Text) : ByteArray := (String.ofList t).toUTF8

theorem Text.fromUTF8?_bytes (t : Text) : String.fromUTF8? t.bytes = some (String.ofList t) := by
  unfold String.fromUTF8? Text.bytes String.toUTF8
  rw [dif_pos (String.ofList t).isValidUTF8]
  rfl

namespace FileTree

variable {t : FileTree} {place : Place} {content : ByteArray}

theorem ne_nil_of_get?_file (h : t.get? place = some (.file content)) : place ≠ [] := by
  rintro rfl
  cases h

/-- Writing a file that exists adds no place. -/
theorem places_write (h : t.get? place = some (.file content)) (new : ByteArray) :
    (t.write place new).entries.map (·.1) = t.entries.map (·.1) := by
  have hplace := ne_nil_of_get?_file h
  have hany : t.entries.any (·.1 == place) = true := by
    rw [get?, if_neg hplace] at h
    obtain ⟨l₁, l₂, hentries, -⟩ := List.lookup_eq_some_iff.1 h
    rw [hentries]
    simp
  rw [write, set, if_pos hany, List.map_map]
  apply List.map_congr_left
  intro e he
  show (if (e.1 == place) = true then (place, _) else e).1 = e.1
  split
  · rename_i heq
    exact (eq_of_beq heq).symm
  · rfl

end FileTree

namespace Workspace

variable {w w' w'' : Workspace} {given : Option Layer} {file : Path} {place : Place} {text : Text}

/-! ## Formatting a file -/

/-- The project options of a source file. -/
def projectFor [Platform] (w : Workspace) (file : Path) : Journaled Failure (Option Project) :=
  match w.projectFile? file with
  | none => pure none
  | some p => do
    let project ← (w.readProject p.toString).mapError Failure.settings
    pure (some project)

theorem IsRevision.projectFor_eq [Platform] (h : w.IsRevision w') (file : Path) :
    w'.projectFor file = w.projectFor file := by
  unfold projectFor
  rw [h.projectFile?_eq]
  split
  · rfl
  · rename_i p hp
    rw [h.readProject_eq hp]

/-- The outcome of formatting a file: its text, its settings and its project are needed. -/
theorem formatFile_eq_ok_iff [Platform] {new : Option Text} :
    (w.formatFile file given).result = .ok new ↔ ∃ source settings project,
      w.readSource file = .ok source ∧ (w.fileSettings file given).result = .ok settings ∧
      (w.projectFor file).result = .ok project ∧
      (FormatContext.format { file := file.toString, settings, project } source).result =
        .ok new := by
  unfold formatFile projectFor
  cases w.projectFile? file with
  | none =>
    simp only [Journaled.bind_eq_ok_iff, Journaled.result_ofExcept, Journaled.result_mapError,
      mapError_eq_ok_iff, Journaled.result_pure]
    grind
  | some p =>
    simp only [Journaled.bind_eq_ok_iff, Journaled.result_ofExcept, Journaled.result_mapError,
      mapError_eq_ok_iff, Journaled.result_pure]
    grind

/-- A file that can be read stands at the place that its path leads to. -/
theorem exists_of_readSource {source : Text} (h : w.readSource file = .ok source) :
    ∃ place content s, w.locate file = .ok place ∧ w.tree.get? place = some (.file content) ∧
      String.fromUTF8? content = some s ∧ s.toList = source := by
  obtain ⟨⟨place, node⟩, hfind, h⟩ := Parser.ok_of_bind h
  obtain ⟨place', hplace, hfind⟩ := Parser.ok_of_bind hfind
  cases hnode : w.tree.get? place' with
  | none =>
    rw [hnode] at hfind
    cases hfind
  | some node' =>
    rw [hnode] at hfind
    obtain ⟨rfl, rfl⟩ := Prod.mk.inj (Except.ok.inj hfind)
    cases node' with
    | directory => cases h
    | file content =>
      dsimp only at h
      split at h
      · rename_i s hdecode
        exact ⟨place', content, s, hplace, hnode, hdecode, Except.ok.inj h⟩
      · cases h

/-- A file with a new text: what stands at its place. -/
theorem exists_of_formatFile [Platform] (h : (w.formatFile file given).result = .ok (some text)) :
    ∃ place content, w.locate file = .ok place ∧ w.tree.get? place = some (.file content) ∧
      content ≠ text.bytes ∧ HasImports content := by
  obtain ⟨source, settings, project, hread, -, -, hformat⟩ := formatFile_eq_ok_iff.1 h
  obtain ⟨place, content, s, hplace, hfile, hdecode, rfl⟩ := exists_of_readSource hread
  obtain ⟨honce, hne, -⟩ := FormatContext.format_eq_some hformat
  obtain ⟨d, head, region, -, -, -, hparse, hregion, -⟩ := FormatContext.formatOnce_eq_some honce
  refine ⟨place, content, hplace, hfile, ?_, s, d, head, hdecode, hparse, ?_⟩
  · rintro rfl
    rw [Text.fromUTF8?_bytes] at hdecode
    obtain rfl := Option.some.inj hdecode
    exact hne (String.toList_ofList).symm
  · intro hnil
    rw [Head.region_eq_none hnil] at hregion
    cases hregion

/-- A file with a new text is a source file. -/
theorem exists_dialect_of_formatFile [Platform] (hfile : file.IsNormal)
    (h : (w.formatFile file given).result = .ok (some text)) :
    ∃ d, Dialect.ofPath? file = some d := by
  obtain ⟨source, settings, project, -, -, -, hformat⟩ := formatFile_eq_ok_iff.1 h
  obtain ⟨honce, -⟩ := FormatContext.format_eq_some hformat
  obtain ⟨d, -, -, -, -, hd, -⟩ := FormatContext.formatOnce_eq_some honce
  refine ⟨d, ?_⟩
  rw [← hd]
  exact congrArg Dialect.ofPath? (Path.ofString_toString hfile).symm

/-! ## Writing a file -/

/-- The workspace after a file was handled by a run that writes. -/
theorem snd_processFile [Platform] (w : Workspace) (file : Path) (given : Option Layer) :
    (w.processFile true file given).2 = match (w.formatFile file given).result with
      | .ok (some text) => w.writeSource file text
      | _ => w := by
  unfold processFile
  dsimp only
  split <;> rename_i hresult <;> rw [hresult]
  rfl

theorem writeSource_of_locate (h : w.locate file = .ok place) (text : Text) :
    w.writeSource file text = { w with tree := w.tree.write place text.bytes } := by
  rw [writeSource, h]
  rfl

/-- **Fixing a file revises the workspace.** -/
theorem isRevision_writeSource [Platform] (hfile : file.IsNormal)
    (h : (w.formatFile file given).result = .ok (some text)) :
    w.IsRevision (w.writeSource file text) := by
  obtain ⟨place, content, hplace, hget, -, himports⟩ := exists_of_formatFile h
  obtain ⟨d, hd⟩ := exists_dialect_of_formatFile hfile h
  obtain ⟨name, hlast, hdots, hname⟩ := Dialect.exists_name hd
  rw [writeSource_of_locate hplace]
  refine ⟨rfl, FileTree.places_write hget _, ?_⟩
  intro q
  by_cases hq : q = place
  · subst hq
    right
    refine ⟨content, text.bytes, hget, ?_, himports, ?_⟩
    · exact FileTree.get?_write_self _ _ (FileTree.ne_nil_of_get?_file hget)
    · intro name' hlast'
      rw [getLast?_of_locate hplace hlast hdots] at hlast'
      obtain rfl := Option.some.inj hlast'
      exact hname
  · exact .inl (FileTree.get?_write_of_ne _ _ hq)

theorem IsRevision.refl (w : Workspace) : w.IsRevision w := ⟨rfl, rfl, fun _ => .inl rfl⟩

theorem IsRevision.trans (h : w.IsRevision w') (h' : w'.IsRevision w'') : w.IsRevision w'' := by
  refine ⟨h'.current.trans h.current, h'.places.trans h.places, ?_⟩
  intro place
  rcases h.node place with hsame | ⟨content, content', hget, hget', himports, hname⟩
  · rw [← hsame]
    exact h'.node place
  · right
    rcases h'.node place with hsame | ⟨-, content'', -, hget'', -⟩
    · exact ⟨content, content', hget, hsame.trans hget', himports, hname⟩
    · exact ⟨content, content'', hget, hget'', himports, hname⟩

/-! ## Files named by different paths -/

/-- Settings and project options depend on the place of a file only. -/
theorem settings_congr [Platform] {file' : Path} (given : Option Layer)
    (h : w.resolve file = w.resolve file') :
    w.fileSettings file given = w.fileSettings file' given ∧
      w.projectFor file = w.projectFor file' := by
  have hdirs : w.directoriesOf file = w.directoriesOf file' := by
    rw [directoriesOf, h, directoriesOf]
  constructor
  · unfold fileSettings settingsFor settingsFiles lintRulesFor
    rw [hdirs]
  · unfold projectFor projectFile?
    rw [hdirs]

/-- A place has one language. -/
theorem dialect_congr {file' : Path} {d d' : Dialect} (hplace : w.locate file = .ok place)
    (hplace' : w.locate file' = .ok place) (h : Dialect.ofPath? file = some d)
    (h' : Dialect.ofPath? file' = some d') : d = d' := by
  obtain ⟨name, hlast, hdots, -⟩ := Dialect.exists_name h
  obtain ⟨name', hlast', hdots', -⟩ := Dialect.exists_name h'
  have hname : name = name' := by
    have hsame := getLast?_of_locate hplace hlast hdots
    rw [getLast?_of_locate hplace' hlast' hdots'] at hsame
    exact (Option.some.inj hsame).symm
  rw [Dialect.ofPath?, Path.suffix, Path.name, hlast, hname] at h
  rw [Dialect.ofPath?, Path.suffix, Path.name, hlast'] at h'
  exact Option.some.inj (h.symm.trans h')

/-- Under another path, a source file is formatted in the same way or not at all. -/
theorem format_rename [Platform] {file' : Path} {d : Dialect} (hfile : file.IsNormal)
    (hfile' : file'.IsNormal)
    (hplace : w.locate file = .ok place) (hplace' : w.locate file' = .ok place)
    (hd : Dialect.ofPath? file = some d) (settings : Settings) (project : Option Project) :
    (∀ source, (FormatContext.format { file := file'.toString, settings, project } source).result =
      .ok none) ∨
    ∀ source, (FormatContext.format { file := file'.toString, settings, project } source).result =
      (FormatContext.format { file := file.toString, settings, project } source).result := by
  have hname : ∀ {p : Path}, p.IsNormal →
      Dialect.ofPath? (Path.ofString p.toString) = Dialect.ofPath? p :=
    fun hp => congrArg Dialect.ofPath? (Path.ofString_toString hp)
  cases hd' : Dialect.ofPath? file' with
  | none =>
    left
    intro source
    apply FormatContext.result_format_of_none
    exact (hname hfile').trans hd'
  | some d' =>
    right
    intro source
    obtain rfl := dialect_congr hplace hplace' hd hd'
    apply FormatContext.result_format_withFile (c := { file := file.toString, settings, project })
    exact ((hname hfile').trans hd').trans ((hname hfile).trans hd).symm

/-- **A fixed file is in order**, by whatever path it is named. -/
theorem formatFile_again [Platform] {file' : Path} (hcurrent : ".." ∉ w.current)
    (hfile : file.IsNormal)
    (hfile' : file'.IsNormal) (h : w.IsRevision w') (hplace : w.locate file = .ok place)
    (hplace' : w.locate file' = .ok place)
    (hnew : (w.formatFile file given).result = .ok (some text))
    (hfixed : w'.tree.get? place = some (.file text.bytes)) :
    (w'.formatFile file' given).result = .ok none ∧
      ((w.formatFile file' given).result = .ok none ∨
        (w.formatFile file' given).result = .ok (some text)) := by
  obtain ⟨source, settings, project, hread, hsettings, hproject, hformat⟩ :=
    formatFile_eq_ok_iff.1 hnew
  have hread' : w.readSource file' = .ok source := by
    obtain ⟨place', content, s, hlocate, hget, hdecode, rfl⟩ := exists_of_readSource hread
    obtain rfl := Except.ok.inj (hplace.symm.trans hlocate)
    exact readSource_of_get? hplace' hget hdecode
  have hagain : w'.readSource file' = .ok text := by
    have hlocate := (h.locate_eq file').trans hplace'
    rw [readSource_of_get? hlocate hfixed (Text.fromUTF8?_bytes text), String.toList_ofList]
  -- the two paths have the same settings and the same project
  have hresolve : w.resolve file = w.resolve file' :=
    (resolve_of_locate hcurrent hplace).trans (resolve_of_locate hcurrent hplace').symm
  obtain ⟨hsame, hsame'⟩ := settings_congr given hresolve
  rw [hsame] at hsettings
  rw [hsame'] at hproject
  have hsettings' := (congrArg Journaled.result (h.fileSettings_eq file' given)).trans hsettings
  have hproject' := (congrArg Journaled.result (h.projectFor_eq file')).trans hproject
  obtain ⟨d, hd⟩ := exists_dialect_of_formatFile hfile hnew
  have hstable := FormatContext.format_of_format hformat
  rcases format_rename hfile hfile' hplace hplace' hd settings project with hnone | hrename
  · exact ⟨formatFile_eq_ok_iff.2 ⟨text, settings, project, hagain, hsettings', hproject',
      hnone text⟩, .inl (formatFile_eq_ok_iff.2 ⟨source, settings, project, hread', hsettings,
      hproject, hnone source⟩)⟩
  · exact ⟨formatFile_eq_ok_iff.2 ⟨text, settings, project, hagain, hsettings', hproject',
      (hrename text).trans hstable⟩, .inr (formatFile_eq_ok_iff.2 ⟨source, settings, project,
      hread', hsettings, hproject, (hrename source).trans hformat⟩)⟩

/-! ## Fixing files one after another -/

/-- **A workspace after some files were fixed**: those with a new text have it, and nothing else
changed. -/
structure IsFixed [Platform] (w : Workspace) (given : Option Layer) (done : List Path)
    (w' : Workspace) : Prop where
  revision : w.IsRevision w'
  written (file : Path) (hfile : file ∈ done) (text : Text) (place : Place)
    (hnew : (w.formatFile file given).result = .ok (some text))
    (hplace : w.locate file = .ok place) :
    w'.tree.get? place = some (.file text.bytes)
  kept (place : Place) (hplace : ∀ file ∈ done, ∀ text,
    (w.formatFile file given).result = .ok (some text) → w.locate file ≠ .ok place) :
    w'.tree.get? place = w.tree.get? place

/-- A file stands at another place than those with a new text. -/
def IsApart [Platform] (w : Workspace) (given : Option Layer) (done : List Path) (file : Path) :
    Prop :=
  ∀ f ∈ done, ∀ new, (w.formatFile f given).result = .ok (some new) →
    ∀ place, w.locate f = .ok place → w.locate file ≠ .ok place

namespace IsFixed

variable {done : List Path}

theorem nil [Platform] (w : Workspace) (given : Option Layer) : w.IsFixed given [] w where
  revision := .refl w
  written _ hfile := by cases hfile
  kept _ _ := rfl

theorem get?_of_isApart [Platform] (h : w.IsFixed given done w')
    (hapart : w.IsApart given done file)
    (hplace : w.locate file = .ok place) : w'.tree.get? place = w.tree.get? place := by
  apply h.kept
  intro f hf new hnew hplace'
  exact hapart f hf new hnew place hplace' hplace

/-- **The outcome of a file** after others were fixed: it is the same as before, or the file was
fixed under another path and is in order now. -/
theorem outcome [Platform] (h : w.IsFixed given done w') (hcurrent : ".." ∉ w.current)
    (hdone : ∀ f ∈ done, f.IsNormal) (hfile : file.IsNormal) :
    (w'.formatFile file given = w.formatFile file given ∧ w.IsApart given done file) ∨
    ∃ f ∈ done, ∃ new place, (w.formatFile f given).result = .ok (some new) ∧
      w.locate f = .ok place ∧ w.locate file = .ok place ∧
      (w'.formatFile file given).result = .ok none ∧
      ((w.formatFile file given).result = .ok none ∨
        (w.formatFile file given).result = .ok (some new)) := by
  by_cases hother : ∃ f ∈ done, ∃ new place, (w.formatFile f given).result = .ok (some new) ∧
      w.locate f = .ok place ∧ w.locate file = .ok place
  · obtain ⟨f, hf, new, place, hnew, hplace, hplace'⟩ := hother
    obtain ⟨hagain, hbefore⟩ := formatFile_again hcurrent (hdone f hf) hfile h.revision hplace
      hplace' hnew (h.written f hf new place hnew hplace)
    exact .inr ⟨f, hf, new, place, hnew, hplace, hplace', hagain, hbefore⟩
  · left
    have hapart : w.IsApart given done file :=
      fun f hf new hnew place hplace hplace' => hother ⟨f, hf, new, place, hnew, hplace, hplace'⟩
    refine ⟨?_, hapart⟩
    apply h.revision.formatFile_eq
    apply h.revision.readSource_eq
    intro place hplace
    exact h.get?_of_isApart hapart hplace

/-- **The outcome of a file that was handled**: a failure stays, and anything else is in order. -/
theorem formatFile_of_mem [Platform] (h : w.IsFixed given done w') (hcurrent : ".." ∉ w.current)
    (hdone : ∀ f ∈ done, f.IsNormal) (hfile : file ∈ done) :
    (w'.formatFile file given).result = (w.formatFile file given).result.map fun _ => none := by
  rcases h.outcome hcurrent hdone (hdone file hfile) with ⟨hsame, hapart⟩ | ⟨f, hf, new, place, -,
    -, -, hagain, hbefore⟩
  · cases hresult : (w.formatFile file given).result with
    | error e =>
      rw [hsame, hresult]
      rfl
    | ok new =>
      cases new with
      | none =>
        rw [hsame, hresult]
        rfl
      | some text =>
        obtain ⟨place, -, hplace, -⟩ := exists_of_formatFile hresult
        exact absurd hplace (hapart file hfile text hresult place hplace)
  · rw [hagain]
    rcases hbefore with hbefore | hbefore <;> rw [hbefore] <;> rfl

/-- A file that ends in a failure stays as it is. -/
theorem get?_of_error [Platform] {e : Failure} (h : w.IsFixed given done w')
    (hcurrent : ".." ∉ w.current) (hdone : ∀ f ∈ done, f.IsNormal) (hfile : file.IsNormal)
    (herror : (w.formatFile file given).result = .error e) (hplace : w.locate file = .ok place) :
    w'.tree.get? place = w.tree.get? place := by
  rcases h.outcome hcurrent hdone hfile with ⟨-, hapart⟩ | ⟨f, hf, new, place, -, -, -, -, hbefore⟩
  · exact h.get?_of_isApart hapart hplace
  · rw [herror] at hbefore
    rcases hbefore with hbefore | hbefore <;> cases hbefore

/-- A file that need not be written is fixed already. -/
theorem concat [Platform] (h : w.IsFixed given done w') (hfile : ∀ text place,
    (w.formatFile file given).result = .ok (some text) → w.locate file = .ok place →
      w'.tree.get? place = some (.file text.bytes)) : w.IsFixed given (done ++ [file]) w' where
  revision := h.revision
  written f hf text place hnew hplace := by
    rcases List.mem_append.1 hf with hf | hf
    · exact h.written f hf text place hnew hplace
    · obtain rfl := List.mem_singleton.1 hf
      exact hfile text place hnew hplace
  kept place hplace := h.kept place fun f hf => hplace f (List.mem_append_left _ hf)

/-- A file that is written is fixed. -/
theorem concat_written [Platform] (h : w.IsFixed given done w') (hfile : file.IsNormal)
    (hsame : w'.formatFile file given = w.formatFile file given)
    (hapart : w.IsApart given done file)
    (hnew : (w.formatFile file given).result = .ok (some text)) :
    w.IsFixed given (done ++ [file]) (w'.writeSource file text) := by
  obtain ⟨place, content, hplace, hget, -⟩ := exists_of_formatFile hnew
  have hplace' : w'.locate file = .ok place := (h.revision.locate_eq file).trans hplace
  have hrevision : w'.IsRevision (w'.writeSource file text) :=
    isRevision_writeSource hfile (by rw [hsame]; exact hnew)
  have hne : place ≠ [] := FileTree.ne_nil_of_get?_file hget
  refine ⟨h.revision.trans hrevision, ?_, ?_⟩
  · intro f hf new place₁ hnew₁ hplace₁
    rw [writeSource_of_locate hplace']
    by_cases hsame₁ : place₁ = place
    · subst hsame₁
      rcases List.mem_append.1 hf with hf | hf
      · exact absurd hplace (hapart f hf new hnew₁ place₁ hplace₁)
      · obtain rfl := List.mem_singleton.1 hf
        obtain rfl := Option.some.inj (Except.ok.inj (hnew.symm.trans hnew₁))
        exact FileTree.get?_write_self _ _ hne
    · rcases List.mem_append.1 hf with hf | hf
      · rw [FileTree.get?_write_of_ne _ _ hsame₁]
        exact h.written f hf new place₁ hnew₁ hplace₁
      · obtain rfl := List.mem_singleton.1 hf
        exact absurd (Except.ok.inj (hplace₁.symm.trans hplace)) hsame₁
  · intro place₁ hplace₁
    have hne₁ : place₁ ≠ place := by
      rintro rfl
      exact hplace₁ file (List.mem_append_right _ List.mem_cons_self) text hnew hplace
    rw [writeSource_of_locate hplace', FileTree.get?_write_of_ne _ _ hne₁]
    exact h.kept place₁ fun f hf => hplace₁ f (List.mem_append_left _ hf)

/-- **Fixing one more file.** -/
theorem step [Platform] (h : w.IsFixed given done w') (hcurrent : ".." ∉ w.current)
    (hdone : ∀ f ∈ done, f.IsNormal) (hfile : file.IsNormal) :
    w.IsFixed given (done ++ [file]) (w'.processFile true file given).2 := by
  rw [snd_processFile]
  rcases h.outcome hcurrent hdone hfile with ⟨hsame, hapart⟩ | ⟨f, hf, new, place, hnew, hplace,
    hplace', hagain, hbefore⟩
  · rw [hsame]
    split
    · rename_i text hnew
      exact h.concat_written hfile hsame hapart hnew
    · rename_i hnone
      apply h.concat
      intro text place hnew
      exact absurd hnew (hnone text)
  · -- nothing is written: the file has its new text already
    rw [hagain]
    apply h.concat
    intro text place₁ hnew₁ hplace₁
    obtain rfl := Except.ok.inj (hplace'.symm.trans hplace₁)
    rcases hbefore with hbefore | hbefore
    · cases hbefore.symm.trans hnew₁
    · obtain rfl := Option.some.inj (Except.ok.inj (hbefore.symm.trans hnew₁))
      exact h.written f hf new place hnew hplace

end IsFixed

end Workspace

end ImportOrder
