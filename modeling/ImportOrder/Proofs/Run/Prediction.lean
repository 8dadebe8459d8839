import ImportOrder.Platform.Usual
import ImportOrder.Proofs.Arrangement.StableSort
import ImportOrder.Proofs.Run.Fixing
import ImportOrder.Proofs.Run.Reports

/-!
# A check foretells what fixing does

A check and a fixing run over the same files are followed side by side. The workspace of the second
one changes on the way, but a file is either formatted as before, or it was fixed under another path
and is in order. So both runs end with the same exit code, and the files that the check tells of are
those that get a new text. After that, another check only finds what fixing cannot mend.

## Main definitions

* `Workspace.HasFileNames`: a workspace with names that files can have
* `Report.Follows`: a fixing run that follows a check
* `Workspace.outOfOrder`: the files of a run that have a new text
* `Workspace.Foretold`: what a check foretells

## Main results

* `Report.Follows.step`, `Report.Follows.run`: both runs handle one more file, or more files
* `Workspace.foretold_of_check`: a check foretells what fixing does
-/

namespace ImportOrder

open Outcome

/-! ## The files of a run -/

/-- **A name that a file can have**: it is not empty, has no slash, and is not one of the two that
stand for directories. -/
def IsFileName (c : String) : Prop := c ≠ "" ∧ c ≠ "." ∧ c ≠ ".." ∧ '/' ∉ c.toList

instance (c : String) : Decidable (IsFileName c) := inferInstanceAs (Decidable (_ ∧ _))

namespace Workspace

variable {w w' : Workspace} {given : Option Layer} {config : Option String} {paths : List String}
  {files : List Path}

/-- **A workspace with names that files can have.** -/
def HasFileNames (w : Workspace) : Prop :=
  (∀ e ∈ w.tree.entries, ∀ c ∈ e.1, IsFileName c) ∧ ∀ c ∈ w.current, IsFileName c

instance (w : Workspace) : Decidable w.HasFileNames := inferInstanceAs (Decidable (_ ∧ _))

theorem HasFileNames.notMem_current (h : w.HasFileNames) : ".." ∉ w.current :=
  fun hmem => (h.2 ".." hmem).2.2.1 rfl

theorem isNormal_of_mem_sourceFiles (h : w.HasFileNames) {root p : Path} {exclude : List WideText}
    (hroot : root.IsNormal) (hp : p ∈ w.sourceFiles root exclude) : p.IsNormal := by
  unfold sourceFiles at hp
  dsimp only at hp
  split at hp
  · obtain ⟨place, hplace, rfl⟩ := List.mem_map.1 hp
    obtain ⟨hbelow, -⟩ := List.mem_filter.1 (mem_inOrder.1 hplace)
    obtain ⟨e, he, hsome⟩ := List.mem_filterMap.1 hbelow
    intro c hc
    rcases List.mem_append.1 hc with hc | hc
    · exact hroot c hc
    · split at hsome
      · obtain rfl := Option.some.inj hsome
        obtain ⟨hempty, hdot, -, hslash⟩ := h.1 e he c (List.mem_of_mem_drop hc)
        exact ⟨hempty, hdot, hslash⟩
      · cases hsome
  · cases hp

/-- The files of a run have normal paths. -/
theorem isNormal_of_collectFiles [Platform] (h : w.HasFileNames)
    (hfiles : (w.collectFiles given paths).result = .ok files) : ∀ p ∈ files, p.IsNormal := by
  induction paths generalizing files with
  | nil =>
    obtain rfl := Except.ok.inj hfiles
    intro p hp
    cases hp
  | cons s paths ih =>
    have hnormal := Path.isNormal_ofString s
    have hrest : ∀ {fs : List Path}, (∀ p ∈ fs, p.IsNormal) →
        (do return fs ++ (← w.collectFiles given paths) : Journaled SettingsError _).result =
          .ok files → ∀ p ∈ files, p.IsNormal := by
      intro fs hfs h p hp
      obtain ⟨rest, hcollect, h⟩ := Journaled.ok_of_bind h
      obtain rfl := Except.ok.inj h
      rcases List.mem_append.1 hp with hp | hp
      · exact hfs p hp
      · exact ih hcollect p hp
    rw [collectFiles] at hfiles
    dsimp only at hfiles
    split at hfiles
    · apply hrest _ hfiles
      intro p hp
      rw [List.mem_singleton.1 hp]
      exact hnormal
    · obtain ⟨settings, -, hfiles⟩ := Journaled.ok_of_bind hfiles
      apply hrest _ hfiles
      intro p hp
      exact isNormal_of_mem_sourceFiles h hnormal hp

theorem prepare_eq_ok_iff [Platform] : (w.prepare config paths).result = .ok (given, files) ↔
    (w.givenLayer config).result = .ok given ∧ (w.collectFiles given paths).result = .ok files := by
  simp only [prepare, Journaled.bind_eq_ok_iff, Journaled.result_pure, Except.ok.injEq,
    Prod.mk.injEq]
  constructor
  · rintro ⟨given', hgiven, files', hfiles, rfl, rfl⟩
    exact ⟨hgiven, hfiles⟩
  · rintro ⟨hgiven, hfiles⟩
    exact ⟨given, hgiven, files, hfiles, rfl, rfl⟩

/-- A run over a revised workspace has the same files. -/
theorem IsRevision.prepare_eq [Platform] (h : w.IsRevision w')
    (hprepare : (w.prepare config paths).result = .ok (given, files)) :
    (w'.prepare config paths).result = .ok (given, files) := by
  obtain ⟨hgiven, hfiles⟩ := prepare_eq_ok_iff.1 hprepare
  rw [prepare_eq_ok_iff, h.givenLayer_eq hgiven, h.collectFiles_eq]
  exact ⟨hgiven, hfiles⟩

end Workspace

/-! ## A check and a fixing run side by side -/

/-- Whether a remark tells of a failure. -/
def Entry.isFailure (e : Entry) : Bool := e.level = .error

/-- Whether a remark tells of files out of order. -/
def Entry.isNews (e : Entry) : Bool := e.level = .info

namespace Journaled

variable {ε α : Type} {x : Journaled ε α}

theorem IsQuiet.filter_isFailure (h : x.IsQuiet) : x.journal.filter Entry.isFailure = [] := by
  rw [List.filter_eq_nil_iff]
  intro e he hfailure
  rcases h e he with hlevel | hlevel <;> cases hlevel.symm.trans (of_decide_eq_true hfailure)

theorem IsQuiet.filter_isNews (h : x.IsQuiet) : x.journal.filter Entry.isNews = [] := by
  rw [List.filter_eq_nil_iff]
  intro e he hnews
  rcases h e he with hlevel | hlevel <;> cases hlevel.symm.trans (of_decide_eq_true hnews)

end Journaled

namespace Report

/-- **A fixing run follows a check**: both handled the same files, with the same failures and the
same exit code, and the files with a new text are fixed. -/
structure Follows [Platform] (w : Workspace) (given : Option Layer) (done : List Path)
    (check fix : Report) : Prop where
  workspace : check.workspace = w
  fixed : w.IsFixed given done fix.workspace
  breakdown_check : check.breakdown = none
  breakdown_fix : fix.breakdown = none
  exitCode : fix.exitCode = check.exitCode
  raised (file : Path) (hfile : file ∈ done) (text : Text)
    (hnew : (w.formatFile file given).result = .ok (some text)) : 1 ≤ check.exitCode
  failures : fix.journal.filter Entry.isFailure = check.journal.filter Entry.isFailure

namespace Follows

variable {w : Workspace} {given : Option Layer} {done files : List Path} {check fix : Report}
  {file : Path}

/-- The failures that a verdict tells of do not depend on what the run does. -/
theorem filter_verdict (file : Path) (x : Outcome) :
    [verdict .fix file x].filter Entry.isFailure =
      [verdict .check file x].filter Entry.isFailure := by
  cases x with
  | error e => cases e <;> rfl
  | ok new => cases new <;> rfl

/-- The outcome of one more file in both runs. -/
theorem outcome [Platform] (h : Follows w given done check fix) (hcurrent : ".." ∉ w.current)
    (hdone : ∀ f ∈ done, f.IsNormal) (hfile : file.IsNormal)
    (hreturns : Returns (w.formatFile file given).result) :
    Returns (fix.workspace.formatFile file given).result ∧
      max check.exitCode (severity (fix.workspace.formatFile file given).result) =
        max check.exitCode (severity (w.formatFile file given).result) ∧
      [verdict .fix file (fix.workspace.formatFile file given).result].filter Entry.isFailure =
        [verdict .check file (w.formatFile file given).result].filter Entry.isFailure := by
  rcases h.fixed.outcome hcurrent hdone hfile with ⟨hsame, -⟩ | ⟨f, hf, new, place, hnew, -, -,
    hagain, hbefore⟩
  · rw [hsame]
    exact ⟨hreturns, rfl, filter_verdict file _⟩
  · have hraised := h.raised f hf new hnew
    rw [hagain]
    refine ⟨fun e he => (nomatch he), ?_⟩
    rcases hbefore with hbefore | hbefore
    · rw [hbefore]
      exact ⟨rfl, rfl⟩
    · rw [hbefore]
      refine ⟨?_, rfl⟩
      show max check.exitCode 0 = max check.exitCode 1
      omega

/-- **Both runs handle one more file.** -/
theorem step [Platform] (h : Follows w given done check fix) (hcurrent : ".." ∉ w.current)
    (hdone : ∀ f ∈ done, f.IsNormal) (hfile : file.IsNormal)
    (hreturns : Returns (w.formatFile file given).result) :
    Follows w given (done ++ [file]) (check.handleFile .check given file)
      (fix.handleFile .fix given file) := by
  obtain ⟨hreturns', hexit, hfailures⟩ := h.outcome hcurrent hdone hfile hreturns
  have hcheck := @handleFile_eq .check given check file _ h.breakdown_check
    (by rw [h.workspace]; exact hreturns)
  rw [h.workspace, workspace_check] at hcheck
  rw [hcheck, handleFile_eq h.breakdown_fix hreturns']
  have hquiet : ∀ w' : Workspace,
      (w'.formatFile file given).journal.filter Entry.isFailure = [] :=
    fun w' => (w'.isQuiet_formatFile file given).filter_isFailure
  refine ⟨rfl, h.fixed.step hcurrent hdone hfile, rfl, rfl, ?_, ?_, ?_⟩
  · show max fix.exitCode _ = _
    rw [h.exitCode]
    exact hexit
  · intro f hf text hnew
    show 1 ≤ max check.exitCode _
    rcases List.mem_append.1 hf with hf | hf
    · exact Nat.le_trans (h.raised f hf text hnew) (Nat.le_max_left _ _)
    · obtain rfl := List.mem_singleton.1 hf
      rw [hnew]
      exact Nat.le_max_right _ _
  · simp only [List.filter_append, h.failures, hquiet, hfailures, List.nil_append]

/-- **Both runs handle more files.** -/
theorem run [Platform] (h : Follows w given done check fix) (hcurrent : ".." ∉ w.current)
    (hdone : ∀ f ∈ done, f.IsNormal) (hfiles : ∀ f ∈ files, f.IsNormal)
    (hreturns : ∀ f ∈ files, Returns (w.formatFile f given).result) :
    Follows w given (done ++ files) (check.handleAll .check given files)
      (fix.handleAll .fix given files) := by
  induction files generalizing done check fix with
  | nil =>
    rw [List.append_nil]
    exact h
  | cons file files ih =>
    rw [handleAll_cons h.breakdown_check, handleAll_cons h.breakdown_fix,
      show done ++ file :: files = done ++ [file] ++ files by simp]
    have hfile := hfiles file List.mem_cons_self
    apply ih (h.step hcurrent hdone hfile (hreturns file List.mem_cons_self))
    · intro f hf
      rcases List.mem_append.1 hf with hf | hf
      · exact hdone f hf
      · rw [List.mem_singleton.1 hf]
        exact hfile
    · exact fun f hf => hfiles f (List.mem_cons_of_mem file hf)
    · exact fun f hf => hreturns f (List.mem_cons_of_mem file hf)

/-- Both runs end. -/
theorem total [Platform] (h : Follows w given done check fix) :
    Follows w given done (check.total .check) (fix.total .fix) := by
  have hfailures : ∀ mode (r : Report), (r.total mode).journal.filter Entry.isFailure =
      r.journal.filter Entry.isFailure := by
    intro mode r
    rcases total_eq mode r with hr | ⟨text, hr⟩
    · rw [hr]
    · rw [hr]
      show List.filter _ (r.journal ++ [_]) = _
      rw [List.filter_append]
      exact List.append_nil _
  constructor
  · exact (workspace_total .check check).trans h.workspace
  · rw [workspace_total]
    exact h.fixed
  · exact (breakdown_total .check check).trans h.breakdown_check
  · exact (breakdown_total .fix fix).trans h.breakdown_fix
  · rw [exitCode_total, exitCode_total]
    exact h.exitCode
  · rw [exitCode_total]
    exact h.raised
  · rw [hfailures, hfailures]
    exact h.failures

end Follows

end Report

/-! ## What a check foretells -/

namespace Workspace

variable {w : Workspace} {config : Option String} {paths : List String}

/-- A file with its new text, if it has one. -/
def finding? [Platform] (w : Workspace) (given : Option Layer) (file : Path) :
    Option (Path × Text) :=
  match (w.formatFile file given).result with
  | .ok (some text) => some (file, text)
  | _ => none

/-- The files of a run that have a new text, with their texts, in the order in which they are
handled. -/
def outOfOrder [Platform] (w : Workspace) (config : Option String) (paths : List String) :
    List (Path × Text) :=
  match (w.prepare config paths).result with
  | .error _ => []
  | .ok (given, files) => files.filterMap (w.finding? given)

/-- What a check tells of a file with a new text. -/
def notice (found : Path × Text) : Entry :=
  ⟨.info, s!"[{found.1.toString}] imports would be reordered."⟩

/-- What a check tells of files with new texts: each of them, and how many there are. -/
def news (found : List (Path × Text)) : List Entry :=
  found.map notice ++
    if found.length = 0 then [] else [⟨.info, s!"Total files to update: {found.length}"⟩]

/-- **A check foretells what fixing does.** -/
structure Foretold [Platform] (w : Workspace) (config : Option String) (paths : List String) :
    Prop where
  /-- A check changes no file. -/
  untouched : (w.handleFiles .check config paths).workspace = w
  /-- It tells of the files that have a new text. -/
  told : (w.handleFiles .check config paths).journal.filter Entry.isNews =
    news (w.outOfOrder config paths)
  /-- Fixing returns too. -/
  returns : (w.handleFiles .fix config paths).breakdown = none
  /-- Fixing ends with the same exit code. -/
  exitCode : (w.handleFiles .fix config paths).exitCode =
    (w.handleFiles .check config paths).exitCode
  /-- It fails at the same files, and in the same way. -/
  failures : (w.handleFiles .fix config paths).journal.filter Entry.isFailure =
    (w.handleFiles .check config paths).journal.filter Entry.isFailure
  /-- The files that the check told of get their new texts, which differ from the old ones. -/
  written (file : Path) (text : Text) (hfound : (file, text) ∈ w.outOfOrder config paths) :
    ∃ place content, w.locate file = .ok place ∧ w.tree.get? place = some (.file content) ∧
      content ≠ text.bytes ∧
      (w.handleFiles .fix config paths).workspace.tree.get? place = some (.file text.bytes)
  /-- Nothing else changes. -/
  kept (place : Place)
    (hplace : ∀ entry ∈ w.outOfOrder config paths, w.locate entry.1 ≠ .ok place) :
    (w.handleFiles .fix config paths).workspace.tree.get? place = w.tree.get? place
  /-- A file that ends in a failure stays as it is. -/
  failed (given : Option Layer) (files : List Path)
    (hprepare : (w.prepare config paths).result = .ok (given, files)) (file : Path)
    (hfile : file ∈ files) (e : Failure) (hfailed : (w.formatFile file given).result = .error e)
    (place : Place) (hplace : w.locate file = .ok place) :
    (w.handleFiles .fix config paths).workspace.tree.get? place = w.tree.get? place
  /-- Another check returns. -/
  returnsAgain :
    ((w.handleFiles .fix config paths).workspace.handleFiles .check config paths).breakdown = none
  /-- It finds nothing but failures. -/
  exitCodeAgain :
    ((w.handleFiles .fix config paths).workspace.handleFiles .check config paths).exitCode =
      if (w.handleFiles .fix config paths).exitCode = 2 then 2 else 0

/-! ## Runs that cannot start -/

/-- A run without a breakdown that cannot start says why, whatever it was to do. -/
theorem handleFiles_of_error [Platform] {e : SettingsError}
    (h : (w.prepare config paths).result = .error e)
    (hreturns : (w.handleFiles .check config paths).breakdown = none) (mode : Mode) :
    w.handleFiles mode config paths =
      Report.failed { journal := (w.prepare config paths).journal, workspace := w }
        s!"Invalid configuration: {e.message}" := by
  unfold handleFiles at hreturns ⊢
  dsimp only at hreturns ⊢
  rw [h] at hreturns ⊢
  cases e with
  | broken cause => cases hreturns
  | _ => rfl

theorem foretold_of_error [Platform] {e : SettingsError}
    (h : (w.prepare config paths).result = .error e)
    (hreturns : (w.handleFiles .check config paths).breakdown = none) :
    w.Foretold config paths := by
  have hrun := handleFiles_of_error h hreturns
  have hfound : w.outOfOrder config paths = [] := by
    rw [outOfOrder, h]
  have hworkspace : ∀ mode, (w.handleFiles mode config paths).workspace = w := by
    intro mode
    rw [hrun]
    rfl
  refine ⟨hworkspace .check, ?_, ?_, ?_, ?_, ?_, ?_, ?_, ?_, ?_⟩
  · rw [hrun, hfound]
    show List.filter _ ((w.prepare config paths).journal ++ [_]) = []
    rw [List.filter_append, (w.isQuiet_prepare config paths).filter_isNews]
    rfl
  · rw [hrun]
    rfl
  · rw [hrun, hrun]
  · rw [hrun, hrun]
  · intro file text hmem
    rw [hfound] at hmem
    cases hmem
  · intro place _
    rw [hworkspace]
  · intro given files hok
    cases h.symm.trans hok
  · rw [hworkspace]
    exact hreturns
  · rw [hworkspace, hrun, hrun]
    rfl

/-! ## Runs over files -/

section Files

variable {given : Option Layer} {files : List Path}

/-- The report at the start of a run. -/
def opening [Platform] (w : Workspace) (config : Option String) (paths : List String) : Report :=
  { journal := (w.prepare config paths).journal, workspace := w }

theorem handleFiles_of_prepare [Platform] (h : (w.prepare config paths).result = .ok (given, files))
    (mode : Mode) : w.handleFiles mode config paths =
      ((w.opening config paths).handleAll mode given files).total mode := by
  unfold handleFiles
  dsimp only
  rw [h]
  rfl

theorem finding?_eq_some_iff [Platform] {file f : Path} {text : Text} :
    w.finding? given file = some (f, text) ↔
      file = f ∧ (w.formatFile file given).result = .ok (some text) := by
  unfold finding?
  split
  · rename_i new hnew
    rw [hnew]
    simp
  · rename_i hnone
    simpa using fun _ => hnone text

theorem mem_outOfOrder [Platform] (h : (w.prepare config paths).result = .ok (given, files))
    {file : Path} {text : Text} : (file, text) ∈ w.outOfOrder config paths ↔
      file ∈ files ∧ (w.formatFile file given).result = .ok (some text) := by
  rw [outOfOrder, h]
  simp only [List.mem_filterMap, finding?_eq_some_iff]
  constructor
  · rintro ⟨f, hf, rfl, hnew⟩
    exact ⟨hf, hnew⟩
  · rintro ⟨hf, hnew⟩
    exact ⟨file, hf, rfl, hnew⟩

/-- What a check tells of one file. -/
theorem filter_isNews_verdict [Platform] (w : Workspace) (given : Option Layer) (file : Path) :
    [verdict .check file (w.formatFile file given).result].filter Entry.isNews =
      ((w.finding? given file).map notice).toList := by
  unfold finding?
  cases (w.formatFile file given).result with
  | error e => cases e <;> rfl
  | ok new => cases new <;> rfl

theorem filter_isNews_verdicts [Platform] (w : Workspace) (given : Option Layer)
    (files : List Path) : (files.flatMap fun f => (w.formatFile f given).journal ++
      [verdict .check f (w.formatFile f given).result]).filter Entry.isNews =
      (files.filterMap (w.finding? given)).map notice := by
  induction files with
  | nil => rfl
  | cons file files ih =>
    rw [List.flatMap_cons, List.filter_append, List.filter_append, ih,
      (w.isQuiet_formatFile file given).filter_isNews, filter_isNews_verdict, List.nil_append]
    cases hfound : w.finding? given file with
    | none => rw [List.filterMap_cons_none hfound]; rfl
    | some found => rw [List.filterMap_cons_some hfound]; rfl

theorem countP_severity [Platform] (w : Workspace) (given : Option Layer) (files : List Path) :
    (files.countP fun f => severity (w.formatFile f given).result = 1) =
      (files.filterMap (w.finding? given)).length := by
  rw [List.length_filterMap_eq_countP]
  apply List.countP_congr
  intro file _
  unfold finding?
  cases (w.formatFile file given).result with
  | error e => simp [severity]
  | ok new => cases new <;> simp [severity]

/-- **What a check tells** of files with new texts. -/
theorem filter_isNews_check [Platform] (h : (w.prepare config paths).result = .ok (given, files))
    (hreturns : ∀ f ∈ files, Returns (w.formatFile f given).result) :
    (w.handleFiles .check config paths).journal.filter Entry.isNews =
      news (w.outOfOrder config paths) := by
  have hrun := @Report.handleAll_check given (w.opening config paths) _ files rfl hreturns
  have hfound : w.outOfOrder config paths = files.filterMap (w.finding? given) := by
    rw [outOfOrder, h]
  have hjournal : ((w.opening config paths).handleAll .check given files).journal.filter
      Entry.isNews = (w.outOfOrder config paths).map notice := by
    rw [hrun, hfound, List.filter_append, ← filter_isNews_verdicts,
      show (w.opening config paths).journal.filter Entry.isNews = [] from
        (w.isQuiet_prepare config paths).filter_isNews]
    rfl
  have hcount : ((w.opening config paths).handleAll .check given files).changed =
      (w.outOfOrder config paths).length := by
    rw [hrun, hfound, ← countP_severity]
    exact Nat.zero_add _
  have hnone : ((w.opening config paths).handleAll .check given files).breakdown = none := by
    rw [hrun]
  rw [handleFiles_of_prepare h, Report.total, hnone, hcount, news]
  by_cases hempty : (w.outOfOrder config paths).length = 0
  · rw [if_pos (.inl hempty), if_pos hempty, hjournal, List.append_nil]
  · rw [if_neg (by simpa using hempty), if_neg hempty, ← hjournal]
    exact List.filter_append ..

theorem severity_again (x : Outcome) :
    severity (x.map fun _ => none) = if severity x = 2 then 2 else 0 := by
  cases x with
  | error e => rfl
  | ok new => cases new <;> rfl

/-- The exit code of another check, by the outcomes of the first one. -/
theorem foldl_severity_again (x : Path → Outcome) (files : List Path) {n : Nat} (hn : n ≤ 2) :
    files.foldl (fun m f => max m (severity ((x f).map fun _ => none))) (if n = 2 then 2 else 0) =
      if files.foldl (fun m f => max m (severity (x f))) n = 2 then 2 else 0 := by
  induction files generalizing n with
  | nil => rfl
  | cons file files ih =>
    have hle := severity_le_two (x file)
    have hstep : max (if n = 2 then 2 else 0) (severity ((x file).map fun _ => none)) =
        if max n (severity (x file)) = 2 then 2 else 0 := by
      rw [severity_again]
      split <;> split <;> split <;> omega
    rw [List.foldl_cons, List.foldl_cons, hstep]
    exact ih (by omega)

/-- The two runs before the first file. -/
theorem follows_opening [Platform] (w : Workspace) (given : Option Layer) (config : Option String)
    (paths : List String) :
    Report.Follows w given [] (w.opening config paths) (w.opening config paths) where
  workspace := rfl
  fixed := .nil w given
  breakdown_check := rfl
  breakdown_fix := rfl
  exitCode := rfl
  raised _ hfile := by cases hfile
  failures := rfl

/-- Both runs, from their start to their end. -/
theorem follows_handleFiles [Platform] (hnames : w.HasFileNames)
    (h : (w.prepare config paths).result = .ok (given, files))
    (hreturns : ∀ f ∈ files, Returns (w.formatFile f given).result) :
    Report.Follows w given files (w.handleFiles .check config paths)
      (w.handleFiles .fix config paths) := by
  have hnormal := isNormal_of_collectFiles hnames (prepare_eq_ok_iff.1 h).2
  have hrun := (follows_opening w given config paths).run hnames.notMem_current
    (fun f hf => nomatch hf) hnormal hreturns
  rw [handleFiles_of_prepare h, handleFiles_of_prepare h]
  exact hrun.total

/-- Another check over a fixed workspace. -/
theorem handleFiles_again [Platform] (hnames : w.HasFileNames) {w' : Workspace}
    (h : (w.prepare config paths).result = .ok (given, files))
    (hreturns : ∀ f ∈ files, Returns (w.formatFile f given).result)
    (hfixed : w.IsFixed given files w') :
    (w'.handleFiles .check config paths).breakdown = none ∧
      (w'.handleFiles .check config paths).exitCode =
        if (w.handleFiles .check config paths).exitCode = 2 then 2 else 0 := by
  have hnormal := isNormal_of_collectFiles hnames (prepare_eq_ok_iff.1 h).2
  have hagain : ∀ f ∈ files, (w'.formatFile f given).result =
      (w.formatFile f given).result.map fun _ => none :=
    fun f hf => hfixed.formatFile_of_mem hnames.notMem_current hnormal hf
  have hreturns' : ∀ f ∈ files, Returns (w'.formatFile f given).result := by
    intro f hf e he
    rw [hagain f hf] at he
    apply hreturns f hf
    cases hresult : (w.formatFile f given).result with
    | error e' =>
      rw [hresult] at he
      exact he
    | ok new =>
      rw [hresult] at he
      cases he
  have hrun := @Report.handleAll_check given (w.opening config paths) _ files rfl hreturns
  have hrun' := @Report.handleAll_check given (w'.opening config paths) _ files rfl hreturns'
  rw [handleFiles_of_prepare h, handleFiles_of_prepare (hfixed.revision.prepare_eq h),
    Report.breakdown_total, Report.exitCode_total, Report.exitCode_total, hrun, hrun']
  refine ⟨rfl, ?_⟩
  have hcode := foldl_severity_again (fun f => (w.formatFile f given).result) files (Nat.zero_le 2)
  refine Eq.trans ?_ hcode
  apply List.foldl_ext
  intro n f hf
  exact congrArg (fun x => max n (severity x)) (hagain f hf)

/-- **A check that returns foretells what fixing does.** -/
theorem foretold_of_check [Platform] (hnames : w.HasFileNames)
    (hreturns : (w.handleFiles .check config paths).breakdown = none) :
    w.Foretold config paths := by
  cases h : (w.prepare config paths).result with
  | error e => exact foretold_of_error h hreturns
  | ok start =>
    obtain ⟨given, files⟩ := start
    rw [handleFiles_of_prepare h, Report.breakdown_total] at hreturns
    have hoks := Report.returns_of_handleAll_check hreturns
    have hfollows := follows_handleFiles hnames h hoks
    obtain ⟨hnone, hcode⟩ := handleFiles_again hnames h hoks hfollows.fixed
    have hnormal := isNormal_of_collectFiles hnames (prepare_eq_ok_iff.1 h).2
    refine ⟨hfollows.workspace, filter_isNews_check h hoks, hfollows.breakdown_fix,
      hfollows.exitCode, hfollows.failures, ?_, ?_, ?_, hnone, ?_⟩
    · intro file text hfound
      obtain ⟨hfile, hnew⟩ := (mem_outOfOrder h).1 hfound
      obtain ⟨place, content, hplace, hget, hne, -⟩ := exists_of_formatFile hnew
      exact ⟨place, content, hplace, hget, hne,
        hfollows.fixed.written file hfile text place hnew hplace⟩
    · intro place hplace
      apply hfollows.fixed.kept
      intro file hfile text hnew
      exact hplace (file, text) ((mem_outOfOrder h).2 ⟨hfile, hnew⟩)
    · intro given' files' h' file hfile e he place hplace
      obtain ⟨rfl, rfl⟩ := Prod.mk.inj (Except.ok.inj (h.symm.trans h'))
      exact hfollows.fixed.get?_of_error hnames.notMem_current hnormal (hnormal file hfile) he
        hplace
    · rw [hcode, hfollows.exitCode]

/-- A file that is out of order, and one with two default imports from a module. -/
def untidy : Workspace where
  current := ["w"]
  tree := ⟨[(["w"], .directory),
    (["w", "a.ts"], .file (Text.bytes "import b from 'b';\nimport a from 'a';\n".toList)),
    (["w", "b.ts"], .file (Text.bytes "import b from 'b';\nimport c from 'b';\n".toList))]⟩

section Usual

attribute [local instance] Platform.usual

/-- One of the files is named twice, and the other one cannot be mended. -/
theorem foretold_untidy :
    untidy.HasFileNames ∧ (untidy.handleFiles .check none [".", "a.ts"]).breakdown = none ∧
      (untidy.handleFiles .check none [".", "a.ts"]).exitCode = 2 ∧
      (untidy.outOfOrder none [".", "a.ts"]).map (fun found => found.1.toString) =
        ["a.ts", "a.ts"] ∧
      untidy.Foretold none [".", "a.ts"] := by
  have hnames : untidy.HasFileNames := by decide +kernel
  have hreturns : (untidy.handleFiles .check none [".", "a.ts"]).breakdown = none :=
    Option.isNone_iff_eq_none.1 (by decide +kernel)
  refine ⟨hnames, hreturns, ?_, ?_, foretold_of_check hnames hreturns⟩
  · decide +kernel
  · decide +kernel

end Usual

end Files

end Workspace

end ImportOrder
