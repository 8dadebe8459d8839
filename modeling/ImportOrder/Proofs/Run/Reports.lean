import ImportOrder.Proofs.Run.Remarks

/-!
# What runs report

A run that is not broken off passes a verdict on each of its files. A check leaves the workspace as
it is, so its report follows from the outcomes of its files alone.

## Main definitions

* `severity`, `verdict`: what the outcome of a file does to the exit code, and what is said of it
* `Returns`: an outcome that does not break off the run

## Main results

* `Report.handleFile_eq`: the report after one more file
* `Report.handleAll_check`: the report of a check
-/

namespace ImportOrder

/-- **The outcome of formatting a file**: a new text, nothing new, or a failure. -/
abbrev Outcome := Except Failure (Option Text)

namespace Outcome

/-- The exit code that an outcome asks for. -/
def severity : Outcome → Nat
  | .error _ => 2
  | .ok (some _) => 1
  | .ok none => 0

/-- What is said of a file with an outcome. -/
def verdict (mode : Mode) (file : Path) : Outcome → Entry
  | .error (.conflict cause) => ⟨.error, s!"[{file.toString}] CONFLICT: {cause.message}"⟩
  | .error cause => ⟨.error, s!"[{file.toString}] ERROR: {cause.message}"⟩
  | .ok none => ⟨.debug, s!"[{file.toString}] unchanged."⟩
  | .ok (some _) =>
    match mode with
    | .check => ⟨.info, s!"[{file.toString}] imports would be reordered."⟩
    | .fix => ⟨.info, s!"[{file.toString}] file updated."⟩

/-- **An outcome that does not break off the run.** -/
def Returns (x : Outcome) : Prop := ∀ e, x = .error e → e.breakdown? = none

theorem severity_le_two (x : Outcome) : severity x ≤ 2 := by
  unfold severity
  split <;> omega

end Outcome

open Outcome

namespace Report

variable {mode : Mode} {given : Option Layer} {r : Report} {file : Path}

/-- The report after a failure that does not break off the run. -/
theorem fileFailed_eq {e : Failure} (mode : Mode) (h : e.breakdown? = none) :
    r.fileFailed file e =
      { r.say [verdict mode file (.error e)] with exitCode := max r.exitCode 2 } := by
  unfold fileFailed
  rw [h]
  cases e <;> rfl

/-- The report after one more file, by its outcome. -/
theorem handleFile_def [Platform] (mode : Mode) (given : Option Layer) (file : Path) (r : Report) :
    r.handleFile mode given file =
      let out := r.workspace.formatFile file given
      let r' := { r.say out.journal with
        workspace := (r.workspace.processFile (mode = Mode.fix) file given).2 }
      match out.result with
      | .error failure => r'.fileFailed file failure
      | .ok none => r'.say [⟨.debug, s!"[{file.toString}] unchanged."⟩]
      | .ok (some _) => r'.outOfOrder mode file := by
  unfold handleFile Workspace.processFile
  dsimp only
  cases hresult : (r.workspace.formatFile file given).result with
  | error e => rfl
  | ok new => cases new <;> rfl

/-- **The report after one more file.** -/
theorem handleFile_eq [Platform] (hr : r.breakdown = none)
    (hreturns : Returns (r.workspace.formatFile file given).result) :
    r.handleFile mode given file =
      { exitCode := max r.exitCode (severity (r.workspace.formatFile file given).result)
        journal := r.journal ++ ((r.workspace.formatFile file given).journal ++
          [verdict mode file (r.workspace.formatFile file given).result])
        changed := r.changed +
          if severity (r.workspace.formatFile file given).result = 1 then 1 else 0
        breakdown := none
        workspace := (r.workspace.processFile (mode = .fix) file given).2 } := by
  rw [handleFile_def]
  dsimp only
  cases hresult : (r.workspace.formatFile file given).result with
  | error e =>
    show fileFailed _ file e = _
    rw [fileFailed_eq mode (hreturns e hresult)]
    simp [say, severity, hr, List.append_assoc]
  | ok new =>
    cases new with
    | none => simp [say, severity, verdict, hr, List.append_assoc]
    | some text => cases mode <;> simp [outOfOrder, say, severity, verdict, hr, List.append_assoc]

/-- A report without a breakdown: the file before it broke nothing off. -/
theorem returns_of_handleFile [Platform] (h : (r.handleFile mode given file).breakdown = none) :
    Returns (r.workspace.formatFile file given).result := by
  intro e he
  rw [handleFile_def] at h
  dsimp only at h
  rw [he] at h
  dsimp only [fileFailed] at h
  cases hcause : e.breakdown? with
  | none => rfl
  | some cause =>
    rw [hcause] at h
    cases h

theorem breakdown_of_handleAll [Platform] {files : List Path}
    (h : (r.handleAll mode given files).breakdown = none) : r.breakdown = none := by
  cases files with
  | nil => exact h
  | cons file files =>
    rw [handleAll] at h
    split at h
    · exact h
    · rename_i hr
      simpa using hr

theorem handleAll_cons [Platform] (hr : r.breakdown = none) (files : List Path) :
    r.handleAll mode given (file :: files) =
      (r.handleFile mode given file).handleAll mode given files := by
  rw [handleAll, hr]
  rfl

/-- At its end, a run may say how many files had new texts. -/
theorem total_eq (mode : Mode) (r : Report) :
    r.total mode = r ∨ ∃ text, r.total mode = r.say [⟨.info, text⟩] := by
  unfold total
  split
  · exact .inl rfl
  · exact .inr ⟨_, rfl⟩

theorem exitCode_total (mode : Mode) (r : Report) : (r.total mode).exitCode = r.exitCode := by
  rcases total_eq mode r with h | ⟨text, h⟩
  · rw [h]
  · rw [h]
    rfl

theorem breakdown_total (mode : Mode) (r : Report) : (r.total mode).breakdown = r.breakdown := by
  rcases total_eq mode r with h | ⟨text, h⟩
  · rw [h]
  · rw [h]
    rfl

theorem workspace_total (mode : Mode) (r : Report) : (r.total mode).workspace = r.workspace := by
  rcases total_eq mode r with h | ⟨text, h⟩
  · rw [h]
  · rw [h]
    rfl

/-! ## Checks -/

theorem workspace_check [Platform] (w : Workspace) (file : Path) (given : Option Layer) :
    (w.processFile (Mode.check = .fix) file given).2 = w := by
  unfold Workspace.processFile
  dsimp only
  split <;> rfl

/-- **The report of a check** follows from the outcomes of its files. -/
theorem handleAll_check [Platform] {files : List Path} (hr : r.breakdown = none)
    (hreturns : ∀ f ∈ files, Returns (r.workspace.formatFile f given).result) :
    r.handleAll .check given files =
      { exitCode := files.foldl
          (fun n f => max n (severity (r.workspace.formatFile f given).result)) r.exitCode
        journal := r.journal ++ files.flatMap fun f => (r.workspace.formatFile f given).journal ++
          [verdict .check f (r.workspace.formatFile f given).result]
        changed := r.changed +
          files.countP fun f => severity (r.workspace.formatFile f given).result = 1
        breakdown := none
        workspace := r.workspace } := by
  induction files generalizing r with
  | nil =>
    rw [handleAll, ← hr]
    simp
  | cons file files ih =>
    have hstep := @handleFile_eq .check given r file _ hr (hreturns file List.mem_cons_self)
    rw [workspace_check] at hstep
    have hrest := ih (r := r.handleFile .check given file) (by rw [hstep])
    rw [hstep] at hrest
    rw [handleAll_cons hr, hstep, hrest fun f hf => hreturns f (List.mem_cons_of_mem file hf)]
    simp only [List.foldl_cons, List.flatMap_cons, List.append_assoc, List.countP_cons,
      decide_eq_true_eq]
    congr 1
    omega

/-- A check that is not broken off: no outcome breaks it off. -/
theorem returns_of_handleAll_check [Platform] {files : List Path}
    (h : (r.handleAll .check given files).breakdown = none) :
    ∀ f ∈ files, Returns (r.workspace.formatFile f given).result := by
  induction files generalizing r with
  | nil =>
    intro f hf
    cases hf
  | cons file files ih =>
    have hr := breakdown_of_handleAll h
    rw [handleAll_cons hr] at h
    have hfile := returns_of_handleFile (breakdown_of_handleAll h)
    have hrest := ih h
    rw [handleFile_eq hr hfile, workspace_check] at hrest
    intro f hf
    rcases List.mem_cons.1 hf with rfl | hf
    · exact hfile
    · exact hrest f hf

end Report

end ImportOrder
