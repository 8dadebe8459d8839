import ImportOrder.Command.Run

/-!
# Remarks on the way

Whatever is read, arranged and written on the way to the outcome of a file leaves remarks for those
who look closely, and warnings at most. So what a run tells of files out of order, and of failures,
are the verdicts on its files alone.

## Main definitions

* `Journaled.IsQuiet`: all remarks are asides

## Main results

* `Workspace.isQuiet_prepare`: preparing a run is quiet
* `Workspace.isQuiet_formatFile`: so is formatting a file
-/

namespace ImportOrder

/-- **A remark on the way**, which tells neither of a file out of order nor of a failure. -/
def Entry.IsAside (e : Entry) : Prop := e.level = .debug ∨ e.level = .warning

/-! ## Steps -/

namespace Journaled

variable {ε α β : Type}

/-- **A quiet computation**: all its remarks are asides. -/
def IsQuiet (x : Journaled ε α) : Prop := ∀ e ∈ x.journal, e.IsAside

theorem isQuiet_of_journal_eq_nil {x : Journaled ε α} (h : x.journal = []) : x.IsQuiet := by
  intro e he
  rw [h] at he
  cases he

theorem isQuiet_pure (a : α) : (pure a : Journaled ε α).IsQuiet := isQuiet_of_journal_eq_nil rfl

theorem isQuiet_ofExcept (x : Except ε α) : (ofExcept x).IsQuiet := isQuiet_of_journal_eq_nil rfl

theorem isQuiet_fail (e : ε) : (fail e : Journaled ε α).IsQuiet := isQuiet_of_journal_eq_nil rfl

theorem isQuiet_debug (text : String) : (debug text : Journaled ε Unit).IsQuiet := by
  intro e he
  rw [List.mem_singleton.1 he]
  exact .inl rfl

theorem isQuiet_warning (text : String) : (note .warning text : Journaled ε Unit).IsQuiet := by
  intro e he
  rw [List.mem_singleton.1 he]
  exact .inr rfl

theorem IsQuiet.mapError {ε' : Type} {x : Journaled ε α} (h : x.IsQuiet) (f : ε → ε') :
    (x.mapError f).IsQuiet := h

theorem IsQuiet.bind {x : Journaled ε α} {f : α → Journaled ε β} (hx : x.IsQuiet)
    (hf : ∀ a, (f a).IsQuiet) : (x >>= f).IsQuiet := by
  intro e he
  change e ∈ (andThen x f).journal at he
  unfold andThen at he
  split at he
  · exact hx e he
  · rename_i a _
    rcases List.mem_append.1 he with he | he
    · exact hx e he
    · exact hf a e he

theorem isQuiet_forEach {f : α → Journaled ε β} (h : ∀ a, (f a).IsQuiet) (as : List α) :
    (forEach f as).IsQuiet := by
  induction as with
  | nil => exact isQuiet_pure []
  | cons a as ih => exact (h a).bind fun b => ih.bind fun bs => isQuiet_pure (b :: bs)

end Journaled

open Journaled

/-! ## Formatting -/

theorem isQuiet_mergeClass (c : List Statement) : (mergeClass c).IsQuiet := by
  unfold mergeClass
  split
  · exact isQuiet_pure _
  · exact isQuiet_pure _
  · apply (isQuiet_ofExcept _).bind
    intro merged
    exact (isQuiet_debug _).bind fun _ => isQuiet_pure merged

theorem isQuiet_mergeDuplicates (ss : List Statement) : (mergeDuplicates ss).IsQuiet :=
  (isQuiet_forEach isQuiet_mergeClass _).bind fun _ => isQuiet_pure _

theorem isQuiet_arrange [Platform] (s : Settings) (project : Option Project) (ss : List Statement) :
    (arrange s project ss).IsQuiet := by
  have hgroup : ∀ placed position, (arrangeGroup s placed position).IsQuiet := by
    intro placed position
    unfold arrangeGroup
    dsimp only
    split
    · exact (isQuiet_mergeDuplicates _).bind fun _ => isQuiet_pure _
    · exact (isQuiet_pure _).bind fun _ => isQuiet_pure _
  apply (isQuiet_ofExcept _).bind
  intro groups
  apply (isQuiet_ofExcept _).bind
  intro placed
  apply (isQuiet_forEach (hgroup placed) _).bind
  intro arranged
  exact (isQuiet_debug _).bind fun _ => isQuiet_pure _

namespace FormatContext

theorem isQuiet_formatHead [Platform] (c : FormatContext) (head : Head) :
    (c.formatHead head).IsQuiet := by
  unfold formatHead
  split
  · exact (isQuiet_debug _).bind fun _ => isQuiet_pure _
  · split
    · exact (isQuiet_debug _).bind fun _ => isQuiet_pure _
    · apply IsQuiet.bind _ fun _ => isQuiet_pure _
      exact (isQuiet_arrange _ _ _).bind fun _ => isQuiet_ofExcept _

theorem isQuiet_formatOnce [Platform] (c : FormatContext) (source : Text) :
    (c.formatOnce source).IsQuiet := by
  unfold formatOnce
  split
  · exact (isQuiet_debug _).bind fun _ => isQuiet_pure _
  · rename_i d _
    have hformat : (Journaled.ofExcept (parseHead source d) >>= c.formatHead).IsQuiet :=
      (isQuiet_ofExcept _).bind c.isQuiet_formatHead
    split
    · unfold orLeaveAlone
      split
      · intro e he
        rcases List.mem_append.1 he with he | he
        · exact hformat e he
        · rw [List.mem_singleton.1 he]
          exact .inl rfl
      · exact hformat
    · exact isQuiet_fail _

theorem isQuiet_format [Platform] (c : FormatContext) (source : Text) :
    (c.format source).IsQuiet := by
  apply (c.isQuiet_formatOnce source).bind
  intro once
  split
  · exact isQuiet_pure _
  · split
    · exact isQuiet_pure _
    · apply (c.isQuiet_formatOnce _).bind
      intro twice
      split
      · exact isQuiet_pure _
      · split
        · exact isQuiet_pure _
        · exact (isQuiet_warning _).bind fun _ => isQuiet_pure _

end FormatContext

/-! ## Settings -/

theorem Layer.isQuiet_readEntries [Platform] (strict : Bool) (l : Layer)
    (entries : List (Scalar × Data)) : (readEntries strict l entries).IsQuiet := by
  fun_induction readEntries strict l entries with
  | case1 => exact isQuiet_pure _
  | case2 => exact isQuiet_fail _
  | case3 => exact isQuiet_fail _
  | case4 l key value entries name hname hstrict hshown ih =>
    exact (isQuiet_debug _).bind fun _ => ih
  | case5 l key entries name result hname ih => exact ih
  | case6 l key value entries name result hname hvalue ih =>
    exact (isQuiet_ofExcept _).bind ih

theorem Layer.isQuiet_read [Platform] (strict : Bool) (d : Data) : (read strict d).IsQuiet := by
  unfold read
  split
  · exact isQuiet_readEntries _ _ _
  · exact isQuiet_fail _

theorem Layer.isQuiet_remarkLint [Platform] (l : Layer) : l.remarkLint.IsQuiet := by
  unfold remarkLint
  dsimp only
  split
  · exact isQuiet_pure _
  · split
    · exact isQuiet_fail _
    · exact isQuiet_debug _

namespace Workspace

variable (w : Workspace)

theorem isQuiet_readLayer [Platform] (strict : Bool) (p : Path) :
    (w.readLayer strict p).IsQuiet := by
  apply (isQuiet_ofExcept _).bind
  intro data
  split
  · exact isQuiet_pure _
  · exact ((Layer.isQuiet_read _ _).mapError _).bind fun _ => isQuiet_pure _

theorem isQuiet_readLayers [Platform] (ps : List Path) : (w.readLayers ps).IsQuiet := by
  induction ps with
  | nil => exact isQuiet_pure _
  | cons p ps ih =>
    apply (w.isQuiet_readLayer false p).bind
    intro layer
    split
    · exact ih
    · exact (isQuiet_debug _).bind fun _ => ih.bind fun _ => isQuiet_pure _

theorem isQuiet_settingsFor [Platform] (file : Path) (root : Option Path) (extra : List Layer) :
    (w.settingsFor file root extra).IsQuiet :=
  (w.isQuiet_readLayers _).bind fun _ => isQuiet_ofExcept _

theorem isQuiet_lintData [Platform] (dir : Place) : (w.lintData dir).IsQuiet := by
  unfold lintData
  split
  · dsimp only
    split
    · exact isQuiet_pure _
    · exact isQuiet_fail _
    · exact (isQuiet_debug _).bind fun _ => isQuiet_pure _
  · split
    · exact (isQuiet_ofExcept _).bind fun _ => isQuiet_pure _
    · exact isQuiet_pure _

theorem isQuiet_collectRules [Platform] (dirs : List Place) : (w.collectRules dirs).IsQuiet := by
  induction dirs with
  | nil => exact isQuiet_pure _
  | cons dir dirs ih =>
    apply (w.isQuiet_lintData dir).bind
    intro data
    split
    · exact ih
    · split
      · exact isQuiet_pure _
      · exact ih.bind fun _ => isQuiet_pure _

theorem isQuiet_fileSettings [Platform] (file : Path) (given : Option Layer) :
    (w.fileSettings file given).IsQuiet := by
  apply (w.isQuiet_settingsFor _ _ _).bind
  intro settings
  apply IsQuiet.bind
  · exact (w.isQuiet_collectRules _).bind fun _ => isQuiet_pure _
  · intro rules
    split
    · exact isQuiet_pure _
    · exact (Layer.isQuiet_remarkLint _).bind fun _ => isQuiet_pure _

/-! ## Project options -/

theorem isQuiet_remarkMissing (place : Place) (file : ProjectFile) :
    (remarkMissing place file).IsQuiet := by
  unfold remarkMissing
  cases file.relative with
  | none => exact isQuiet_pure _
  | some relative => exact isQuiet_debug _

theorem isQuiet_compilerOptions [Platform] (seen : List Place) (place : Place) :
    (w.compilerOptions seen place).IsQuiet := by
  induction seen, place using compilerOptions.induct w with
  | case1 seen place ih =>
    cases hfile : w.readProjectFile seen.length place with
    | error e =>
      rw [compilerOptions_of_error hfile]
      exact isQuiet_fail _
    | ok file =>
      cases htarget : file.target.filter w.tree.isFile with
      | none =>
        rw [compilerOptions_of_last hfile htarget]
        exact (isQuiet_remarkMissing _ _).bind fun _ => isQuiet_pure _
      | some target =>
        by_cases hmet : target ∈ place :: seen
        · rw [compilerOptions_of_met hfile htarget hmet]
          exact isQuiet_fail _
        · rw [compilerOptions_of_unmet hfile htarget hmet]
          exact (ih file target htarget hmet).bind fun _ => isQuiet_pure _

theorem isQuiet_readProject [Platform] (file : String) : (w.readProject file).IsQuiet :=
  (w.isQuiet_compilerOptions _ _).bind fun _ => isQuiet_ofExcept _

/-! ## Files and runs -/

/-- **Formatting a file is quiet.** -/
theorem isQuiet_formatFile [Platform] (file : Path) (given : Option Layer) :
    (w.formatFile file given).IsQuiet := by
  apply (isQuiet_ofExcept _).bind
  intro source
  apply ((w.isQuiet_fileSettings file given).mapError _).bind
  intro settings
  split
  · exact (isQuiet_pure _).bind fun _ => FormatContext.isQuiet_format _ _
  · apply ((w.isQuiet_readProject _).mapError _).bind
    intro project
    exact (isQuiet_pure _).bind fun _ => FormatContext.isQuiet_format _ _

theorem isQuiet_givenLayer [Platform] (config : Option String) : (w.givenLayer config).IsQuiet := by
  unfold givenLayer
  split
  · exact isQuiet_pure _
  · apply (w.isQuiet_readLayer true _).bind
    intro layer
    exact (isQuiet_ofExcept _).bind fun _ => isQuiet_pure _

theorem isQuiet_collectFiles [Platform] (given : Option Layer) (paths : List String) :
    (w.collectFiles given paths).IsQuiet := by
  induction paths with
  | nil => exact isQuiet_pure _
  | cons s paths ih =>
    rw [collectFiles]
    dsimp only
    split
    · exact (isQuiet_pure _).bind fun _ => ih.bind fun _ => isQuiet_pure _
    · apply (w.isQuiet_settingsFor _ _ _).bind
      intro settings
      exact (isQuiet_pure _).bind fun _ => ih.bind fun _ => isQuiet_pure _

/-- **Preparing a run is quiet.** -/
theorem isQuiet_prepare [Platform] (config : Option String) (paths : List String) :
    (w.prepare config paths).IsQuiet := by
  apply (w.isQuiet_givenLayer config).bind
  intro given
  exact (w.isQuiet_collectFiles given paths).bind fun _ => isQuiet_pure _

end Workspace

end ImportOrder
