import ImportOrder.Platform.Usual
import ImportOrder.Project.Discovery
import ImportOrder.Proofs.Files.Keys
import ImportOrder.Proofs.Files.Nesting

/-!
# The chain of project files

A project file may extend another one, which may extend the next, and so on. The files that are met
on this way form a chain, which ends or comes back to one of its files. The options of a project are
those that the files of its chain have, the first file with an option deciding.

What a file holds and where its path leads does not depend on any limit, and neither does the chain.
The limits come in where the chain is read: a file can come too late on it, be nested too deep for
its place, or extend a path that the file system refuses.

## Main definitions

* `Workspace.extended?`: the file that a project file extends
* `Workspace.chain`: the files that are met from a project file on
* `Workspace.IsEffective`: the value of an option in the first file of the chain that has it
* `Workspace.BreaksDown`: the project files that end the whole run
* `Workspace.FirstMet`: the place of a file on the chain
* `Workspace.FollowsChain`: a project that is read from its chain

## Main results

* `Workspace.extendedFile_eq_error_iff`: where relative paths lead nowhere
* `Workspace.outcome_compilerOptions`: what becomes of the options of a project file
* `Workspace.readProject_followsChain_iff`: a project is read from its chain unless a file on it
  breaks down
-/

namespace ImportOrder

namespace Workspace

open Data (valueOf? updateKeys)

variable {w : Workspace} {start place target : Place} {before : Nat} {name : WideText}
  {value : Data}

/-! ## One file -/

/-- **A project file at fault**: it cannot be read, or it holds no map. -/
def IsFaulty (w : Workspace) (place : Place) : Prop :=
  (∃ path fault, w.contents (.ofAbsolute place) = .error (.unreadableFile path fault)) ∨
    ∃ data, w.contents (.ofAbsolute place) = .ok data ∧ data.entries? = none

/-- The value of an option in a project file. -/
def ownOption? (w : Workspace) (place : Place) (name : WideText) : Option Data :=
  (w.contents (.ofAbsolute place)).toOption.bind fun data => valueOf? (ownOptions data) name

/-- The place where a relative path leads from a project file, with the ending of data files. -/
def linked? (place : Place) (relative : WideText) : Option Place :=
  (withDataEnding (namesFrom place (relativeNames relative))).toOption.bind
    fun names => names.mapM fileName?

/-- **The file that a project file extends**: the place where its relative path leads, if it has one
and there is a file. -/
def extended? (w : Workspace) (place : Place) : Option Place :=
  ((w.contents (.ofAbsolute place)).toOption.bind extendedPath?).bind fun relative =>
    (linked? place relative).filter w.tree.isFile

/-- **A relative path that the file system refuses**: it refuses a name on the way, the way leads to
the root directory, or it is too long. -/
inductive PathBreaks [Platform] (t : FileTree) (place : Place) (relative : WideText) :
    Breakdown → Prop
  | name {cause : Breakdown} (h : (relativeNames relative).findSome? nameFault? = some cause) :
      PathBreaks t place relative cause
  | root (hnames : ∀ name ∈ relativeNames relative, nameFault? name = none)
      (h : namesFrom place (relativeNames relative) = []) :
      PathBreaks t place relative .missingFileName
  | long {names : List WideText} (hnames : ∀ name ∈ relativeNames relative, nameFault? name = none)
      (hending : withDataEnding (namesFrom place (relativeNames relative)) = .ok names)
      (h : isTooLong t names = true) : PathBreaks t place relative .longFileName

/-- **A project file that breaks down** behind others: these are too many, it is nested too deep, or
it extends a path that is refused. -/
inductive BreaksDown [Platform] (w : Workspace) (before : Nat) (place : Place) : Breakdown → Prop
  | chain (h : Platform.chainLimit ≤ before) : BreaksDown w before place .tooDeep
  | nesting (hbefore : before < Platform.chainLimit)
      (h : w.readJson (.ofAbsolute place) before = .error (.broken .tooDeep)) :
      BreaksDown w before place .tooDeep
  | path {entries : List (Scalar × Data)} {relative : WideText} {cause : Breakdown}
      (hbefore : before < Platform.chainLimit)
      (hread : w.readJson (.ofAbsolute place) before = .ok (.map entries))
      (hpath : extendedPath? (.map entries) = some relative)
      (h : PathBreaks w.tree place relative cause) : BreaksDown w before place cause

theorem withDataEnding_eq_error_iff {names : List WideText} {cause : Breakdown} :
    withDataEnding names = .error cause ↔ names = [] ∧ cause = .missingFileName := by
  unfold withDataEnding
  split
  · rename_i hlast
    simp [List.getLast?_eq_none_iff.1 hlast, eq_comm]
  · rename_i name hlast
    have hne : names ≠ [] := by
      rintro rfl
      cases hlast
    split <;> simp [hne]

theorem extendedFile_of_fault [Platform] {t : FileTree} {relative : WideText} {cause : Breakdown}
    (h : (relativeNames relative).findSome? nameFault? = some cause) :
    extendedFile t place relative = .error cause := by
  simp only [extendedFile, h]
  rfl

theorem extendedFile_of_plain [Platform] {t : FileTree} {relative : WideText}
    (h : ∀ name ∈ relativeNames relative, nameFault? name = none) :
    extendedFile t place relative = do
      let names ← withDataEnding (namesFrom place (relativeNames relative))
      if isTooLong t names then throw .longFileName
      return names.mapM fileName? := by
  simp only [extendedFile, List.findSome?_eq_none_iff.2 h]

/-- Why a relative path leads nowhere. -/
theorem extendedFile_eq_error_iff [Platform] {t : FileTree} {relative : WideText}
    {cause : Breakdown} :
    extendedFile t place relative = .error cause ↔ PathBreaks t place relative cause := by
  constructor
  · intro h
    cases hfault : (relativeNames relative).findSome? nameFault? with
    | some fault =>
      rw [extendedFile_of_fault hfault] at h
      obtain rfl := Except.error.inj h
      exact .name hfault
    | none =>
      have hnames := List.findSome?_eq_none_iff.1 hfault
      rw [extendedFile_of_plain hnames] at h
      rcases Except.bind_eq_error h with hending | ⟨names, hending, h⟩
      · obtain ⟨hroot, rfl⟩ := withDataEnding_eq_error_iff.1 hending
        exact .root hnames hroot
      · by_cases hlong : isTooLong t names = true
        · rw [if_pos hlong] at h
          obtain rfl := Except.error.inj h
          exact .long hnames hending hlong
        · rw [if_neg hlong] at h
          cases h
  · intro h
    cases h with
    | name h => exact extendedFile_of_fault h
    | root hnames h =>
      rw [extendedFile_of_plain hnames, withDataEnding_eq_error_iff.2 ⟨h, rfl⟩]
      rfl
    | long hnames hending h =>
      rw [extendedFile_of_plain hnames, hending]
      show (if _ then _ else _) = _
      rw [if_pos h]
      rfl

theorem linked?_of_extendedFile [Platform] {t : FileTree} {relative : WideText}
    {target : Option Place} (h : extendedFile t place relative = .ok target) :
    linked? place relative = target := by
  cases hfault : (relativeNames relative).findSome? nameFault? with
  | some fault =>
    rw [extendedFile_of_fault hfault] at h
    cases h
  | none =>
    rw [extendedFile_of_plain (List.findSome?_eq_none_iff.1 hfault)] at h
    obtain ⟨names, hending, h⟩ := Parser.ok_of_bind h
    split at h
    · cases h
    · rw [linked?, hending]
      exact Except.ok.inj h

theorem readProjectFile_of_le [Platform] (h : Platform.chainLimit ≤ before) :
    w.readProjectFile before place = .error (.broken .tooDeep) := by
  rw [readProjectFile, if_pos h]

theorem readProjectFile_of_lt [Platform] (h : before < Platform.chainLimit) :
    w.readProjectFile before place =
      w.readJson (.ofAbsolute place) before >>= projectFileOf w.tree place := by
  rw [readProjectFile, if_neg (Nat.not_le.2 h)]

theorem readProjectFile_eq_ok [Platform] {file : ProjectFile}
    (h : w.readProjectFile before place = .ok file) :
    ∃ entries, w.contents (.ofAbsolute place) = .ok (.map entries) ∧
      targetOf w.tree place (.map entries) = .ok file.target ∧
      file.options = ownOptions (.map entries) := by
  rcases Nat.lt_or_ge before Platform.chainLimit with hbefore | hbefore
  · rw [readProjectFile_of_lt hbefore] at h
    obtain ⟨data, hdata, h⟩ := Parser.ok_of_bind h
    unfold projectFileOf at h
    split at h
    · rename_i entries
      obtain ⟨target, htarget, h⟩ := Parser.ok_of_bind h
      obtain rfl := Except.ok.inj h
      refine ⟨entries, ?_, mapError_eq_ok_iff.1 htarget, rfl⟩
      rcases w.readJson_cases (.ofAbsolute place) before with hsame | hdeep
      · rw [← hsame, hdata]
      · cases hdata.symm.trans hdeep
    · cases h
  · rw [readProjectFile_of_le hbefore] at h
    cases h

theorem readProjectFile_eq_error [Platform] {e : SettingsError}
    (h : w.readProjectFile before place = .error e) :
    w.IsFaulty place ∧ e.breakdown? = none ∨
      ∃ cause, e = .broken cause ∧ w.BreaksDown before place cause := by
  rcases Nat.lt_or_ge before Platform.chainLimit with hbefore | hbefore
  case inr =>
    rw [readProjectFile_of_le hbefore] at h
    exact .inr ⟨_, (Except.error.inj h).symm, .chain hbefore⟩
  rw [readProjectFile_of_lt hbefore] at h
  have hcases := w.readJson_cases (.ofAbsolute place) before
  -- the text of the file, then what it extends; only a map gets as far as that
  rcases Except.bind_eq_error h with hread | ⟨data, hread, h⟩
  · rcases hcases with hsame | hdeep
    · rw [hsame] at hread
      rcases readWith_eq_error hread with ⟨cause, rfl⟩ | ⟨fault, rfl⟩
      · exact absurd hread (contents_ne_broken cause)
      · exact .inl ⟨.inl ⟨_, fault, hread⟩, rfl⟩
    · obtain rfl := Except.error.inj (hdeep.symm.trans hread)
      exact .inr ⟨_, rfl, .nesting hbefore hdeep⟩
  · unfold projectFileOf at h
    split at h
    · rename_i entries
      rcases Except.bind_eq_error h with htarget | ⟨target, -, h⟩
      · obtain ⟨cause, hcause, rfl⟩ := mapError_eq_error htarget
        refine .inr ⟨cause, rfl, ?_⟩
        unfold targetOf at hcause
        split at hcause
        · cases hcause
        · rename_i relative hpath
          exact .path hbefore hread hpath (extendedFile_eq_error_iff.1 hcause)
      · cases h
    · rename_i hmap
      obtain rfl := Except.error.inj h
      rcases hcases with hsame | hdeep
      · refine .inl ⟨.inr ⟨data, hsame ▸ hread, ?_⟩, rfl⟩
        cases data with
        | map entries => exact absurd rfl (hmap entries)
        | _ => rfl
      · cases hread.symm.trans hdeep

theorem breaksDown_iff [Platform] {cause : Breakdown} :
    w.BreaksDown before place cause ↔ w.readProjectFile before place = .error (.broken cause) := by
  constructor
  · intro h
    cases h with
    | chain h => exact readProjectFile_of_le h
    | nesting hbefore hread =>
      rw [readProjectFile_of_lt hbefore, hread]
      rfl
    | @path entries relative _ hbefore hread hpath h =>
      have htarget : targetOf w.tree place (.map entries) = .error cause := by
        simp only [targetOf, hpath, extendedFile_eq_error_iff.2 h]
      rw [readProjectFile_of_lt hbefore, hread]
      show ((targetOf w.tree place (.map entries)).mapError SettingsError.broken >>= _) = _
      rw [htarget]
      rfl
  · intro h
    rcases readProjectFile_eq_error h with ⟨-, hcause⟩ | ⟨cause', hcause, hbreaks⟩
    · cases hcause
    · obtain rfl := SettingsError.broken.inj hcause
      exact hbreaks

theorem not_isFaulty_of_ok [Platform] {file : ProjectFile}
    (h : w.readProjectFile before place = .ok file) : ¬w.IsFaulty place := by
  obtain ⟨entries, hread, -, -⟩ := readProjectFile_eq_ok h
  rintro (⟨path, fault, hfault⟩ | ⟨data, hdata, hmap⟩)
  · cases hread.symm.trans hfault
  · obtain rfl := Except.ok.inj (hread.symm.trans hdata)
    cases hmap

theorem extended?_of_ok [Platform] {file : ProjectFile}
    (h : w.readProjectFile before place = .ok file) :
    w.extended? place = file.target.filter w.tree.isFile := by
  obtain ⟨entries, hread, htarget, -⟩ := readProjectFile_eq_ok h
  rw [extended?, hread]
  show (extendedPath? (.map entries)).bind _ = _
  unfold targetOf at htarget
  split at htarget
  · rename_i hnone
    rw [hnone, ← Except.ok.inj htarget]
    rfl
  · rename_i relative hpath
    rw [hpath, Option.bind_some, linked?_of_extendedFile htarget]

/-- A file at fault extends none. -/
theorem IsFaulty.extended?_eq_none (h : w.IsFaulty place) : w.extended? place = none := by
  rcases h with ⟨path, fault, hread⟩ | ⟨data, hread, hmap⟩
  · rw [extended?, hread]
    rfl
  · have hnone : extendedPath? data = none := by
      cases data with
      | map entries => cases hmap
      | _ => rfl
    rw [extended?, hread]
    show (extendedPath? data).bind _ = none
    rw [hnone]
    rfl

theorem nodup_ownOptions {data : Data} (h : data.WellFormed) :
    (Data.names (ownOptions data)).Nodup := by
  unfold ownOptions
  cases hown : (data.field? "compilerOptions").bind Data.entries? with
  | none => exact List.nodup_nil
  | some own =>
    obtain ⟨value, hvalue, hentries⟩ := Option.bind_eq_some_iff.1 hown
    have hwell := h.field? hvalue
    cases value <;> simp only [Data.entries?, reduceCtorEq, Option.some.injEq] at hentries
    subst hentries
    exact hwell.names_nodup

/-- The options of a project file on top of others. -/
theorem valueOf?_updateKeys_options [Platform] {file : ProjectFile}
    (h : w.readProjectFile before place = .ok file) (base : List (Scalar × Data))
    (name : WideText) : valueOf? (updateKeys base file.options) name =
      (w.ownOption? place name).or (valueOf? base name) := by
  obtain ⟨entries, hread, -, hoptions⟩ := readProjectFile_eq_ok h
  have hwell := wellFormed_readWith (fun _ _ => Json5.wellFormed_parse) hread
  rw [hoptions, Data.valueOf?_updateKeys (nodup_ownOptions hwell), ownOption?, hread]
  rfl

/-! ## The chain -/

/-- **The chain of a project file**: the file itself, then the file that the one before extends, as
long as there is one. -/
def chain (w : Workspace) (start : Place) : Nat → Option Place
  | 0 => some start
  | n + 1 => (w.chain start n).bind w.extended?

/-- A file on the chain of a project file. -/
def OnChain (w : Workspace) (start place : Place) : Prop := ∃ n, w.chain start n = some place

/-- **A chain that comes back** to a file. -/
def Revisits (w : Workspace) (start place : Place) : Prop :=
  ∃ m n, m < n ∧ w.chain start m = some place ∧ w.chain start n = some place

/-- The last file of a chain, and how many come before it. -/
def EndsAt (w : Workspace) (start : Place) (n : Nat) (last : Place) : Prop :=
  w.chain start n = some last ∧ w.extended? last = none

theorem chain_add (w : Workspace) (start : Place) (m n : Nat) :
    w.chain start (m + n) = (w.chain start m).bind (w.chain · n) := by
  induction n with
  | zero => simp [chain]
  | succ n ih =>
    rw [Nat.add_succ, chain, ih, Option.bind_assoc]
    rfl

/-- The chain of a file goes on as that of the file that it extends. -/
theorem chain_succ (h : w.extended? place = some target) (n : Nat) :
    w.chain place (n + 1) = w.chain target n := by
  rw [Nat.add_comm, chain_add, chain, chain, Option.bind_some, h, Option.bind_some]

theorem chain_of_le {m n : Nat} (hm : w.chain start m = none) (h : m ≤ n) :
    w.chain start n = none := by
  obtain ⟨k, rfl⟩ := Nat.exists_eq_add_of_le h
  rw [chain_add, hm, Option.bind_none]

/-- A chain that comes back never ends. -/
theorem Revisits.chain_ne_none (h : w.Revisits start place) (n : Nat) :
    w.chain start n ≠ none := by
  obtain ⟨i, j, hij, hi, hj⟩ := h
  induction n using Nat.strongRecOn with
  | ind n ih =>
    intro hn
    by_cases hle : n ≤ j
    · rw [chain_of_le hn hle] at hj
      cases hj
    · -- as far behind the first visit the chain is the same
      obtain ⟨k, rfl⟩ := Nat.exists_eq_add_of_le (Nat.le_of_not_le hle)
      apply ih (i + k) (by omega)
      rw [chain_add, hi, ← hj, ← chain_add, hn]

theorem Revisits.extended?_ne_none {met : Place} (h : w.Revisits start met)
    (hplace : w.OnChain start place) : w.extended? place ≠ none := by
  intro hnone
  obtain ⟨n, hn⟩ := hplace
  apply h.chain_ne_none (n + 1)
  rw [chain, hn, Option.bind_some, hnone]

theorem EndsAt.not_revisits {n : Nat} {last : Place} (h : w.EndsAt start n last) :
    ¬w.Revisits start place :=
  fun hrevisits => hrevisits.extended?_ne_none ⟨n, h.1⟩ h.2

/-- A file on an ending chain that extends none is its last. -/
theorem EndsAt.eq_of_onChain {n : Nat} {last : Place} (h : w.EndsAt start n last)
    (hplace : w.OnChain start place) (hnone : w.extended? place = none) : place = last := by
  obtain ⟨m, hm⟩ := hplace
  have hnext : w.chain start (m + 1) = none := by rw [chain, hm, Option.bind_some, hnone]
  have hnext' : w.chain start (n + 1) = none := by rw [chain, h.1, Option.bind_some, h.2]
  rcases Nat.lt_trichotomy m n with hlt | rfl | hlt
  · cases (chain_of_le hnext hlt).symm.trans h.1
  · exact Option.some.inj (hm.symm.trans h.1)
  · cases (chain_of_le hnext' hlt).symm.trans hm

/-! ## Effective options -/

/-- **The effective value of an option**: that of the first file on the chain that has it. -/
def IsEffective (w : Workspace) (start : Place) (name : WideText) (value : Data) : Prop :=
  ∃ n place, w.chain start n = some place ∧ w.ownOption? place name = some value ∧
    ∀ m < n, ∀ before, w.chain start m = some before → w.ownOption? before name = none

theorem isEffective_of_last (h : w.extended? start = none) :
    w.IsEffective start name value ↔ w.ownOption? start name = some value := by
  constructor
  · rintro ⟨n, place, hn, hvalue, -⟩
    cases n with
    | zero =>
      obtain rfl := Option.some.inj hn
      exact hvalue
    | succ n =>
      have hone : w.chain start 1 = none := h
      cases (chain_of_le hone (Nat.le_add_left 1 n)).symm.trans hn
  · intro hvalue
    exact ⟨0, start, rfl, hvalue, by simp⟩

theorem isEffective_of_extended (h : w.extended? start = some target) :
    w.IsEffective start name value ↔ w.ownOption? start name = some value ∨
      w.ownOption? start name = none ∧ w.IsEffective target name value := by
  constructor
  · rintro ⟨n, place, hn, hvalue, hbefore⟩
    cases n with
    | zero =>
      obtain rfl := Option.some.inj hn
      exact .inl hvalue
    | succ n =>
      refine .inr ⟨hbefore 0 (Nat.succ_pos n) start rfl, n, place, ?_, hvalue, ?_⟩
      · rw [← chain_succ h, hn]
      · intro m hm before hchain
        apply hbefore (m + 1) (Nat.succ_lt_succ hm) before
        rw [chain_succ h, hchain]
  · rintro (hvalue | ⟨hnone, n, place, hn, hvalue, hbefore⟩)
    · exact ⟨0, start, rfl, hvalue, by simp⟩
    · refine ⟨n + 1, place, by rw [chain_succ h, hn], hvalue, ?_⟩
      intro m hm before hchain
      cases m with
      | zero =>
        obtain rfl := Option.some.inj hchain
        exact hnone
      | succ m =>
        rw [chain_succ h] at hchain
        exact hbefore m (Nat.lt_of_succ_lt_succ hm) before hchain

/-! ## Reading the chain -/

/-- **The place of a file on the chain**, which is where it is met first. -/
def FirstMet (w : Workspace) (start : Place) (n : Nat) (place : Place) : Prop :=
  w.chain start n = some place ∧ ∀ m < n, w.chain start m ≠ some place

/-- The first files of a chain can be read one on account of another. -/
def Reads [Platform] (w : Workspace) (start : Place) (n : Nat) : Prop :=
  ∀ m < n, ∀ place, w.chain start m = some place → ∃ file, w.readProjectFile m place = .ok file

theorem Reads.not_breaksDown [Platform] {n m : Nat} {cause : Breakdown} (h : w.Reads start n)
    (hm : m < n) (hplace : w.chain start m = some place) : ¬w.BreaksDown m place cause := by
  intro hbreaks
  obtain ⟨file, hfile⟩ := h m hm place hplace
  cases hfile.symm.trans (breaksDown_iff.1 hbreaks)

theorem Reads.succ [Platform] {n : Nat} {file : ProjectFile} (h : w.Reads start n)
    (hplace : w.chain start n = some place) (hfile : w.readProjectFile n place = .ok file) :
    w.Reads start (n + 1) := by
  intro m hm q hq
  rcases Nat.lt_succ_iff_lt_or_eq.1 hm with hlt | rfl
  · exact h m hlt q hq
  · obtain rfl := Option.some.inj (hplace.symm.trans hq)
    exact ⟨file, hfile⟩

/-- No file is met first behind the end of a chain. -/
theorem EndsAt.le_of_firstMet {n m : Nat} {last : Place} (h : w.EndsAt start n last)
    (hfirst : w.FirstMet start m place) : m ≤ n := by
  have hnext : w.chain start (n + 1) = none := by rw [chain, h.1, Option.bind_some, h.2]
  by_contra hnot
  cases (chain_of_le hnext (Nat.lt_of_not_le hnot)).symm.trans hfirst.1

/-- No file is met first once the chain has come back. -/
theorem le_of_firstMet {m n k : Nat} {met : Place} (hmn : m ≤ n) (hm : w.chain start m = some met)
    (hn : w.chain start (n + 1) = some met) (hfirst : w.FirstMet start k place) : k ≤ n := by
  by_contra hnot
  obtain ⟨j, rfl⟩ := Nat.exists_eq_add_of_le (Nat.lt_of_not_le hnot)
  apply hfirst.2 (m + j) (by omega)
  rw [← hfirst.1, chain_add, chain_add, hm, Nat.succ_eq_add_one, hn]

/-- **What becomes of the options of a project file** on the chain from another one. -/
inductive ChainOutcome [Platform] (w : Workspace) (start : Place) (limit : Nat) (place : Place) :
    Except SettingsError (List (Scalar × Data)) → Prop
  | circular {m n : Nat} {met : Place} (hmn : m ≤ n) (hm : w.chain start m = some met)
      (hn : w.chain start (n + 1) = some met) (hread : w.Reads start (n + 1)) :
      ChainOutcome w start limit place
        (.error (.circularExtends (Path.ofAbsolute met).toString))
  | failed {n : Nat} {last : Place} {e : SettingsError} (hlimit : n ≤ limit)
      (hfirst : w.FirstMet start n last) (hread : w.Reads start n)
      (h : w.readProjectFile n last = .error e) : ChainOutcome w start limit place (.error e)
  | options {n : Nat} {last : Place} {options : List (Scalar × Data)} (hlimit : n ≤ limit)
      (hends : w.EndsAt start n last) (hread : w.Reads start (n + 1))
      (hvalues : ∀ name value, valueOf? options name = some value ↔
        w.IsEffective place name value) : ChainOutcome w start limit place (.ok options)

theorem result_remarkMissing (place : Place) (file : ProjectFile) :
    (remarkMissing place file).result = .ok () := by
  unfold remarkMissing
  cases file.relative <;> rfl

/-- One more file in front of the options. -/
theorem ChainOutcome.extend [Platform] {limit : Nat} {file : ProjectFile}
    {result : Except SettingsError (List (Scalar × Data))}
    (hfile : w.readProjectFile before place = .ok file) (hext : w.extended? place = some target)
    (h : w.ChainOutcome start limit target result) :
    w.ChainOutcome start limit place (result.map (updateKeys · file.options)) := by
  cases h with
  | circular hmn hm hn hread => exact .circular hmn hm hn hread
  | failed hlimit hfirst hread h => exact .failed hlimit hfirst hread h
  | options hlimit hends hread hvalues =>
    refine .options hlimit hends hread ?_
    intro name value
    rw [valueOf?_updateKeys_options hfile, isEffective_of_extended hext, Option.or_eq_some_iff,
      hvalues]

/-- **On the way along a chain**: a file is met for the first time, and those met before it are the
files of the chain up to it, all of which were read. -/
structure IsAt [Platform] (w : Workspace) (start : Place) (seen : List Place) (place : Place) :
    Prop where
  here : w.chain start seen.length = some place
  met (q : Place) : q ∈ seen ↔ ∃ m < seen.length, w.chain start m = some q
  first : place ∉ seen
  read : w.Reads start seen.length

namespace IsAt

variable {seen : List Place}

theorem nil [Platform] (w : Workspace) (start : Place) : w.IsAt start [] start where
  here := rfl
  met := by simp
  first := List.not_mem_nil
  read := by
    intro m hm
    cases hm

theorem firstMet [Platform] (h : w.IsAt start seen place) : w.FirstMet start seen.length place :=
  ⟨h.here, fun m hm hplace => h.first ((h.met place).2 ⟨m, hm, hplace⟩)⟩

theorem met_cons [Platform] (h : w.IsAt start seen place) (q : Place) :
    q ∈ place :: seen ↔ ∃ m < seen.length + 1, w.chain start m = some q := by
  rw [List.mem_cons, h.met]
  constructor
  · rintro (rfl | ⟨m, hm, hq⟩)
    · exact ⟨_, Nat.lt_succ_self _, h.here⟩
    · exact ⟨m, Nat.lt_succ_of_lt hm, hq⟩
  · rintro ⟨m, hm, hq⟩
    rcases Nat.lt_succ_iff_lt_or_eq.1 hm with hlt | rfl
    · exact .inr ⟨m, hlt, hq⟩
    · exact .inl (Option.some.inj (hq.symm.trans h.here))

theorem next [Platform] {file : ProjectFile} (h : w.IsAt start seen place)
    (hfile : w.readProjectFile seen.length place = .ok file)
    (hext : w.extended? place = some target)
    (hnew : target ∉ place :: seen) : w.IsAt start (place :: seen) target where
  here := by rw [List.length_cons, chain, h.here, Option.bind_some, hext]
  met := h.met_cons
  first := hnew
  read := h.read.succ h.here hfile

end IsAt

/-- **The options of a project file** on a chain are those from it on, unless the chain comes back
or a file of it cannot be read. -/
theorem outcome_compilerOptions [Platform] {seen : List Place} {limit : Nat}
    (h : w.IsAt start seen place) (hlimit : seen.length + w.tree.unmet (place :: seen) ≤ limit) :
    w.ChainOutcome start limit place (w.compilerOptions seen place).result := by
  -- by the files that have not been met, each step with the file itself among those met
  induction seen, place using compilerOptions.induct w with
  | case1 seen place ih =>
    cases hfile : w.readProjectFile seen.length place with
    | error e =>
      rw [compilerOptions_of_error hfile]
      exact .failed (by omega) h.firstMet h.read hfile
    | ok file =>
      have hext := extended?_of_ok hfile
      cases htarget : file.target.filter w.tree.isFile with
      | none =>
        rw [htarget] at hext
        rw [compilerOptions_of_last hfile htarget, Journaled.result_bind, result_remarkMissing]
        refine .options (by omega) ⟨h.here, hext⟩ (h.read.succ h.here hfile) ?_
        intro name value
        rw [valueOf?_updateKeys_options hfile, isEffective_of_last hext, Data.valueOf?_nil,
          Option.or_none]
      | some target =>
        rw [htarget] at hext
        by_cases hmet : target ∈ place :: seen
        · rw [compilerOptions_of_met hfile htarget hmet]
          obtain ⟨m, hm, hmet⟩ := (h.met_cons target).1 hmet
          refine .circular (Nat.lt_succ_iff.1 hm) hmet ?_ (h.read.succ h.here hfile)
          rw [chain, h.here, Option.bind_some, hext]
        · rw [compilerOptions_of_unmet hfile htarget hmet, Journaled.result_bind]
          have hfewer := FileTree.unmet_lt (Option.filter_eq_some_iff.1 htarget).2 hmet
          have hrest := ih file target htarget hmet (h.next hfile hext hmet) (by
            rw [List.length_cons]
            omega)
          exact hrest.extend hfile hext

theorem outcome_start [Platform] (w : Workspace) (start : Place) :
    w.ChainOutcome start w.tree.entries.length start (w.compilerOptions [] start).result := by
  apply outcome_compilerOptions (IsAt.nil w start)
  rw [List.length_nil, Nat.zero_add]
  exact List.countP_le_length

/-- No file of a chain breaks down where it is met. -/
def IsUnbroken [Platform] (w : Workspace) (start : Place) (n : Nat) : Prop :=
  ∀ m < n, ∀ place, w.FirstMet start m place → ∀ cause, ¬w.BreaksDown m place cause

namespace ChainOutcome

variable [Platform] {limit : Nat} {result : Except SettingsError (List (Scalar × Data))}
  (h : w.ChainOutcome start limit start result)

include h

/-- **Reading a chain breaks down** with the first of its files that does. -/
theorem eq_broken_iff {cause : Breakdown} : result = .error (.broken cause) ↔
    ∃ n place, w.FirstMet start n place ∧ w.BreaksDown n place cause ∧ w.IsUnbroken start n := by
  constructor
  · rintro rfl
    cases h with
    | failed _ hfirst hread hlast =>
      exact ⟨_, _, hfirst, breaksDown_iff.2 hlast,
        fun m hm place hplace cause => hread.not_breaksDown hm hplace.1⟩
  · rintro ⟨k, place, hplace, hbreaks, hearlier⟩
    cases h with
    | circular hmn hm hn hread =>
      have hle := le_of_firstMet hmn hm hn hplace
      exact absurd hbreaks (hread.not_breaksDown (Nat.lt_succ_of_le hle) hplace.1)
    | options _ hends hread _ =>
      have hle := hends.le_of_firstMet hplace
      exact absurd hbreaks (hread.not_breaksDown (Nat.lt_succ_of_le hle) hplace.1)
    | @failed n last e _ hfirst hread hlast =>
      rcases Nat.lt_trichotomy k n with hlt | rfl | hlt
      · exact absurd hbreaks (hread.not_breaksDown hlt hplace.1)
      · obtain rfl := Option.some.inj (hfirst.1.symm.trans hplace.1)
        rw [Except.error.inj (hlast.symm.trans (breaksDown_iff.1 hbreaks))]
      · -- the chain goes on behind the file, which therefore holds a map
        rcases readProjectFile_eq_error hlast with ⟨hfaulty, -⟩ | ⟨cause', -, hbreaks'⟩
        · have hends : w.EndsAt start n last := ⟨hfirst.1, hfaulty.extended?_eq_none⟩
          exact absurd (hends.le_of_firstMet hplace) (Nat.not_le.2 hlt)
        · exact absurd hbreaks' (hearlier n hlt last hfirst cause')

section Unbroken

variable (hplain : ∀ n, w.IsUnbroken start n)

include hplain

theorem ends : (∃ n ≤ limit, ∃ last, w.EndsAt start n last) ∨ ∃ met, w.Revisits start met := by
  cases h with
  | circular hmn hm hn _ => exact .inr ⟨_, _, _, Nat.lt_succ_of_le hmn, hm, hn⟩
  | options hlimit hends _ _ => exact .inl ⟨_, hlimit, _, hends⟩
  | failed hlimit hfirst _ hlast =>
    rcases readProjectFile_eq_error hlast with ⟨hfaulty, -⟩ | ⟨cause, -, hbreaks⟩
    · exact .inl ⟨_, hlimit, _, hfirst.1, hfaulty.extended?_eq_none⟩
    · exact absurd hbreaks (hplain _ _ (Nat.lt_succ_self _) _ hfirst cause)

/-- **When there is an error to report**, if no file of the chain breaks down. -/
theorem exists_error_iff : (∃ e, result = .error e ∧ e.breakdown? = none) ↔
    (∃ met, w.Revisits start met) ∨ ∃ place, w.OnChain start place ∧ w.IsFaulty place := by
  cases h with
  | circular hmn hm hn _ =>
    exact ⟨fun _ => .inl ⟨_, _, _, Nat.lt_succ_of_le hmn, hm, hn⟩, fun _ => ⟨_, rfl, rfl⟩⟩
  | failed _ hfirst _ hlast =>
    rcases readProjectFile_eq_error hlast with ⟨hfaulty, hreported⟩ | ⟨cause, -, hbreaks⟩
    · exact ⟨fun _ => .inr ⟨_, ⟨_, hfirst.1⟩, hfaulty⟩, fun _ => ⟨_, rfl, hreported⟩⟩
    · exact absurd hbreaks (hplain _ _ (Nat.lt_succ_self _) _ hfirst cause)
  | options _ hends hread _ =>
    refine ⟨nofun, ?_⟩
    rintro (⟨met, hmet⟩ | ⟨place, hchain, hfaulty⟩)
    · exact absurd hmet hends.not_revisits
    · -- a file at fault would be the last one, which was read
      obtain rfl := hends.eq_of_onChain hchain hfaulty.extended?_eq_none
      obtain ⟨file, hfile⟩ := hread _ (Nat.lt_succ_self _) place hends.1
      exact absurd hfaulty (not_isFaulty_of_ok hfile)

end Unbroken

end ChainOutcome

theorem ChainOutcome.valueOf?_eq_some_iff [Platform] {limit : Nat} {options : List (Scalar × Data)}
    (h : w.ChainOutcome start limit place (.ok options)) (name : WideText) (value : Data) :
    valueOf? options name = some value ↔ w.IsEffective place name value := by
  cases h with
  | options _ _ _ hvalues => exact hvalues name value

/-! ## Projects -/

/-- A table of aliases that is none: it counts as present and is no map. -/
def IsBadTable (table : Data) : Prop := table.isEmptyValue = false ∧ table.entries? = none

theorem aliasTable_of_bad (file : String) {table : Data} (h : IsBadTable table) :
    aliasTable file table = .error (.pathsNotObject file) := by
  obtain ⟨hpresent, hmap⟩ := h
  cases table with
  | map entries => cases hmap
  | _ => simp only [aliasTable, hpresent, Bool.false_eq_true, if_false]

theorem exists_aliasTable (file : String) {table : Data} (h : ¬IsBadTable table) :
    ∃ entries, aliasTable file table = .ok entries := by
  unfold aliasTable
  split
  · exact ⟨_, rfl⟩
  · rename_i hmap
    split
    · exact ⟨_, rfl⟩
    · rename_i hpresent
      refine absurd ⟨Bool.eq_false_iff.2 hpresent, ?_⟩ h
      cases table with
      | map entries => exact absurd rfl (hmap entries)
      | _ => rfl

theorem projectOf_of_bad (file : String) {options : List (Scalar × Data)} {table : Data}
    (hvalue : valueOf? options (.ofString "paths") = some table) (h : IsBadTable table) :
    projectOf file options = .error (.pathsNotObject file) := by
  rw [projectOf, Data.lookup?_eq options "paths", hvalue, Option.getD_some,
    aliasTable_of_bad file h]
  rfl

theorem projectOf_eq_error {file : String} {options : List (Scalar × Data)} {e : SettingsError}
    (h : projectOf file options = .error e) : e = .pathsNotObject file := by
  have htable := Except.eq_error_of_map h
  unfold aliasTable at htable
  split at htable
  · cases htable
  · split at htable
    · cases htable
    · exact (Except.error.inj htable).symm

theorem exists_projectOf (file : String) {options : List (Scalar × Data)}
    (h : ¬∃ table, valueOf? options (.ofString "paths") = some table ∧ IsBadTable table) :
    ∃ project, projectOf file options = .ok project := by
  have htable : ¬IsBadTable ((valueOf? options (.ofString "paths")).getD .null) := by
    cases hvalue : valueOf? options (.ofString "paths") with
    | none => exact fun hbad => Bool.noConfusion hbad.1
    | some table => exact fun hbad => h ⟨table, hvalue, hbad⟩
  obtain ⟨entries, hentries⟩ := exists_aliasTable file htable
  rw [← Data.lookup?_eq] at hentries
  exact ⟨_, by rw [projectOf, hentries]; rfl⟩

/-- **A project file that is refused**: its chain comes back to a file or has one at fault, or the
effective table of aliases is none. -/
inductive IsRefused (w : Workspace) (start : Place) : Prop
  | revisits {met : Place} (h : w.Revisits start met)
  | faulty {place : Place} (hchain : w.OnChain start place) (h : w.IsFaulty place)
  | badTable {table : Data} (heffective : w.IsEffective start (.ofString "paths") table)
      (h : IsBadTable table)

/-- **A project that is read from its chain**: the chain has no more steps than there are files or
comes back to one of them, there is an error to report exactly if the project file is refused, and
otherwise the project is that of the effective options. -/
structure FollowsChain [Platform] (w : Workspace) (file : String) (start : Place) : Prop where
  ends : (∃ n ≤ w.tree.entries.length, ∃ last, w.EndsAt start n last) ∨ ∃ met, w.Revisits start met
  refuses : (∃ e, (w.readProject file).result = .error e ∧ e.breakdown? = none) ↔ w.IsRefused start
  accepts (h : ¬w.IsRefused start) : ∃ options project,
    (w.compilerOptions [] start).result = .ok options ∧
      (∀ name value, valueOf? options name = some value ↔ w.IsEffective start name value) ∧
      projectOf file options = .ok project ∧ (w.readProject file).result = .ok project

theorem result_readProject [Platform] (w : Workspace) (file : String) :
    (w.readProject file).result =
      (w.compilerOptions [] (w.resolve (.ofString file))).result.bind (projectOf file) :=
  Journaled.result_bind _ _

section Reading

variable [Platform] {file : String} (hplain : ∀ n, w.IsUnbroken start n)

include hplain

/-- Options of a chain are refused for their table of aliases only. -/
theorem ChainOutcome.isRefused_iff {limit : Nat} {options : List (Scalar × Data)}
    (h : w.ChainOutcome start limit start (.ok options)) : w.IsRefused start ↔
      ∃ table, valueOf? options (.ofString "paths") = some table ∧ IsBadTable table := by
  have hsound := mt (h.exists_error_iff hplain).2 (by simp)
  have hvalues := h.valueOf?_eq_some_iff (.ofString "paths")
  constructor
  · rintro (hmet | ⟨hchain, hfaulty⟩ | ⟨heffective, hbad⟩)
    · exact absurd (.inl ⟨_, hmet⟩) hsound
    · exact absurd (.inr ⟨_, hchain, hfaulty⟩) hsound
    · exact ⟨_, (hvalues _).2 heffective, hbad⟩
  · rintro ⟨table, hvalue, hbad⟩
    exact .badTable ((hvalues table).1 hvalue) hbad

variable (hstart : w.resolve (.ofString file) = start)

include hstart

theorem followsChain_of_error {e : SettingsError}
    (hresult : (w.compilerOptions [] start).result = .error e) (he : e.breakdown? = none) :
    w.FollowsChain file start := by
  have houtcome := w.outcome_start start
  have hread : (w.readProject file).result = .error e := by
    rw [result_readProject, hstart, hresult]
    rfl
  have hrefused : w.IsRefused start := by
    rcases (houtcome.exists_error_iff hplain).1 ⟨e, hresult, he⟩ with
      ⟨met, hmet⟩ | ⟨place, hchain, hfaulty⟩
    · exact .revisits hmet
    · exact .faulty hchain hfaulty
  exact {
    ends := houtcome.ends hplain
    refuses := ⟨fun _ => hrefused, fun _ => ⟨e, hread, he⟩⟩
    accepts := fun h => absurd hrefused h }

theorem followsChain_of_ok {options : List (Scalar × Data)}
    (hresult : (w.compilerOptions [] start).result = .ok options) : w.FollowsChain file start := by
  have houtcome := w.outcome_start start
  have hread : (w.readProject file).result = projectOf file options := by
    rw [result_readProject, hstart, hresult]
    rfl
  refine { ends := houtcome.ends hplain, refuses := ?_, accepts := ?_ }
  all_goals
    rw [hresult] at houtcome
    rw [houtcome.isRefused_iff hplain]
  · rw [hread]
    constructor
    · rintro ⟨e, he, -⟩
      by_contra hsound
      obtain ⟨project, hproject⟩ := exists_projectOf file hsound
      cases hproject.symm.trans he
    · rintro ⟨table, hvalue, hbad⟩
      exact ⟨_, projectOf_of_bad file hvalue hbad, rfl⟩
  · intro hsound
    obtain ⟨project, hproject⟩ := exists_projectOf file hsound
    exact ⟨options, project, hresult, houtcome.valueOf?_eq_some_iff, hproject,
      hread.trans hproject⟩

omit hplain in
theorem readProject_eq_broken_iff {cause : Breakdown} :
    (w.readProject file).result = .error (.broken cause) ↔
      (w.compilerOptions [] start).result = .error (.broken cause) := by
  rw [result_readProject, hstart]
  cases hresult : (w.compilerOptions [] start).result with
  | error e => simp [Except.bind]
  | ok options =>
    refine ⟨fun h => ?_, nofun⟩
    cases projectOf_eq_error h

end Reading

/-- A breakdown is neither an error to report nor a project. -/
theorem FollowsChain.ne_broken [Platform] {file : String} (h : w.FollowsChain file start)
    (cause : Breakdown) : (w.readProject file).result ≠ .error (.broken cause) := by
  intro hbroken
  have hsound : ¬w.IsRefused start := by
    intro hrefused
    obtain ⟨e, he, hreported⟩ := h.refuses.2 hrefused
    obtain rfl := Except.error.inj (hbroken.symm.trans he)
    cases hreported
  obtain ⟨-, project, -, -, -, hproject⟩ := h.accepts hsound
  cases hbroken.symm.trans hproject

/-- **A project is read from its chain** exactly if no file on it breaks down where it is met, and
the breakdown of the first such file is that of reading the project. -/
theorem readProject_followsChain_iff [Platform] (w : Workspace) (file : String) :
    (w.FollowsChain file (w.resolve (.ofString file)) ↔
        ∀ n place, w.FirstMet (w.resolve (.ofString file)) n place →
          ∀ cause, ¬w.BreaksDown n place cause) ∧
      ∀ cause, (w.readProject file).result = .error (.broken cause) ↔
        ∃ n place, w.FirstMet (w.resolve (.ofString file)) n place ∧
          w.BreaksDown n place cause ∧ w.IsUnbroken (w.resolve (.ofString file)) n := by
  generalize hstart : w.resolve (.ofString file) = start
  have houtcome := w.outcome_start start
  have hbroken : ∀ cause, (w.readProject file).result = .error (.broken cause) ↔
      ∃ n place, w.FirstMet start n place ∧ w.BreaksDown n place cause ∧ w.IsUnbroken start n := by
    intro cause
    rw [readProject_eq_broken_iff hstart, houtcome.eq_broken_iff]
  refine ⟨⟨?_, ?_⟩, hbroken⟩
  · intro hfollows n
    -- the first file that breaks down would break the reading down
    induction n using Nat.strongRecOn with
    | ind n ih =>
      intro place hplace cause hbreaks
      exact hfollows.ne_broken cause ((hbroken cause).2 ⟨n, place, hplace, hbreaks, ih⟩)
  · intro hall
    have hplain : ∀ n, w.IsUnbroken start n := fun _ m _ => hall m
    cases hresult : (w.compilerOptions [] start).result with
    | ok options => exact followsChain_of_ok hplain hstart hresult
    | error e =>
      apply followsChain_of_error hplain hstart hresult
      cases e with
      | broken cause =>
        obtain ⟨n, place, hplace, hbreaks, -⟩ := houtcome.eq_broken_iff.1 hresult
        exact absurd hbreaks (hall n place hplace cause)
      | _ => rfl

/-- A project file that extends a name with the character that ends names. -/
def endedTree : Workspace where
  tree := ⟨[(["tsconfig.json"], .file
    "\x7bextends: './a\\u0000b', compilerOptions: \x7bbaseUrl: 'x'\x7d\x7d".toUTF8)]⟩

section Usual

attribute [local instance] Platform.usual

/-- Nothing about this project file is to be reported, but reading it breaks down. -/
theorem not_followsChain_endedTree :
    ¬endedTree.IsRefused ["tsconfig.json"] ∧
      (endedTree.readProject "tsconfig.json").result = .error (.broken .endedFileName) ∧
      ¬endedTree.FollowsChain "tsconfig.json" ["tsconfig.json"] := by
  have hfile : endedTree.readProjectFile 0 ["tsconfig.json"] =
      .error (.broken .endedFileName) := by
    have hcause : ((endedTree.readProjectFile 0 ["tsconfig.json"]).mapError
        SettingsError.breakdown?).map (fun _ => ()) = .error (some .endedFileName) := by
      decide +kernel
    obtain ⟨e, he, hcause⟩ := mapError_eq_error (Except.eq_error_of_map hcause)
    rw [he]
    cases e with
    | broken cause => rw [Option.some.inj hcause]
    | _ => cases hcause
  have hstart : endedTree.resolve (.ofString "tsconfig.json") = ["tsconfig.json"] := by decide
  have hmain := endedTree.readProject_followsChain_iff "tsconfig.json"
  rw [hstart] at hmain
  have hbroken := (hmain.2 .endedFileName).2
    ⟨0, _, ⟨rfl, by simp⟩, breaksDown_iff.2 hfile, fun m hm => absurd hm (Nat.not_lt_zero m)⟩
  have hends : endedTree.EndsAt ["tsconfig.json"] 0 ["tsconfig.json"] :=
    ⟨rfl, by decide +kernel⟩
  have hmap : ((endedTree.contents (.ofAbsolute ["tsconfig.json"])).toOption.bind
      Data.entries?).isSome = true := by
    decide +kernel
  refine ⟨?_, hbroken, fun hfollows => hfollows.ne_broken _ hbroken⟩
  rintro (hmet | ⟨hchain, hfaulty⟩ | ⟨heffective, -⟩)
  · exact hends.not_revisits hmet
  · obtain rfl := hends.eq_of_onChain hchain hfaulty.extended?_eq_none
    rcases hfaulty with ⟨path, fault, hread⟩ | ⟨data, hread, hnone⟩
    · rw [hread] at hmap
      cases hmap
    · rw [hread] at hmap
      simp [Except.toOption, hnone] at hmap
  · have hnone : (endedTree.ownOption? ["tsconfig.json"] (.ofString "paths")).isNone = true := by
      decide +kernel
    rw [isEffective_of_last hends.2] at heffective
    rw [heffective] at hnone
    cases hnone

end Usual

end Workspace

end ImportOrder
