import ImportOrder.Lint.Discovery
import ImportOrder.Platform.Usual
import ImportOrder.Proofs.Files.Keys
import Mathlib.Data.List.Infix

/-!
# The nearest linter rules

The linter's settings are looked for in the directory of a source file and in those above it. The
first settings file of a directory is its only one, also if it cannot be read, and the package file
is asked where there is none. What a rule is set to is found in the nearest directory that has it,
unless a directory in between is the root.

## Main definitions

* `Workspace.ReadsLintFile`: what a linter settings file is read as
* `Workspace.Contributes`: the linter settings of a directory
* `Workspace.NearestRule`: the value of a rule in the nearest directory that has it

## Main results

* `Workspace.result_lintData_iff`: which settings are taken from a directory
* `Workspace.findSome?_collectRules_enclosing`: the rules of a directory and those above it
* `Workspace.lintRulesFor_nearest`: the rules for a source file are the nearest ones
-/

namespace ImportOrder

namespace Workspace

open Data (lookup? valueOf? names)

variable {w : Workspace} {dir : Place} {entries : List (Scalar × Data)} {name : WideText}
  {value : Data}

/-! ## The settings of a directory -/

/-- **What a linter settings file is read as.** The name says the format, but a name without one may
hold either: it is read as YAML if it is no JSON. -/
inductive ReadsLintFile [Platform] (w : Workspace) (dir : Place) : String → Data → Prop
  | yaml {file : String} {data : Data} (hname : file = ".eslintrc.yaml" ∨ file = ".eslintrc.yml")
      (h : w.readData .yaml (.ofAbsolute (dir ++ [file])) = .ok data) :
      ReadsLintFile w dir file data
  | json {file : String} {data : Data} (hname : file = ".eslintrc.json" ∨ file = ".eslintrc")
      (h : w.readData .json (.ofAbsolute (dir ++ [file])) = .ok data) :
      ReadsLintFile w dir file data
  | noJson {file : String} {data : Data} (hname : file = ".eslintrc") {shown : String}
      {fault : ReadFault} (hjson : w.readData .json (.ofAbsolute (dir ++ [file])) =
        .error (.unreadableFile shown fault))
      (h : w.readData .yaml (.ofAbsolute (dir ++ [file])) = .ok data) :
      ReadsLintFile w dir file data

/-- The first linter settings file of a directory. -/
def lintFile? (w : Workspace) (dir : Place) : Option String :=
  [".eslintrc.yaml", ".eslintrc.yml", ".eslintrc.json", ".eslintrc"].find? fun file =>
    w.tree.isFile (dir ++ [file])

/-- **The linter settings of a directory**: those of its first settings file if it can be read as a
map, or what a package file holds for the linter if there is no such file. -/
inductive Contributes [Platform] (w : Workspace) (dir : Place) : List (Scalar × Data) → Prop
  | file {file : String} {entries : List (Scalar × Data)} (hfirst : w.lintFile? dir = some file)
      (hread : w.ReadsLintFile dir file (.map entries)) : Contributes w dir entries
  | package {data : Data} {entries : List (Scalar × Data)} (hnone : w.lintFile? dir = none)
      (hfile : w.tree.isFile (dir ++ ["package.json"]) = true)
      (hread : w.readData .json (.ofAbsolute (dir ++ ["package.json"])) = .ok data)
      (hkey : data.field? "eslintConfig" = some (.map entries)) : Contributes w dir entries

theorem readFirst_pair_iff [Platform] {p : Path} {data : Data} :
    w.readFirst p [.json, .yaml] = .ok data ↔ w.readData .json p = .ok data ∨
      (∃ file fault, w.readData .json p = .error (.unreadableFile file fault)) ∧
        w.readData .yaml p = .ok data := by
  cases h : w.readData .json p with
  | ok data' => simp [readFirst, h]
  | error e =>
    rcases readWith_eq_error h with ⟨cause, rfl⟩ | ⟨fault, rfl⟩
    · simp [readFirst, h]
    · simp [readFirst, h]

theorem map_find?_lintFiles (w : Workspace) (dir : Place) :
    (lintFiles.find? fun f => w.tree.isFile (dir ++ [f.1])).map Prod.fst = w.lintFile? dir := by
  show _ = (lintFiles.map Prod.fst).find? _
  rw [List.find?_map]
  rfl

/-- Each settings file is read in the formats that belong to its name. -/
theorem readsLintFile_iff [Platform] {file : String} {formats : List DataFormat}
    (hfile : (file, formats) ∈ lintFiles) {data : Data} :
    w.ReadsLintFile dir file data ↔
      w.readFirst (.ofAbsolute (dir ++ [file])) formats = .ok data := by
  simp only [lintFiles, List.mem_cons, Prod.mk.injEq, List.not_mem_nil, or_false] at hfile
  rcases hfile with ⟨rfl, rfl⟩ | ⟨rfl, rfl⟩ | ⟨rfl, rfl⟩ | ⟨rfl, rfl⟩
  · constructor
    · rintro (⟨-, h⟩ | ⟨hname, -⟩ | ⟨hname, -, -⟩)
      · exact h
      · simp at hname
      · simp at hname
    · exact .yaml (.inl rfl)
  · constructor
    · rintro (⟨-, h⟩ | ⟨hname, -⟩ | ⟨hname, -, -⟩)
      · exact h
      · simp at hname
      · simp at hname
    · exact .yaml (.inr rfl)
  · constructor
    · rintro (⟨hname, -⟩ | ⟨-, h⟩ | ⟨hname, -, -⟩)
      · simp at hname
      · exact h
      · simp at hname
    · exact .json (.inl rfl)
  · rw [readFirst_pair_iff]
    constructor
    · rintro (⟨hname, -⟩ | ⟨-, h⟩ | ⟨-, hjson, h⟩)
      · simp at hname
      · exact .inl h
      · exact .inr ⟨⟨_, _, hjson⟩, h⟩
    · rintro (h | ⟨⟨shown, fault, hjson⟩, h⟩)
      · exact .json (.inr rfl) h
      · exact .noJson rfl hjson h

/-- What is taken from a settings file: the data that it is read as, if this is a map. -/
theorem result_lintData_file [Platform] {file : String} {formats : List DataFormat}
    (hfind : lintFiles.find? (fun f => w.tree.isFile (dir ++ [f.1])) = some (file, formats))
    {data : Data} : (w.lintData dir).result = .ok (some data) ↔
      w.ReadsLintFile dir file data ∧ data.entries?.isSome = true := by
  rw [readsLintFile_iff (List.mem_of_find?_eq_some hfind)]
  unfold lintData
  rw [hfind]
  cases hread : w.readFirst (.ofAbsolute (dir ++ [file])) formats with
  | ok data' =>
    simp only [hread, Journaled.result_pure, Except.ok.injEq]
    constructor
    · intro h
      split at h
      · rename_i hmap
        obtain rfl := Option.some.inj h
        exact ⟨rfl, hmap⟩
      · cases h
    · rintro ⟨rfl, hmap⟩
      rw [if_pos hmap]
  | error e =>
    simp only [hread, reduceCtorEq, false_and, iff_false]
    intro h
    split at h
    · rename_i heq
      cases heq
    · cases h
    · obtain ⟨-, -, h⟩ := Journaled.bind_eq_ok_iff.1 h
      cases h

/-- What is taken from a package file. -/
theorem result_lintData_package [Platform]
    (hfind : lintFiles.find? (fun f => w.tree.isFile (dir ++ [f.1])) = none) {data : Data} :
    (w.lintData dir).result = .ok (some data) ↔
      w.tree.isFile (dir ++ [packageFileName]) = true ∧
        ∃ package, w.readJson (.ofAbsolute (dir ++ [packageFileName])) = .ok package ∧
          package.field? lintPackageKey = some data ∧ data.entries?.isSome = true := by
  unfold lintData
  rw [hfind]
  simp only
  by_cases hfile : w.tree.isFile (dir ++ [packageFileName]) = true
  · rw [if_pos hfile, Journaled.bind_eq_ok_iff]
    simp [hfile, Option.filter_eq_some_iff]
  · rw [if_neg hfile]
    simp [hfile]

/-- **Which settings are taken from a directory.** -/
theorem result_lintData_iff [Platform] {data : Data} : (w.lintData dir).result = .ok (some data) ↔
    ∃ entries, data = .map entries ∧ w.Contributes dir entries := by
  have hmap : data.entries?.isSome = true ↔ ∃ entries, data = .map entries := by
    cases data <;> simp [Data.entries?]
  cases hfind : lintFiles.find? fun f => w.tree.isFile (dir ++ [f.1]) with
  | none =>
    have hnone : w.lintFile? dir = none := by rw [← map_find?_lintFiles, hfind, Option.map_none]
    rw [result_lintData_package hfind]
    constructor
    · rintro ⟨hfile, package, hread, hkey, hsome⟩
      obtain ⟨entries, rfl⟩ := hmap.1 hsome
      exact ⟨entries, rfl, .package hnone hfile hread hkey⟩
    · rintro ⟨entries, rfl, ⟨hfirst, -⟩ | ⟨-, hfile, hread, hkey⟩⟩
      · rw [hnone] at hfirst
        cases hfirst
      · exact ⟨hfile, _, hread, hkey, rfl⟩
  | some f =>
    obtain ⟨file, formats⟩ := f
    have hfirst : w.lintFile? dir = some file := by
      rw [← map_find?_lintFiles, hfind, Option.map_some]
    rw [result_lintData_file hfind]
    constructor
    · rintro ⟨hread, hsome⟩
      obtain ⟨entries, rfl⟩ := hmap.1 hsome
      exact ⟨entries, rfl, .file hfirst hread⟩
    · rintro ⟨entries, rfl, ⟨hfirst', hread⟩ | ⟨hnone, -⟩⟩
      · obtain rfl := Option.some.inj (hfirst.symm.trans hfirst')
        exact ⟨hread, rfl⟩
      · rw [hfirst] at hnone
        cases hnone

theorem Contributes.result_lintData [Platform] (h : w.Contributes dir entries) :
    (w.lintData dir).result = .ok (some (.map entries)) :=
  result_lintData_iff.2 ⟨entries, rfl, h⟩

theorem Contributes.unique [Platform] {entries' : List (Scalar × Data)}
    (h : w.Contributes dir entries) (h' : w.Contributes dir entries') : entries = entries' := by
  have heq := h.result_lintData.symm.trans h'.result_lintData
  exact Data.map.inj (Option.some.inj (Except.ok.inj heq))

/-- The settings of a directory are those of a file. -/
theorem Contributes.wellFormed [Platform] (h : w.Contributes dir entries) :
    Data.WellFormed (.map entries) := by
  cases h with
  | file _ hread =>
    cases hread with
    | yaml _ h => exact wellFormed_readData h
    | json _ h => exact wellFormed_readData h
    | noJson _ _ h => exact wellFormed_readData h
  | package _ _ hread hkey => exact (wellFormed_readData hread).field? hkey

/-! ## The nearest directory -/

/-- What the rules among linter settings set a rule to. -/
def ruleOf? (entries : List (Scalar × Data)) (name : WideText) : Option Data :=
  ((lookup? entries "rules").bind Data.entries?).bind (valueOf? · name)

/-- **The value of a rule in the nearest directory that has it**, from a directory upward. No
directory on the way is the root. -/
def NearestRule [Platform] (w : Workspace) (start : Place) (name : WideText) (value : Data) :
    Prop :=
  ∃ dir entries, dir <+: start ∧ w.Contributes dir entries ∧ ruleOf? entries name = some value ∧
    ∀ nearer es, nearer <+: start → dir.length < nearer.length → w.Contributes nearer es →
      lookup? es "root" ≠ some (.bool true) ∧ ruleOf? es name = none

theorem enclosing_concat (dir : Place) (c : String) :
    enclosing (dir ++ [c]) = (dir ++ [c]) :: enclosing dir := by
  simp [enclosing, enclosing.outward]

/-- One directory decides about a rule, or leaves it to those above. -/
theorem nearestRule_concat [Platform] {c : String} : w.NearestRule (dir ++ [c]) name value ↔
    (∃ entries, w.Contributes (dir ++ [c]) entries ∧ ruleOf? entries name = some value) ∨
      (∀ entries, w.Contributes (dir ++ [c]) entries →
        lookup? entries "root" ≠ some (.bool true) ∧ ruleOf? entries name = none) ∧
      w.NearestRule dir name value := by
  constructor
  · rintro ⟨found, entries, hup, hentries, hvalue, hnearer⟩
    rcases List.prefix_concat_iff.1 hup with rfl | hup
    · exact .inl ⟨entries, hentries, hvalue⟩
    · refine .inr ⟨?_, found, entries, hup, hentries, hvalue, ?_⟩
      · intro es hes
        have hlength := hup.length_le
        exact hnearer (dir ++ [c]) es (List.prefix_refl _) (by simp; omega) hes
      · intro nearer es hnear
        exact hnearer nearer es (hnear.trans (List.prefix_append dir [c]))
  · rintro (⟨entries, hentries, hvalue⟩ | ⟨hpass, found, entries, hup, hentries, hvalue, hnearer⟩)
    · refine ⟨dir ++ [c], entries, List.prefix_refl _, hentries, hvalue, ?_⟩
      intro nearer es hnear hlonger
      exact absurd hnear.length_le (Nat.not_le.2 hlonger)
    · refine ⟨found, entries, hup.trans (List.prefix_append dir [c]), hentries, hvalue, ?_⟩
      intro nearer es hnear hlonger hes
      rcases List.prefix_concat_iff.1 hnear with rfl | hnear
      · exact hpass es hes
      · exact hnearer nearer es hnear hlonger hes

theorem nearestRule_nil [Platform] : w.NearestRule [] name value ↔
    ∃ entries, w.Contributes [] entries ∧ ruleOf? entries name = some value := by
  constructor
  · rintro ⟨found, entries, hup, hentries, hvalue, -⟩
    obtain rfl := List.prefix_nil.1 hup
    exact ⟨entries, hentries, hvalue⟩
  · rintro ⟨entries, hentries, hvalue⟩
    refine ⟨[], entries, List.prefix_refl _, hentries, hvalue, ?_⟩
    intro nearer es hnear hlonger
    rw [List.prefix_nil.1 hnear] at hlonger
    exact absurd hlonger (Nat.lt_irrefl _)

/-! ## The rules of all directories -/

theorem isLintRoot_iff : isLintRoot (.map entries) = true ↔
    lookup? entries "root" = some (.bool true) := by
  unfold isLintRoot
  split
  · rename_i h
    exact iff_of_true rfl h
  · rename_i h
    exact iff_of_false (by simp) h

theorem valueOf?_rulesOf (entries : List (Scalar × Data)) (name : WideText) :
    valueOf? (rulesOf (.map entries)) name = ruleOf? entries name := by
  unfold rulesOf ruleOf?
  show valueOf? (((lookup? entries "rules").bind Data.entries?).getD []) name = _
  cases (lookup? entries "rules").bind Data.entries? <;> rfl

theorem names_rulesOf_nodup (h : Data.WellFormed (.map entries)) :
    (names (rulesOf (.map entries))).Nodup := by
  unfold rulesOf
  cases hrules : ((Data.map entries).field? "rules").bind Data.entries? with
  | none => exact List.nodup_nil
  | some rules =>
    obtain ⟨data, hfield, hdata⟩ := Option.bind_eq_some_iff.1 hrules
    cases data <;> simp only [Data.entries?, reduceCtorEq, Option.some.injEq] at hdata
    subst hdata
    exact (h.field? hfield).names_nodup

/-- What collecting does in one directory. -/
theorem collectRules_cons [Platform] {dirs : List Place} {layers : List LintRules}
    (h : (w.collectRules (dir :: dirs)).result = .ok layers) :
    ((∀ entries, ¬w.Contributes dir entries) ∧ (w.collectRules dirs).result = .ok layers) ∨
      ∃ entries, w.Contributes dir entries ∧
        (lookup? entries "root" = some (.bool true) ∧ layers = [rulesOf (.map entries)] ∨
          lookup? entries "root" ≠ some (.bool true) ∧
            ∃ above, (w.collectRules dirs).result = .ok above ∧
              layers = rulesOf (.map entries) :: above) := by
  rw [collectRules] at h
  obtain ⟨found, hfound, h⟩ := Journaled.bind_eq_ok_iff.1 h
  cases found with
  | none =>
    refine .inl ⟨?_, h⟩
    intro entries hentries
    rw [hentries.result_lintData] at hfound
    cases hfound
  | some data =>
    obtain ⟨entries, rfl, hentries⟩ := result_lintData_iff.1 hfound
    refine .inr ⟨entries, hentries, ?_⟩
    simp only at h
    split at h
    · rename_i hroot
      exact .inl ⟨isLintRoot_iff.1 hroot, (Except.ok.inj h).symm⟩
    · rename_i hroot
      obtain ⟨above, habove, h⟩ := Journaled.bind_eq_ok_iff.1 h
      exact .inr ⟨fun hlook => hroot (isLintRoot_iff.2 hlook), above, habove,
        (Except.ok.inj h).symm⟩

/-- The first of the layers that has a rule, if one more directory is looked at. -/
theorem findSome?_collectRules_cons [Platform] {dirs : List Place} {layers : List LintRules}
    (h : (w.collectRules (dir :: dirs)).result = .ok layers) (above : Prop)
    (habove : ∀ rest, (w.collectRules dirs).result = .ok rest →
      (rest.findSome? (valueOf? · name) = some value ↔ above)) :
    layers.findSome? (valueOf? · name) = some value ↔
      (∃ entries, w.Contributes dir entries ∧ ruleOf? entries name = some value) ∨
        (∀ entries, w.Contributes dir entries →
          lookup? entries "root" ≠ some (.bool true) ∧ ruleOf? entries name = none) ∧ above := by
  rcases collectRules_cons h with ⟨hnone, hrest⟩ | ⟨entries, hentries, hlayers⟩
  · rw [habove layers hrest]
    constructor
    · intro hup
      exact .inr ⟨fun entries hentries => absurd hentries (hnone entries), hup⟩
    · rintro (⟨entries, hentries, -⟩ | ⟨-, hup⟩)
      · exact absurd hentries (hnone entries)
      · exact hup
  · have hleft : (∃ es, w.Contributes dir es ∧ ruleOf? es name = some value) ↔
        ruleOf? entries name = some value := by
      constructor
      · rintro ⟨es, hes, hvalue⟩
        rwa [hentries.unique hes]
      · intro hvalue
        exact ⟨entries, hentries, hvalue⟩
    have hright : (∀ es, w.Contributes dir es →
        lookup? es "root" ≠ some (.bool true) ∧ ruleOf? es name = none) ↔
        lookup? entries "root" ≠ some (.bool true) ∧ ruleOf? entries name = none := by
      constructor
      · intro hall
        exact hall entries hentries
      · intro hpass es hes
        rwa [← hentries.unique hes]
    rw [hleft, hright]
    -- A root ends the search; otherwise its rules come before those above.
    rcases hlayers with ⟨hroot, rfl⟩ | ⟨hroot, rest, hrest, rfl⟩
    · simp [valueOf?_rulesOf, hroot]
    · rw [List.findSome?_cons, valueOf?_rulesOf]
      cases hrule : ruleOf? entries name with
      | none => simp [hroot, habove rest hrest]
      | some found => simp

/-- **The rules of a directory and those above it**: the first layer that has a rule is that of the
nearest directory that has it. -/
theorem findSome?_collectRules_enclosing [Platform] {layers : List LintRules}
    (h : (w.collectRules (enclosing dir)).result = .ok layers) :
    layers.findSome? (valueOf? · name) = some value ↔ w.NearestRule dir name value := by
  induction dir using List.reverseRecOn generalizing layers with
  | nil =>
    rw [nearestRule_nil, findSome?_collectRules_cons h False]
    · simp
    · intro rest hrest
      obtain rfl := Except.ok.inj hrest
      simp
  | append_singleton dir c ih =>
    rw [enclosing_concat] at h
    rw [nearestRule_concat]
    exact findSome?_collectRules_cons h _ fun rest hrest => ih hrest

/-- Each layer has each of its names once. -/
theorem names_nodup_of_collectRules [Platform] {dirs : List Place} {layers : List LintRules}
    (h : (w.collectRules dirs).result = .ok layers) :
    ∀ rules ∈ layers, (names rules).Nodup := by
  induction dirs generalizing layers with
  | nil =>
    obtain rfl := Except.ok.inj h
    simp
  | cons dir dirs ih =>
    rcases collectRules_cons h with ⟨-, hrest⟩ | ⟨entries, hentries, hlayers⟩
    · exact ih hrest
    · have hfirst := names_rulesOf_nodup hentries.wellFormed
      rcases hlayers with ⟨-, rfl⟩ | ⟨-, above, habove, rfl⟩
      · simpa using hfirst
      · simpa using ⟨hfirst, ih habove⟩

/-- Layers on top of each other: the value of a name is that of the first layer that has it. -/
theorem valueOf?_foldr_updateKeys {layers : List LintRules}
    (h : ∀ rules ∈ layers, (names rules).Nodup) (name : WideText) :
    valueOf? (layers.foldr (fun rules base => Data.updateKeys base rules) []) name =
      layers.findSome? (valueOf? · name) := by
  induction layers with
  | nil => rfl
  | cons rules layers ih =>
    rw [List.foldr_cons, Data.valueOf?_updateKeys (h rules (by simp)),
      ih fun rs hrs => h rs (by simp [hrs]), List.findSome?_cons]
    cases valueOf? rules name <;> rfl

theorem nodup_foldr_updateKeys (layers : List LintRules) :
    (names (layers.foldr (fun rules base => Data.updateKeys base rules) [])).Nodup := by
  induction layers with
  | nil => exact List.nodup_nil
  | cons rules layers ih => exact Data.nodup_updateKeys ih rules

/-- **The rules for a source file are the nearest ones.** A directory has the linter settings of one
file at most. Each rule for a source file is there once, and it is set to what it is set to in the
nearest directory that has it, from the directory of the file up to a root. Rules that no such
directory has are absent. -/
theorem lintRulesFor_nearest [Platform] {file : Path} {rules : LintRules}
    (h : (w.lintRulesFor file).result = .ok rules) :
    (∀ dir entries entries', w.Contributes dir entries → w.Contributes dir entries' →
      entries = entries') ∧ (names rules).Nodup ∧
      ∀ name value, valueOf? rules name = some value ↔
        w.NearestRule (w.resolve file).dropLast name value := by
  obtain ⟨layers, hlayers, hret⟩ := Journaled.bind_eq_ok_iff.1 h
  obtain rfl := Except.ok.inj hret
  refine ⟨fun dir entries entries' => Contributes.unique, nodup_foldr_updateKeys layers, ?_⟩
  intro name value
  rw [valueOf?_foldr_updateKeys (names_nodup_of_collectRules hlayers)]
  exact findSome?_collectRules_enclosing hlayers

/-- A tree with linter settings in three directories. The middle one declares itself the root, and
the innermost has a settings file beside its package file. -/
def lintedTree : Workspace where
  tree := ⟨[(["p"], .directory), (["p", "q"], .directory),
    ([".eslintrc.json"], .file "\x7brules: \x7beqeqeq: 1\x7d\x7d".toUTF8),
    (["p", "package.json"], .file
      "\x7beslintConfig: \x7broot: true, rules: \x7bsemi: 2, quotes: 3\x7d\x7d\x7d".toUTF8),
    (["p", "q", ".eslintrc"], .file "rules:\n  semi: 1\n".toUTF8),
    (["p", "q", "package.json"], .file "\x7beslintConfig: \x7broot: true\x7d\x7d".toUTF8)]⟩

section Usual

attribute [local instance] Platform.usual

/-- The settings file hides the package file beside it, and the outermost rules do not count. -/
theorem lintRulesFor_lintedTree : ∃ rules,
    (lintedTree.lintRulesFor (.ofString "p/q/a.ts")).result = .ok rules ∧
      lintedTree.NearestRule ["p", "q"] (.ofString "semi") (.int 1) ∧
      lintedTree.NearestRule ["p", "q"] (.ofString "quotes") (.int 3) ∧
      ∀ value, ¬lintedTree.NearestRule ["p", "q"] (.ofString "eqeqeq") value := by
  have hvalues : (lintedTree.lintRulesFor (.ofString "p/q/a.ts")).result.toOption.map (fun rules =>
      ((valueOf? rules (.ofString "semi")).bind Data.int?,
        (valueOf? rules (.ofString "quotes")).bind Data.int?,
        (valueOf? rules (.ofString "eqeqeq")).isNone)) = some (some 1, some 3, true) := by
    decide +kernel
  obtain ⟨rules, hrules, hread⟩ := Option.map_eq_some_iff.1 hvalues
  have hrules := Except.eq_ok_of_toOption hrules
  have hdir : (lintedTree.resolve (.ofString "p/q/a.ts")).dropLast = ["p", "q"] := by
    decide +kernel
  have hnearest := (lintRulesFor_nearest hrules).2.2
  rw [hdir] at hnearest
  obtain ⟨hsemi, hquotes, hno⟩ : _ ∧ _ ∧ _ := by simpa only [Prod.mk.injEq] using hread
  have hint : ∀ {data : Option Data} {n : Int}, data.bind Data.int? = some n →
      data = some (.int n) := by
    intro data n h
    obtain ⟨d, rfl, hd⟩ := Option.bind_eq_some_iff.1 h
    unfold Data.int? at hd
    split at hd
    · rw [Option.some.inj hd]
    · cases hd
  refine ⟨rules, hrules, (hnearest _ _).1 (hint hsemi), (hnearest _ _).1 (hint hquotes), ?_⟩
  intro value hvalue
  rw [(hnearest _ _).2 hvalue] at hno
  cases hno

end Usual

end Workspace

end ImportOrder
