import ImportOrder.Lint.Override
import ImportOrder.Platform.Usual
import ImportOrder.Proofs.Settings.GroupRules
import ImportOrder.Proofs.Settings.Layering
import ImportOrder.Settings.Reader
import Mathlib.Data.List.DropRight

/-!
# Resolved settings

Layers are laid over the defaults one after another. What comes out can be said without that order
of work: each setting has the value of the last layer that sets it, and the groups are those of the
last layer that replaces them, with the groups of all later layers behind them.

Resolving fails at the first layer that cannot be read, and else at the first group rule at fault.
The failure is an error that is reported, unless reporting it breaks down or the rule has a regular
expression that cannot even be rejected: a count that is too large, or options that exclude each
other.

## Main definitions

* `Layer.latest`, `Layer.lastReplacing`: the last layer that has a setting, or replaces the groups
* `Settings.ofLayers`: what layers on top of the defaults come to
* `Layer.openSettings`: the settings that a layer leaves open
* `Settings.BreaksDown`: layers of which the first defect is not reported
* `Settings.IsResolved`: settings from layers, with what lint rules add to them

## Main results

* `Settings.overrideAll_eq_ofLayers`: layers one after another, and all at once
* `Settings.resolveSources_iff`: when resolving gives settings, and which, and when it reports an
  error
* `Settings.openSettings_resolveSources`: what resolved settings leave open
* `Settings.IsResolved.exists_builtGroups`: resolved settings have groups
-/

namespace ImportOrder

namespace Layer

/-- Whether a layer replaces the groups of the layers below. -/
def replacesGroups (l : Layer) : Bool := l.groups.isSome && l.extendGroups != some true

/-- What the last layer that has a setting sets it to. -/
def latest {α : Type} (setting : Layer → Option α) (layers : List Layer) : Option α :=
  layers.reverse.findSome? setting

/-- The last layer that replaces the groups. -/
def lastReplacing (layers : List Layer) : Option Layer := layers.reverse.find? replacesGroups

/-- **The groups of layers on top of the defaults**: those of the last layer that replaces them, and
behind them those of all later layers. -/
def groupsOfAll (layers : List Layer) : List GroupRule :=
  ((lastReplacing layers).bind (·.groups)).getD defaultGroups ++
    (layers.rtakeWhile (!·.replacesGroups)).flatMap (·.groups.getD [])

/-- The mark of the groups of layers on top of the defaults. -/
def markOfAll (layers : List Layer) : Option Bool :=
  (lastReplacing layers).elim (some false) (·.extendGroups)

/-- **The settings that a layer leaves open**, by name. -/
def openSettings (l : Layer) : List String :=
  (([("groups", l.groups.isNone), ("extendGroups", l.extendGroups.isNone),
    ("sortBy", l.sortBy.isNone), ("caseSensitive", l.caseSensitive.isNone),
    ("sortNames", l.sortNames.isNone), ("typeOnlyLast", l.typeOnlyLast.isNone),
    ("emptyLinesBetweenGroups", l.emptyLinesBetweenGroups.isNone),
    ("mergeDuplicates", l.mergeDuplicates.isNone), ("quoteMark", l.quoteMark.isNone),
    ("semicolon", l.semicolon.isNone), ("bracketSpacing", l.bracketSpacing.isNone),
    ("trailingComma", l.trailingComma.isNone), ("maxLineLength", l.maxLineLength.isNone),
    ("tabSize", l.tabSize.isNone), ("eol", l.eol.isNone),
    ("fileCommentGap", l.fileCommentGap.isNone), ("ignoreLintRules", l.ignoreLintRules.isNone),
    ("exclude", l.exclude.isNone)] : List (String × Bool)).filter (·.2)).map (·.1)

variable {α : Type} {l : Layer}

theorem latest_concat (setting : Layer → Option α) (layers : List Layer) (l : Layer) :
    latest setting (layers ++ [l]) = (setting l).or (latest setting layers) := by
  rw [latest, List.reverse_concat, List.findSome?_cons]
  cases setting l with
  | none => rfl
  | some a => rfl

theorem lastReplacing_concat_of_replaces (layers : List Layer) (h : l.replacesGroups = true) :
    lastReplacing (layers ++ [l]) = some l := by
  rw [lastReplacing, List.reverse_concat, List.find?_cons_of_pos h]

theorem lastReplacing_concat_of_not (layers : List Layer) (h : l.replacesGroups = false) :
    lastReplacing (layers ++ [l]) = lastReplacing layers := by
  rw [lastReplacing, List.reverse_concat, List.find?_cons_of_neg (by simp [h]), lastReplacing]

theorem groupsOfAll_concat_of_replaces (layers : List Layer) (h : l.replacesGroups = true) :
    groupsOfAll (layers ++ [l]) = l.groups.getD defaultGroups := by
  rw [groupsOfAll, lastReplacing_concat_of_replaces layers h,
    List.rtakeWhile_concat_neg _ _ _ (by simp [h])]
  exact List.append_nil _

theorem groupsOfAll_concat_of_not (layers : List Layer) (h : l.replacesGroups = false) :
    groupsOfAll (layers ++ [l]) = groupsOfAll layers ++ l.groups.getD [] := by
  rw [groupsOfAll, lastReplacing_concat_of_not layers h,
    List.rtakeWhile_concat_pos _ _ _ (by simp [h]), List.flatMap_append, ← List.append_assoc,
    List.flatMap_singleton, groupsOfAll]

/-- The groups and the mark of layers on top of the defaults, and one more layer. -/
theorem mergeGroups_of_all (base : Layer) {layers : List Layer}
    (hgroups : base.groups = some (groupsOfAll layers))
    (hmark : base.extendGroups = markOfAll layers) (l : Layer) : mergeGroups base l =
      (some (groupsOfAll (layers ++ [l])), markOfAll (layers ++ [l])) := by
  cases hl : l.groups with
  | none =>
    have hnot : l.replacesGroups = false := by simp [replacesGroups, hl]
    simp only [mergeGroups, hl, hgroups, hmark, groupsOfAll_concat_of_not layers hnot, markOfAll,
      lastReplacing_concat_of_not layers hnot, Option.getD_none, List.append_nil]
  | some rules =>
    by_cases hext : l.extendGroups = some true
    · have hnot : l.replacesGroups = false := by simp [replacesGroups, hext]
      simp only [mergeGroups, hl, hext, if_true, hgroups, hmark,
        groupsOfAll_concat_of_not layers hnot, markOfAll, lastReplacing_concat_of_not layers hnot,
        Option.getD_some]
    · have hyes : l.replacesGroups = true := by simp [replacesGroups, hl, hext]
      simp only [mergeGroups, hl, hext, if_false, groupsOfAll_concat_of_replaces layers hyes,
        markOfAll, lastReplacing_concat_of_replaces layers hyes, Option.getD_some, Option.elim_some]

end Layer

namespace Settings

open Layer (latest lastReplacing groupsOfAll markOfAll)

/-- **What layers on top of the defaults come to**: each setting is that of the last layer that has
it, or else the default one. -/
def ofLayers (layers : List Layer) : Settings :=
  let defaults : Settings := {}
  { groups := groupsOfAll layers
    extendGroups := markOfAll layers
    sortBy := (latest (·.sortBy) layers).getD defaults.sortBy
    caseSensitive := (latest (·.caseSensitive) layers).getD defaults.caseSensitive
    sortNames := (latest (·.sortNames) layers).getD defaults.sortNames
    typeOnlyLast := (latest (·.typeOnlyLast) layers).getD defaults.typeOnlyLast
    emptyLinesBetweenGroups :=
      (latest (·.emptyLinesBetweenGroups) layers).getD defaults.emptyLinesBetweenGroups
    mergeDuplicates := (latest (·.mergeDuplicates) layers).getD defaults.mergeDuplicates
    quoteMark := (latest (·.quoteMark) layers).getD defaults.quoteMark
    semicolon := (latest (·.semicolon) layers).getD defaults.semicolon
    bracketSpacing := (latest (·.bracketSpacing) layers).getD defaults.bracketSpacing
    trailingComma := (latest (·.trailingComma) layers).getD defaults.trailingComma
    maxLineLength := (latest (·.maxLineLength) layers).getD defaults.maxLineLength
    tabSize := (latest (·.tabSize) layers).getD defaults.tabSize
    eol := (latest (·.eol) layers).getD defaults.eol
    fileCommentGap := (latest (·.fileCommentGap) layers).getD defaults.fileCommentGap
    ignoreLintRules := (latest (·.ignoreLintRules) layers).getD defaults.ignoreLintRules
    exclude := (latest (·.exclude) layers).getD defaults.exclude }

/-- One more layer on top. -/
theorem ofLayers_concat (layers : List Layer) (l : Layer) :
    ofLayers (layers ++ [l]) = (ofLayers layers).override l := by
  have hgroups := Layer.mergeGroups_of_all (ofLayers layers).toLayer rfl rfl l
  rw [override, hgroups]
  simp only [ofLayers, Layer.latest_concat, Option.getD_or, Option.getD_some]

/-- **Layers one after another, and all at once.** -/
theorem overrideAll_eq_ofLayers (layers : List Layer) :
    ({} : Settings).overrideAll layers = ofLayers layers := by
  induction layers using List.reverseRecOn with
  | nil => rfl
  | append_singleton layers l ih =>
    rw [overrideAll, List.foldl_concat, ofLayers_concat, ← ih, overrideAll]

/-! ## When settings can be resolved -/

/-- The layers that are given can be read, and are these. -/
def Reads [Platform] (strict : Bool) (sources : List LayerSource) (layers : List Layer) : Prop :=
  List.Forall₂ (fun source l => (source.read strict).result = .ok l) sources layers

/-- A rule behind others whose fault is not reported: the position that it shares cannot be
displayed, or the first pattern that cannot be read is a regular expression that breaks down. -/
def RuleBreaksDown [Platform] (before : List GroupRule) (r : GroupRule) : Prop :=
  if r.place before.length ∈ before.mapIdx GroupRule.place then
    canDisplayInt (r.place before.length) = false
  else ∃ ps p qs value cause, r.patterns = ps ++ p :: qs ∧ (∀ q ∈ ps, ¬Matcher.IsUnreadable q) ∧
    Matcher.IsOf "regex" value p ∧ Regex.parse value = .error (.broken cause)

/-- **Layers of which the first defect is not reported**: a layer that cannot be read for a reason
that cannot be put into words, or a group rule of this kind. -/
inductive BreaksDown [Platform] (strict : Bool) (sources : List LayerSource) : Prop
  | source {before after : List LayerSource} {source : LayerSource} {cause : Breakdown}
      (hsources : sources = before ++ source :: after)
      (hbefore : ∀ x ∈ before, ∃ l, (x.read strict).result = .ok l)
      (h : (source.read strict).result = .error (.broken cause)) : BreaksDown strict sources
  | rule {layers : List Layer} {before after : List GroupRule} {r : GroupRule}
      (hlayers : Reads strict sources layers) (hrules : groupsOfAll layers = before ++ r :: after)
      (hbefore : ¬Defective before) (h : RuleBreaksDown before r) : BreaksDown strict sources

variable {strict : Bool} {sources : List LayerSource} {layers : List Layer} {s : Settings}
  {e : SettingsError}

theorem result_resolveSources [Platform] (strict : Bool) (sources : List LayerSource) :
    (resolveSources strict sources).result =
      (sources.mapM fun source : LayerSource => (source.read strict).result).bind resolve := by
  rw [resolveSources, Journaled.result_bind, Journaled.result_forEach]
  rfl

theorem resolve_eq [Platform] (layers : List Layer) :
    resolve layers = (Group.build (groupsOfAll layers)).map fun _ => ofLayers layers := by
  rw [resolve, overrideAll_eq_ofLayers]
  rfl

/-- Settings are resolved if all layers can be read and the group rules are sound. -/
theorem resolveSources_eq_ok_iff [Platform] : (resolveSources strict sources).result = .ok s ↔
    ∃ layers, Reads strict sources layers ∧ ¬Defective (groupsOfAll layers) ∧
      s = ofLayers layers := by
  rw [result_resolveSources]
  constructor
  · intro h
    obtain ⟨layers, hlayers, h⟩ := Parser.ok_of_bind h
    rw [resolve_eq] at h
    obtain ⟨groups, hgroups, rfl⟩ := Except.exists_of_map_eq_ok h
    exact ⟨layers, mapM_eq_ok_iff.1 hlayers, Group.exists_build_iff.1 ⟨groups, hgroups⟩, rfl⟩
  · rintro ⟨layers, hlayers, hsound, rfl⟩
    obtain ⟨groups, hgroups⟩ := Group.exists_build_iff.2 hsound
    rw [mapM_eq_ok_iff.2 hlayers]
    show resolve layers = _
    rw [resolve_eq, hgroups]
    rfl

/-- The failure of resolving is that of the first layer that cannot be read, or else of the first
rule at fault. -/
theorem resolveSources_eq_error_iff [Platform] : (resolveSources strict sources).result = .error e ↔
    (∃ before, ∃ source : LayerSource, ∃ after, sources = before ++ source :: after ∧
      (∀ x ∈ before, ∃ l, (x.read strict).result = .ok l) ∧
      (source.read strict).result = .error e) ∨
    ∃ layers, Reads strict sources layers ∧ ∃ before r after,
      groupsOfAll layers = before ++ r :: after ∧ ¬Defective before ∧ RuleFault before r e := by
  rw [result_resolveSources]
  constructor
  · intro h
    rcases Except.bind_eq_error h with h | ⟨layers, hlayers, h⟩
    · exact .inl (mapM_eq_error_iff.1 h)
    · rw [resolve_eq] at h
      exact .inr ⟨layers, mapM_eq_ok_iff.1 hlayers,
        Group.build_eq_error_iff.1 (Except.eq_error_of_map h)⟩
  · rintro (h | ⟨layers, hlayers, h⟩)
    · rw [mapM_eq_error_iff.2 h]
      rfl
    · rw [mapM_eq_ok_iff.2 hlayers]
      show resolve layers = _
      rw [resolve_eq, Group.build_eq_error_iff.2 h]
      rfl

theorem worded_samePosition_eq_broken_iff [Platform] {first second : WideText} {position : Int} :
    (∃ cause, (SettingsError.samePosition first second position).worded = .broken cause) ↔
      canDisplayInt position = false := by
  rw [SettingsError.worded, SettingsError.displayFault?, Scalar.displayFault?]
  cases canDisplayInt position <;> simp

/-- The faults of rules that are not reported. -/
theorem exists_ruleFault_broken_iff [Platform] {before : List GroupRule} {r : GroupRule} :
    (∃ cause, RuleFault before r (.broken cause)) ↔ RuleBreaksDown before r := by
  unfold RuleBreaksDown
  constructor
  · rintro ⟨cause, h⟩
    -- The index of the inductive must be a variable before the cases are told apart.
    generalize he : SettingsError.broken cause = e at h
    cases h with
    | position h hplace =>
      rw [if_pos (mem_places_iff.2 ⟨_, _, h, hplace⟩)]
      exact worded_samePosition_eq_broken_iff.1 ⟨cause, he.symm⟩
    | pattern hfree h =>
      rw [if_neg hfree]
      obtain ⟨ps, p, qs, hpatterns, hps, hp⟩ := mapM_eq_error_iff.1 h
      obtain ⟨-, hunknown⟩ | ⟨value, rejection, hof, hrejection, hregex⟩ :=
        Matcher.compile_eq_error_iff.1 hp
      · rw [← he] at hunknown
        cases hunknown
      · cases rejection with
        | malformed =>
          rw [← he] at hregex
          cases hregex
        | broken cause' =>
          refine ⟨ps, p, qs, value, cause', hpatterns, fun q hq hbad => ?_, hof, hrejection⟩
          obtain ⟨m, hm⟩ := hps q hq
          obtain ⟨e', he'⟩ := Matcher.exists_compile_eq_error_iff.2 hbad
          rw [hm] at he'
          cases he'
  · intro h
    split at h
    · rename_i hplace
      obtain ⟨i, earlier, hi, hplace⟩ := mem_places_iff.1 hplace
      obtain ⟨cause, hcause⟩ := worded_samePosition_eq_broken_iff.2 h
      exact ⟨cause, hcause ▸ RuleFault.position hi hplace⟩
    · rename_i hfree
      obtain ⟨ps, p, qs, value, cause, hpatterns, hps, hof, hcause⟩ := h
      refine ⟨cause, .pattern hfree (mapM_eq_error_iff.2 ⟨ps, p, qs, hpatterns, ?_, ?_⟩)⟩
      · intro q hq
        cases hm : Matcher.compile q with
        | ok m => exact ⟨m, rfl⟩
        | error e => exact absurd (Matcher.exists_compile_eq_error_iff.1 ⟨e, hm⟩) (hps q hq)
      · exact Matcher.compile_eq_error_iff.2 (.inr ⟨value, .broken cause, hof, hcause, rfl⟩)

theorem breaksDown_iff [Platform] : BreaksDown strict sources ↔
    ∃ cause, (resolveSources strict sources).result = .error (.broken cause) := by
  simp only [resolveSources_eq_error_iff]
  constructor
  · rintro (⟨hsources, hbefore, h⟩ | ⟨hlayers, hrules, hbefore, h⟩)
    · exact ⟨_, .inl ⟨_, _, _, hsources, hbefore, h⟩⟩
    · obtain ⟨cause, hfault⟩ := exists_ruleFault_broken_iff.2 h
      exact ⟨cause, .inr ⟨_, hlayers, _, _, _, hrules, hbefore, hfault⟩⟩
  · rintro ⟨cause, ⟨before, source, after, hsources, hbefore, h⟩ |
      ⟨layers, hlayers, before, r, after, hrules, hbefore, h⟩⟩
    · exact .source hsources hbefore h
    · exact .rule hlayers hrules hbefore (exists_ruleFault_broken_iff.1 ⟨cause, h⟩)

section Usual

attribute [local instance] Platform.usual

end Usual

/-! ## What is left open -/

theorem toLayer_overrideAll (s : Settings) (layers : List Layer) :
    (s.overrideAll layers).toLayer = layers.foldl Layer.merge s.toLayer := by
  induction layers generalizing s with
  | nil => rfl
  | cons l layers ih =>
    rw [List.foldl_cons, ← toLayer_override]
    exact ih (s.override l)

/-- Complete settings leave at most the mark open. -/
theorem openSettings_toLayer (s : Settings) : s.toLayer.openSettings =
    if s.extendGroups = none then ["extendGroups"] else [] := by
  cases h : s.extendGroups with
  | none => simp [Layer.openSettings, toLayer, h]
  | some b => simp [Layer.openSettings, toLayer, h]

theorem markOfAll_eq_none_iff (layers : List Layer) : markOfAll layers = none ↔
    ∃ l, lastReplacing layers = some l ∧ l.extendGroups = none := by
  rw [markOfAll]
  cases lastReplacing layers with
  | none => simp
  | some l => simp

/-- **What resolved settings leave open**: nothing, unless the last layer that replaces the groups
has no mark, and then the mark. -/
theorem openSettings_resolveSources [Platform]
    (h : (resolveSources strict sources).result = .ok s) : ∃ layers, Reads strict sources layers ∧
      s.toLayer = layers.foldl Layer.merge ({} : Settings).toLayer ∧
      s.toLayer.openSettings ⊆ ["extendGroups"] ∧
      (s.toLayer.openSettings = [] ↔
        ∀ l, lastReplacing layers = some l → l.extendGroups ≠ none) := by
  obtain ⟨layers, hlayers, -, rfl⟩ := resolveSources_eq_ok_iff.1 h
  refine ⟨layers, hlayers, ?_, ?_, ?_⟩
  · rw [← overrideAll_eq_ofLayers, toLayer_overrideAll]
  · rw [openSettings_toLayer]
    split <;> simp
  · have hmark := markOfAll_eq_none_iff layers
    rw [openSettings_toLayer]
    show (if markOfAll layers = none then _ else _) = [] ↔ _
    split
    · rename_i hopen
      obtain ⟨l, hl, hext⟩ := hmark.1 hopen
      simp only [List.cons_ne_nil, false_iff]
      exact fun hall => hall l hl hext
    · rename_i hset
      simp only [true_iff]
      exact fun l hl hext => hset (hmark.2 ⟨l, hl, hext⟩)

/-- A layer that replaces the groups and has no mark. -/
def unmarked : List LayerSource :=
  [.data (.map [(.str "groups", .list [.str "builtin"])])]

section Usual

attribute [local instance] Platform.usual

/-- The mark of unmarked groups stays open. -/
theorem openSettings_unmarked : ∃ s, (resolveSources false unmarked).result = .ok s ∧
    s.toLayer.openSettings ≠ [] := by
  have h : (resolveSources false unmarked).result =
      .ok { groups := [⟨"builtin", ["builtin"], none⟩], extendGroups := none } := rfl
  obtain ⟨layers, hlayers, -, -, hopen⟩ := openSettings_resolveSources h
  have hread : layers = [{ groups := some [⟨"builtin", ["builtin"], none⟩] }] :=
    Except.ok.inj ((mapM_eq_ok_iff.2 hlayers).symm.trans rfl)
  subst hread
  exact ⟨_, h, fun hnone => hopen.1 hnone _ rfl rfl⟩

end Usual

/-! ## Settings to format with -/

/-- **Settings that were resolved** from layers, with what lint rules ask for on top or without. -/
inductive IsResolved [Platform] : Settings → Prop
  | plain {strict : Bool} {sources : List LayerSource} {s : Settings}
      (h : (resolveSources strict sources).result = .ok s) : IsResolved s
  | overridden {strict : Bool} {sources : List LayerSource} {s : Settings} (rules : LintRules)
      (ignored : List WideText) (h : (resolveSources strict sources).result = .ok s) :
      IsResolved (s.override (rules.overrides ignored))

/-- Resolved settings have groups. -/
theorem IsResolved.exists_builtGroups [Platform] (h : s.IsResolved) :
    ∃ groups, s.builtGroups = .ok groups := by
  have hplain : ∀ {strict sources s}, (resolveSources strict sources).result = .ok s →
      ∃ groups, s.builtGroups = .ok groups := by
    intro strict sources s h
    obtain ⟨layers, -, hsound, rfl⟩ := resolveSources_eq_ok_iff.1 h
    exact Group.exists_build_iff.2 hsound
  cases h with
  | plain h => exact hplain h
  | overridden rules ignored h =>
    obtain ⟨groups, hgroups⟩ := hplain h
    exact ⟨groups, hgroups⟩

end Settings

end ImportOrder
