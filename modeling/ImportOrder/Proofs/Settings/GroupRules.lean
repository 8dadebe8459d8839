import ImportOrder.Proofs.Results
import ImportOrder.Settings.Basic
import Mathlib.Data.List.Induction
import Mathlib.Data.List.Nodup

/-!
# Sound group rules

Group rules are read one after another, and reading stops at the first rule that has the position of
an earlier one or a pattern that cannot be read. Whether the rules are sound does not depend on that
order: no two have the same position, and each pattern is known and, if it is a regular expression,
well-formed. The order decides only what the failure is.

## Main definitions

* `Matcher.IsKnown`: a pattern that is a word, or a kind and a value
* `GroupRule.place`: the position of a rule, by default its index
* `Defective`: rules that are not sound
* `RuleFault`: what is wrong with a rule behind others

## Main results

* `Matcher.compile_eq_error_iff`: which patterns cannot be read
* `Group.compileRules_append`: rules in a row
* `Group.exists_build_iff`: groups can be built of sound rules
* `Group.build_eq_error_iff`: the failure is that of the first rule at fault
-/

namespace ImportOrder

namespace WideText

theorem text?_eq_some {p : WideText} {t : Text} (h : p.text? = some t) : p = t.widen := by
  induction p generalizing t with
  | nil =>
    obtain rfl := Option.some.inj h
    rfl
  | cons c p ih =>
    simp only [text?, List.mapM_cons, Option.bind_eq_bind, Option.bind_eq_some_iff] at h
    obtain ⟨a, ha, as, has, h⟩ := h
    obtain rfl := Option.some.inj h
    cases c with
    | half unit => cases ha
    | char c =>
      obtain rfl := Option.some.inj ha
      rw [ih has]
      rfl

theorem string?_eq_some_iff {p : WideText} {s : String} : p.string? = some s ↔ p = ofString s := by
  rw [string?, Option.map_eq_some_iff]
  constructor
  · rintro ⟨t, ht, rfl⟩
    rw [text?_eq_some ht, ofString, String.toList_ofList]
  · rintro rfl
    exact ⟨s.toList, text?_widen _, String.ofList_toList⟩

end WideText

/-! ## Patterns -/

namespace Matcher

/-- The patterns that are single words. -/
def words : List String := ["builtin", "relative", "scoped", "alias", "side-effect", "*"]

/-- The kinds of patterns with a value. -/
def valued : List String := ["exact", "prefix", "regex"]

/-- A pattern of a kind with a value. -/
def IsOf (kind : String) (value pattern : WideText) : Prop :=
  value ≠ [] ∧ pattern = WideText.ofString kind ++ .char ':' :: value

/-- **A known pattern** is a word, or a kind and a value with a colon between them. -/
def IsKnown (pattern : WideText) : Prop :=
  (∃ word ∈ words, pattern = WideText.ofString word) ∨
    ∃ kind ∈ valued, ∃ value, IsOf kind value pattern

theorem exists_keyword?_iff {s : String} : (∃ m, keyword? s = some m) ↔ s ∈ words := by
  unfold keyword?
  split <;> simp_all [words]

theorem colon_notMem {s : String} (h : s ∈ words ++ valued) :
    .char ':' ∉ WideText.ofString s := by
  have hall : ∀ s ∈ words ++ valued, .char ':' ∉ WideText.ofString s := by decide
  exact hall s h

/-- A pattern is cut at its first colon. -/
theorem isOf_iff {kind : String} {value pattern : WideText} (hkind : kind ∈ valued) :
    IsOf kind value pattern ↔ value ≠ [] ∧
      (pattern.takeWhile (· ≠ .char ':')) = WideText.ofString kind ∧
      (pattern.dropWhile (· ≠ .char ':')).drop 1 = value := by
  have hcolon := colon_notMem (List.mem_append_right words hkind)
  constructor
  · rintro ⟨hne, rfl⟩
    have hall : ∀ c ∈ WideText.ofString kind, decide (c ≠ .char ':') = true := by
      intro c hc
      simp only [decide_eq_true_eq]
      rintro rfl
      exact hcolon hc
    rw [List.takeWhile_append_of_pos hall, List.dropWhile_append_of_pos hall]
    exact ⟨hne, by simp, by simp⟩
  · rintro ⟨hne, htake, hdrop⟩
    refine ⟨hne, ?_⟩
    rw [← List.takeWhile_append_dropWhile (p := (· ≠ .char ':')) (l := pattern), htake]
    congr 1
    cases hrest : pattern.dropWhile (· ≠ .char ':') with
    | nil =>
      rw [hrest] at hdrop
      exact absurd hdrop.symm hne
    | cons c rest =>
      have hc : c = .char ':' := by
        have := List.head?_dropWhile_not (p := (· ≠ .char ':')) (l := pattern)
        rw [hrest] at this
        simpa using this
      rw [hrest] at hdrop
      rw [hc, ← hdrop]
      rfl

theorem not_isOf_word {word kind : String} {value : WideText} (h : word ∈ words) :
    ¬IsOf kind value (WideText.ofString word) := by
  rintro ⟨-, heq⟩
  apply colon_notMem (List.mem_append_left valued h)
  rw [heq]
  simp

theorem compile_of_mem_words [Platform] {word : String} (h : word ∈ words) :
    ∃ m, compile (WideText.ofString word) = .ok m := by
  obtain ⟨m, hm⟩ := exists_keyword?_iff.2 h
  exact ⟨m, by rw [compile, WideText.string?_eq_some_iff.2 rfl, Option.bind_some, hm]⟩

theorem keyword?_eq_none {pattern : WideText}
    (h : ∀ word ∈ words, pattern ≠ WideText.ofString word) :
    pattern.string?.bind keyword? = none := by
  rw [Option.eq_none_iff_forall_ne_some]
  intro m hm
  obtain ⟨s, hs, hm⟩ := Option.bind_eq_some_iff.1 hm
  exact h s (exists_keyword?_iff.1 ⟨m, hm⟩) (WideText.string?_eq_some_iff.1 hs)

theorem compile_of_isOf [Platform] {kind : String} {value pattern : WideText}
    (hkind : kind ∈ valued) (h : IsOf kind value pattern) :
    compile pattern = ofValue pattern (WideText.ofString kind) value := by
  have hnone : pattern.string?.bind keyword? = none := by
    apply keyword?_eq_none
    rintro word hword rfl
    exact not_isOf_word hword h
  obtain ⟨hne, htake, hdrop⟩ := (isOf_iff hkind).1 h
  rw [compile, hnone]
  simp only [htake, hdrop]
  rw [if_neg (by simpa using hne)]

theorem compile_of_not_isKnown [Platform] {pattern : WideText} (h : ¬IsKnown pattern) :
    compile pattern = .error (.unknownPattern pattern) := by
  have hnone : pattern.string?.bind keyword? = none :=
    keyword?_eq_none fun word hword heq => h (.inl ⟨word, hword, heq⟩)
  rw [compile, hnone]
  simp only
  split
  · rfl
  rename_i hne
  have hkind : ∀ kind ∈ valued,
      WideText.string? (pattern.takeWhile (· ≠ .char ':')) ≠ some kind := by
    intro kind hkind heq
    refine h (.inr ⟨kind, hkind, _, (isOf_iff hkind).2 ⟨by simpa using hne, ?_, rfl⟩⟩)
    exact WideText.string?_eq_some_iff.1 heq
  unfold ofValue
  split
  · rename_i heq
    exact absurd heq (hkind "exact" (by simp [valued]))
  · rename_i heq
    exact absurd heq (hkind "prefix" (by simp [valued]))
  · rename_i heq
    exact absurd heq (hkind "regex" (by simp [valued]))
  · rfl

theorem ofValue_regex [Platform] (pattern value : WideText) :
    ofValue pattern (WideText.ofString "regex") value =
      ((Regex.parse value).mapError (.ofRejection value)).map (regex value) := by
  rw [ofValue, WideText.string?_eq_some_iff.2 rfl]
  cases Regex.parse value with
  | error cause => rfl
  | ok r => rfl

/-- **Which patterns cannot be read**: unknown ones, and regular expressions that are rejected. -/
theorem compile_eq_error_iff [Platform] {pattern : WideText} {e : SettingsError} :
    compile pattern = .error e ↔
      (¬IsKnown pattern ∧ e = .unknownPattern pattern) ∨
        ∃ value cause, IsOf "regex" value pattern ∧ Regex.parse value = .error cause ∧
          e = .ofRejection value cause := by
  have hregex : "regex" ∈ valued := by simp [valued]
  constructor
  · intro h
    by_cases hknown : IsKnown pattern
    · rcases hknown with ⟨word, hword, rfl⟩ | ⟨kind, hkind, value, hof⟩
      · obtain ⟨m, hm⟩ := compile_of_mem_words hword
        rw [hm] at h
        cases h
      · rw [compile_of_isOf hkind hof] at h
        simp only [valued, List.mem_cons, List.not_mem_nil, or_false] at hkind
        rcases hkind with rfl | rfl | rfl
        · rw [ofValue, WideText.string?_eq_some_iff.2 rfl] at h
          cases h
        · rw [ofValue, WideText.string?_eq_some_iff.2 rfl] at h
          cases h
        · rw [ofValue_regex] at h
          obtain ⟨cause, hcause, rfl⟩ := mapError_eq_error (Except.eq_error_of_map h)
          exact .inr ⟨value, cause, hof, hcause, rfl⟩
    · rw [compile_of_not_isKnown hknown] at h
      exact .inl ⟨hknown, (Except.error.inj h).symm⟩
  · rintro (⟨hunknown, rfl⟩ | ⟨value, cause, hof, hcause, rfl⟩)
    · exact compile_of_not_isKnown hunknown
    · rw [compile_of_isOf hregex hof, ofValue_regex, hcause]
      rfl

/-- **A pattern that cannot be read** is unknown, or a regular expression that is rejected. -/
def IsUnreadable [Platform] (pattern : WideText) : Prop :=
  ¬IsKnown pattern ∨
    ∃ value cause, IsOf "regex" value pattern ∧ Regex.parse value = .error cause

theorem exists_compile_eq_error_iff [Platform] {pattern : WideText} :
    (∃ e, compile pattern = .error e) ↔ IsUnreadable pattern := by
  simp only [compile_eq_error_iff, IsUnreadable]
  constructor
  · rintro ⟨e, ⟨hunknown, -⟩ | ⟨value, cause, hof, hcause, -⟩⟩
    · exact .inl hunknown
    · exact .inr ⟨value, cause, hof, hcause⟩
  · rintro (hunknown | ⟨value, cause, hof, hcause⟩)
    · exact ⟨_, .inl ⟨hunknown, rfl⟩⟩
    · exact ⟨_, .inr ⟨value, cause, hof, hcause, rfl⟩⟩

theorem exists_mapM_compile_eq_error_iff [Platform] {patterns : List WideText} :
    (∃ e, patterns.mapM compile = .error e) ↔ ∃ p ∈ patterns, IsUnreadable p := by
  constructor
  · rintro ⟨e, he⟩
    obtain ⟨p, hp, he⟩ := exists_of_mapM_eq_error he
    exact ⟨p, hp, exists_compile_eq_error_iff.1 ⟨e, he⟩⟩
  · rintro ⟨p, hp, hbad⟩
    obtain ⟨e, he⟩ := exists_compile_eq_error_iff.2 hbad
    cases hms : patterns.mapM compile with
    | error e => exact ⟨e, rfl⟩
    | ok ms =>
      obtain ⟨m, -, hm⟩ := exists_mem_of_forall₂ (forall₂_of_mapM hms).flip hp
      rw [he] at hm
      cases hm

end Matcher

/-! ## Rules -/

/-- The position of the rule at an index: its own, or else the index. -/
def GroupRule.place (index : Nat) (r : GroupRule) : Int := r.position.getD index

/-- **Rules that are not sound**: a pattern cannot be read, or two positions are equal. -/
def Defective [Platform] (rules : List GroupRule) : Prop :=
  (∃ r ∈ rules, ∃ p ∈ r.patterns, Matcher.IsUnreadable p) ∨
    ¬(rules.mapIdx GroupRule.place).Nodup

/-- **What is wrong with a rule** behind others: it has the position of one of them, or else a
pattern of it cannot be read. -/
inductive RuleFault [Platform] (before : List GroupRule) (r : GroupRule) : SettingsError → Prop
  | position {i : Nat} {earlier : GroupRule} (h : before[i]? = some earlier)
      (hplace : earlier.place i = r.place before.length) : RuleFault before r
        (SettingsError.samePosition earlier.name r.name (r.place before.length)).worded
  | pattern {e : SettingsError} (hfree : r.place before.length ∉ before.mapIdx GroupRule.place)
      (h : r.patterns.mapM Matcher.compile = .error e) : RuleFault before r e

theorem mem_places_iff {rules : List GroupRule} {place : Int} :
    place ∈ rules.mapIdx GroupRule.place ↔
      ∃ i, ∃ r : GroupRule, rules[i]? = some r ∧ r.place i = place := by
  rw [List.mem_iff_getElem?]
  simp only [List.getElem?_mapIdx, Option.map_eq_some_iff]

theorem exists_ruleFault_iff [Platform] {before : List GroupRule} {r : GroupRule} :
    (∃ e, RuleFault before r e) ↔ r.place before.length ∈ before.mapIdx GroupRule.place ∨
      ∃ p ∈ r.patterns, Matcher.IsUnreadable p := by
  rw [← Matcher.exists_mapM_compile_eq_error_iff]
  constructor
  · rintro ⟨e, ⟨h, hplace⟩ | ⟨-, h⟩⟩
    · exact .inl (mem_places_iff.2 ⟨_, _, h, hplace⟩)
    · exact .inr ⟨e, h⟩
  · intro h
    by_cases hplace : r.place before.length ∈ before.mapIdx GroupRule.place
    · obtain ⟨i, earlier, hi, hplace⟩ := mem_places_iff.1 hplace
      exact ⟨_, .position hi hplace⟩
    · obtain ⟨e, he⟩ := h.resolve_left hplace
      exact ⟨e, .pattern hplace he⟩

/-- Rules are not sound if the first ones are not, or the last one is at fault behind them. -/
theorem defective_concat [Platform] {rules : List GroupRule} {r : GroupRule} :
    Defective (rules ++ [r]) ↔ Defective rules ∨ ∃ e, RuleFault rules r e := by
  have hplaces : ((rules ++ [r]).mapIdx GroupRule.place).Nodup ↔
      (rules.mapIdx GroupRule.place).Nodup ∧
        r.place rules.length ∉ rules.mapIdx GroupRule.place := by
    rw [List.mapIdx_concat, List.nodup_append]
    simp only [List.nodup_singleton, List.mem_singleton, true_and, forall_eq]
    exact and_congr_right' ⟨fun h hmem => h _ hmem rfl, fun h a ha heq => h (heq ▸ ha)⟩
  rw [exists_ruleFault_iff, Defective, Defective, hplaces, not_and_or, not_not]
  simp only [List.mem_append, List.mem_singleton, or_and_right, exists_or, exists_eq_left]
  rw [or_or_or_comm]
  exact or_congr_right or_comm

namespace Group

/-- The positions of rules from an index on, with their names. -/
def placesFrom (index : Nat) (rules : List GroupRule) : List (Int × WideText) :=
  rules.mapIdx fun i r => (r.place (index + i), r.name)

theorem placesFrom_cons (index : Nat) (r : GroupRule) (rules : List GroupRule) :
    placesFrom index (r :: rules) = (r.place index, r.name) :: placesFrom (index + 1) rules := by
  simp only [placesFrom, List.mapIdx_cons, Nat.add_zero, Nat.add_assoc, Nat.add_comm 1]

/-- **Rules in a row** are read one part after the other. -/
theorem compileRules_append [Platform] (index : Nat) (taken : List (Int × WideText))
    (rules rules' : List GroupRule) :
    compileRules index taken (rules ++ rules') = do
      let groups ← compileRules index taken rules
      let groups' ← compileRules (index + rules.length) (taken ++ placesFrom index rules) rules'
      return groups ++ groups' := by
  -- Each rule read adds its position to those taken, and one to the index.
  induction rules generalizing index taken with
  | nil =>
    rw [placesFrom, List.mapIdx_nil, List.append_nil]
    show _ = (compileRules index taken rules' >>= fun groups' => pure ([] ++ groups'))
    rw [List.nil_append]
    cases compileRules index taken rules' <;> rfl
  | cons r rules ih =>
    rw [List.cons_append, compileRules, compileRules]
    cases taken.find? (·.1 == r.position.getD index) with
    | some other => rfl
    | none =>
      cases r.patterns.mapM Matcher.compile with
      | error e => rfl
      | ok ms =>
        have htaken : taken ++ placesFrom index (r :: rules) =
            taken ++ [(r.place index, r.name)] ++ placesFrom (index + 1) rules := by
          rw [placesFrom_cons, List.append_assoc, List.singleton_append]
        have hindex : index + (r :: rules).length = index + 1 + rules.length := by
          rw [List.length_cons]
          omega
        rw [htaken, hindex]
        show (compileRules (index + 1) (taken ++ [(r.place index, r.name)]) (rules ++ rules') >>= _)
          = (compileRules (index + 1) (taken ++ [(r.place index, r.name)]) rules >>= _) >>= _
        rw [ih]
        cases compileRules (index + 1) (taken ++ [(r.place index, r.name)]) rules with
        | error e => rfl
        | ok groups =>
          show (compileRules _ _ rules' >>= _) >>= _ = compileRules _ _ rules' >>= _
          cases compileRules (index + 1 + rules.length) _ rules' with
          | error e => rfl
          | ok groups' => rfl

variable {rules : List GroupRule} {r : GroupRule} {e : SettingsError}

theorem mem_placesFrom_zero {x : Int × WideText} :
    x ∈ placesFrom 0 rules ↔
      ∃ i, ∃ r : GroupRule, rules[i]? = some r ∧ x = (r.place i, r.name) := by
  rw [placesFrom, List.mem_iff_getElem?]
  simp only [List.getElem?_mapIdx, Option.map_eq_some_iff, Nat.zero_add, eq_comm (b := x)]

theorem map_placesFrom_zero (rules : List GroupRule) :
    (placesFrom 0 rules).map (·.1) = rules.mapIdx GroupRule.place := by
  apply List.ext_getElem?
  intro i
  simp only [placesFrom, List.getElem?_map, List.getElem?_mapIdx, Option.map_map, Nat.zero_add]
  rfl

/-- Among rules with different positions, each is found by its position. -/
theorem find?_placesFrom [Platform] {i : Nat} (hrules : ¬Defective rules) (h : rules[i]? = some r) :
    (placesFrom 0 rules).find? (·.1 == r.place i) = some (r.place i, r.name) := by
  have hnodup : ((placesFrom 0 rules).map (·.1)).Nodup := by
    by_contra hdup
    rw [map_placesFrom_zero] at hdup
    exact hrules (.inr hdup)
  have hmem : (r.place i, r.name) ∈ placesFrom 0 rules := mem_placesFrom_zero.2 ⟨i, r, h, rfl⟩
  cases hfind : (placesFrom 0 rules).find? (·.1 == r.place i) with
  | none => simpa using List.find?_eq_none.1 hfind _ hmem
  | some x =>
    have hplace : x.1 = r.place i := by simpa using List.find?_some hfind
    exact congrArg some
      (List.inj_on_of_nodup_map hnodup (List.mem_of_find?_eq_some hfind) hmem hplace)

theorem find?_placesFrom_of_free {place : Int}
    (h : place ∉ rules.mapIdx GroupRule.place) :
    (placesFrom 0 rules).find? (·.1 == place) = none := by
  rw [List.find?_eq_none]
  intro x hx hplace
  obtain ⟨i, r, hr, rfl⟩ := mem_placesFrom_zero.1 hx
  exact h (mem_places_iff.2 ⟨i, r, hr, by simpa using hplace⟩)

/-! ## Reading rules -/

theorem compileRules_cons_of_fault [Platform] (hrules : ¬Defective rules) (h : RuleFault rules r e)
    (rest : List GroupRule) :
    compileRules rules.length (placesFrom 0 rules) (r :: rest) = .error e := by
  cases h with
  | @position i earlier hi hplace =>
    have hfind := find?_placesFrom hrules hi
    rw [hplace, GroupRule.place] at hfind
    simp only [compileRules, hfind]
    rfl
  | pattern hfree he =>
    have hfind := find?_placesFrom_of_free hfree
    rw [GroupRule.place] at hfind
    simp only [compileRules, hfind, he]
    rfl

theorem compileRules_singleton [Platform] (h : ¬∃ e, RuleFault rules r e) :
    ∃ group, compileRules rules.length (placesFrom 0 rules) [r] = .ok [group] := by
  rw [exists_ruleFault_iff, not_or, ← Matcher.exists_mapM_compile_eq_error_iff] at h
  obtain ⟨hfree, hpatterns⟩ := h
  cases hms : r.patterns.mapM Matcher.compile with
  | error e => exact absurd ⟨e, hms⟩ hpatterns
  | ok ms =>
    have hfind := find?_placesFrom_of_free hfree
    rw [GroupRule.place] at hfind
    refine ⟨⟨r.name, r.place rules.length, ms⟩, ?_⟩
    simp only [compileRules, hfind, hms]
    rfl

/-- Rules are read if they are sound, and otherwise the first one at fault is the failure. -/
theorem compileRules_cases [Platform] (rules : List GroupRule) :
    (¬Defective rules ∧ ∃ groups, compileRules 0 [] rules = .ok groups) ∨
      ∃ e before r after, rules = before ++ r :: after ∧ ¬Defective before ∧
        RuleFault before r e ∧ compileRules 0 [] rules = .error e := by
  induction rules using List.reverseRecOn with
  | nil => exact .inl ⟨by simp [Defective], [], rfl⟩
  | append_singleton rules r ih =>
    rw [compileRules_append, Nat.zero_add, List.nil_append]
    rcases ih with ⟨hsound, groups, hgroups⟩ | ⟨e, before, r', after, rfl, hbefore, hfault, he⟩
    · rw [hgroups]
      by_cases hfault : ∃ e, RuleFault rules r e
      · obtain ⟨e, hfault⟩ := hfault
        refine .inr ⟨e, rules, r, [], rfl, hsound, hfault, ?_⟩
        show (compileRules rules.length (placesFrom 0 rules) [r] >>= _) = _
        rw [compileRules_cons_of_fault hsound hfault]
        rfl
      · obtain ⟨group, hgroup⟩ := compileRules_singleton hfault
        have hmore : ¬Defective (rules ++ [r]) := by
          rw [defective_concat, not_or]
          exact ⟨hsound, hfault⟩
        refine .inl ⟨hmore, groups ++ [group], ?_⟩
        show (compileRules rules.length (placesFrom 0 rules) [r] >>= _) = _
        rw [hgroup]
        rfl
    · exact .inr ⟨e, before, r', after ++ [r], by simp, hbefore, hfault, by rw [he]; rfl⟩

theorem defective_of_fault [Platform] {before after : List GroupRule} (h : RuleFault before r e) :
    Defective (before ++ r :: after) := by
  have hlast : Defective (before ++ [r]) := defective_concat.2 (.inr ⟨e, h⟩)
  rw [← List.singleton_append, ← List.append_assoc]
  rcases hlast with ⟨r', hr', p, hp, hbad⟩ | hdup
  · exact .inl ⟨r', List.mem_append_left _ hr', p, hp, hbad⟩
  · refine .inr fun hnodup => hdup ?_
    rw [List.mapIdx_append] at hnodup
    exact hnodup.of_append_left

/-- **Groups can be built** of sound rules. -/
theorem exists_build_iff [Platform] : (∃ groups, build rules = .ok groups) ↔ ¬Defective rules := by
  rcases compileRules_cases rules with ⟨hsound, groups, hgroups⟩ |
    ⟨e, before, r, after, rfl, -, hfault, he⟩
  · exact ⟨fun _ => hsound, fun _ => ⟨withCatchAll groups, by rw [build, hgroups]; rfl⟩⟩
  · refine ⟨?_, fun h => absurd (defective_of_fault hfault) h⟩
    rintro ⟨groups, hgroups⟩
    rw [build, he] at hgroups
    cases hgroups

/-- **The failure of building groups** is that of the first rule at fault. -/
theorem build_eq_error_iff [Platform] : build rules = .error e ↔
    ∃ before r after, rules = before ++ r :: after ∧ ¬Defective before ∧ RuleFault before r e := by
  constructor
  · intro h
    have h := Except.eq_error_of_map h
    rcases compileRules_cases rules with ⟨-, groups, hgroups⟩ |
      ⟨e', before, r, after, hrules, hbefore, hfault, he⟩
    · rw [hgroups] at h
      cases h
    · obtain rfl := Except.error.inj (he.symm.trans h)
      exact ⟨before, r, after, hrules, hbefore, hfault⟩
  · rintro ⟨before, r, after, rfl, hbefore, hfault⟩
    rcases compileRules_cases before with ⟨-, groups, hgroups⟩ |
      ⟨e', pre, r', post, rfl, -, hfault', -⟩
    · rw [build, compileRules_append, hgroups, Nat.zero_add, List.nil_append]
      show Except.map _ (compileRules before.length (placesFrom 0 before) (r :: after) >>= _) = _
      rw [compileRules_cons_of_fault hbefore hfault]
      rfl
    · exact absurd (defective_of_fault hfault') hbefore

end Group

end ImportOrder
