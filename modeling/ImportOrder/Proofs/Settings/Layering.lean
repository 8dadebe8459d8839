import ImportOrder.Settings.Basic

/-!
# Layers over layers

Where layers are laid over one another, the order in which they are put together matters for one
thing only: a layer that leaves the groups open does not pass on that the layer above it extends
them. All other settings, and all other groups, come out the same.

## Main definitions

* `Layer.extendsGroups`: whether a layer adds its groups to those below

## Main results

* `Layer.groups_merge_of_open`, `Layer.groups_merge_of_extends`, `Layer.groups_merge_of_replaces`:
  the groups of one layer over another
* `Layer.merge_assoc_iff`: when three layers can be put together in either order
-/

namespace ImportOrder

attribute [ext] Layer

namespace Layer

/-- Whether a layer adds its groups to those of the layers below. -/
def extendsGroups (l : Layer) : Bool := l.groups.isSome && l.extendGroups == some true

variable {a b c top : Layer} {rules : List GroupRule}

/-! ## The groups of one layer over another -/

/-- A layer without groups leaves those below as they are. -/
theorem groups_merge_of_open (base : Layer) (h : top.groups = none) :
    (base.merge top).groups = base.groups ∧ (base.merge top).extendGroups = base.extendGroups := by
  simp [merge, mergeGroups, h]

/-- Groups that extend those below come behind them, under the mark below. -/
theorem groups_merge_of_extends (base : Layer) (h : top.groups = some rules)
    (hext : top.extendGroups = some true) :
    (base.merge top).groups = some (base.groups.getD [] ++ rules) ∧
      (base.merge top).extendGroups = base.extendGroups := by
  simp [merge, mergeGroups, h, hext]

/-- Other groups replace those below, with their own mark. -/
theorem groups_merge_of_replaces (base : Layer) (h : top.groups = some rules)
    (hext : top.extendGroups ≠ some true) :
    (base.merge top).groups = some rules ∧
      (base.merge top).extendGroups = top.extendGroups := by
  simp [merge, mergeGroups, h, hext]

/-! ## Three layers -/

/-- Only the groups can tell in which order three layers were put together. -/
theorem merge_assoc_iff_groups : (a.merge b).merge c = a.merge (b.merge c) ↔
    ((a.merge b).merge c).groups = (a.merge (b.merge c)).groups ∧
      ((a.merge b).merge c).extendGroups = (a.merge (b.merge c)).extendGroups := by
  constructor
  · intro h
    rw [h]
    exact ⟨rfl, rfl⟩
  · rintro ⟨hgroups, hext⟩
    apply Layer.ext
    · exact hgroups
    · exact hext
    all_goals exact Option.or_assoc.symm

/-- The highest layer is open: the groups are those of the two below it. -/
theorem merge_assoc_of_open (hc : c.groups = none) :
    (a.merge b).merge c = a.merge (b.merge c) := by
  obtain ⟨hleft, hleftExt⟩ := groups_merge_of_open (a.merge b) hc
  obtain ⟨hright, hrightExt⟩ := groups_merge_of_open b hc
  have hgroups : mergeGroups a (b.merge c) = mergeGroups a b := by
    simp only [mergeGroups, hright, hrightExt]
  rw [merge_assoc_iff_groups, hleft, hleftExt]
  exact ⟨(congrArg Prod.fst hgroups).symm, (congrArg Prod.snd hgroups).symm⟩

/-- The highest layer replaces the groups: those below do not matter. -/
theorem merge_assoc_of_replaces (hc : c.groups = some rules) (hext : c.extendGroups ≠ some true) :
    (a.merge b).merge c = a.merge (b.merge c) := by
  obtain ⟨hleft, hleftExt⟩ := groups_merge_of_replaces (a.merge b) hc hext
  obtain ⟨hright, hrightExt⟩ := groups_merge_of_replaces b hc hext
  obtain ⟨hbc, hbcExt⟩ := groups_merge_of_replaces a hright (hrightExt ▸ hext)
  rw [merge_assoc_iff_groups, hleft, hleftExt, hbc, hbcExt, hrightExt]
  exact ⟨rfl, rfl⟩

/-- The middle layer has groups of its own: those above are added to them in either order. -/
theorem merge_assoc_of_groups {below : List GroupRule} (hb : b.groups = some below)
    (hc : c.groups = some rules) (hext : c.extendGroups = some true) :
    (a.merge b).merge c = a.merge (b.merge c) := by
  obtain ⟨hleft, hleftExt⟩ := groups_merge_of_extends (a.merge b) hc hext
  obtain ⟨hright, hrightExt⟩ := groups_merge_of_extends b hc hext
  rw [hb, Option.getD_some] at hright
  rw [merge_assoc_iff_groups, hleft, hleftExt]
  by_cases hbext : b.extendGroups = some true
  · obtain ⟨hab, habExt⟩ := groups_merge_of_extends a hb hbext
    obtain ⟨hbc, hbcExt⟩ := groups_merge_of_extends a hright (hrightExt.trans hbext)
    rw [hab, habExt, hbc, hbcExt, Option.getD_some, List.append_assoc]
    exact ⟨rfl, rfl⟩
  · obtain ⟨hab, habExt⟩ := groups_merge_of_replaces a hb hbext
    obtain ⟨hbc, hbcExt⟩ := groups_merge_of_replaces a hright (hrightExt ▸ hbext)
    rw [hab, habExt, hbc, hbcExt, hrightExt, Option.getD_some]
    exact ⟨rfl, rfl⟩

/-- The middle layer is open below one that extends: the mark that it leaves behind decides whether
the groups of the lowest layer stay. -/
theorem merge_assoc_iff_of_open (hb : b.groups = none) (hc : c.groups = some rules)
    (hext : c.extendGroups = some true) :
    (a.merge b).merge c = a.merge (b.merge c) ↔
      b.extendGroups = some true ∨ a.groups.getD [] = [] ∧ a.extendGroups = b.extendGroups := by
  obtain ⟨hab, habExt⟩ := groups_merge_of_open a hb
  obtain ⟨hleft, hleftExt⟩ := groups_merge_of_extends (a.merge b) hc hext
  obtain ⟨hright, hrightExt⟩ := groups_merge_of_extends b hc hext
  rw [hab] at hleft
  rw [habExt] at hleftExt
  rw [hb, Option.getD_none, List.nil_append] at hright
  rw [merge_assoc_iff_groups, hleft, hleftExt]
  by_cases hbext : b.extendGroups = some true
  · obtain ⟨hbc, hbcExt⟩ := groups_merge_of_extends a hright (hrightExt.trans hbext)
    rw [hbc, hbcExt]
    simp [hbext]
  · obtain ⟨hbc, hbcExt⟩ := groups_merge_of_replaces a hright (hrightExt ▸ hbext)
    rw [hbc, hbcExt, hrightExt]
    simp [hbext]

/-- **When three layers can be put together in either order**: always, unless the middle one leaves
the groups open, without a mark, below a layer that extends them. What that layer is to extend is
forgotten then, so that there must be nothing to extend and the same mark. -/
theorem merge_assoc_iff (a b c : Layer) :
    (a.merge b).merge c = a.merge (b.merge c) ↔
      (b.groups = none → c.extendsGroups = true →
        b.extendGroups = some true ∨ a.groups.getD [] = [] ∧ a.extendGroups = b.extendGroups) := by
  cases hc : c.groups with
  | none =>
    have hnot : c.extendsGroups = false := by simp [extendsGroups, hc]
    simp [merge_assoc_of_open hc, hnot]
  | some rules =>
    by_cases hext : c.extendGroups = some true
    · cases hb : b.groups with
      | none =>
        rw [merge_assoc_iff_of_open hb hc hext]
        simp [extendsGroups, hc, hext]
      | some below => simp [merge_assoc_of_groups hb hc hext]
    · have hnot : c.extendsGroups = false := by simp [extendsGroups, hext]
      simp [merge_assoc_of_replaces hc hext, hnot]

/-- With a layer that sets nothing between groups and their extension, the order matters. -/
theorem merge_assoc_fails_below_extension :
    let low : Layer := { groups := some [⟨"builtin", ["builtin"], none⟩] }
    let high : Layer :=
      { groups := some [⟨"relative", ["relative"], none⟩], extendGroups := some true }
    (low.merge {}).merge high ≠ low.merge (Layer.merge {} high) := by
  intro low high h
  have hcond := (merge_assoc_iff low {} high).1 h rfl rfl
  revert hcond
  decide

end Layer

end ImportOrder
