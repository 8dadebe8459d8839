import ImportOrder.Platform.Usual
import ImportOrder.Proofs.Arrangement.Requoting
import ImportOrder.Proofs.Settings.Resolution
import Mathlib.Data.List.Perm.Basic

/-!
# Imports in another order

Imports of different modules are not merged, and no two of them compare equal: where neither the
first name nor lower case decides, the modules as they are written do. So the place of a statement
is never asked for, and the groups come out the same in whatever order the imports were written.

## Main results

* `mergeDuplicates_of_nodup`: imports of different modules are not merged
* `sortStatements_reordered`: they are sorted in one way only
* `arrange_of_nodup`: what arranging them gives
* `arrange_reordered`: arranging does not depend on the order of imports of different modules
-/

namespace ImportOrder

/-! ## Different modules -/

/-- Imports of different modules have different keys. -/
theorem nodup_mergeKey {ss : List Statement} (h : (ss.map (·.specifier)).Nodup) :
    (ss.map (·.mergeKey)).Nodup := by
  apply List.Nodup.of_map MergeKey.specifier
  rw [List.map_map]
  exact h

/-- **Imports of different modules are not merged.** -/
theorem mergeDuplicates_of_nodup {ss : List Statement} (h : (ss.map (·.specifier)).Nodup) :
    (mergeDuplicates ss).result = .ok ss := by
  have hkeys := nodup_mergeKey h
  apply mergeDuplicates_eq_self
  · intro key key' hsub
    have hnodup : [key, key', key].Nodup := hkeys.sublist hsub
    simp at hnodup
  · intro st hst
    have halone : ofKey st.mergeKey ss = [st] := by
      have hsame : ofKey st.mergeKey ss = ss.filter (· = st) := by
        apply List.filter_congr
        intro st' hst'
        rw [decide_eq_decide]
        exact ⟨List.inj_on_of_nodup_map hkeys hst' hst, congrArg _⟩
      rw [hsame, List.filter_eq, List.count_eq_one_of_mem hkeys.of_map hst]
      rfl
    rw [halone]
    rfl

theorem mergedMembers_of_nodup (s : Settings) {ss : List Statement}
    (h : (ss.map (·.specifier)).Nodup) : mergedMembers s ss = .ok ss := by
  unfold mergedMembers
  split
  · exact mergeDuplicates_of_nodup h
  · rfl

theorem nodup_specifier_of_reordered {ss ss' : List Statement}
    (hperm : (ss.map Statement.withoutIndex).Perm (ss'.map Statement.withoutIndex))
    (h : (ss.map (·.specifier)).Nodup) : (ss'.map (·.specifier)).Nodup := by
  have hmodules := hperm.map Statement.specifier
  rw [List.map_map, List.map_map] at hmodules
  exact hmodules.nodup_iff.1 h

/-- **Imports of different modules are sorted in one way only**: two of them that may precede each
other import the same module. -/
theorem sortStatements_reordered (s : Settings) {ss ss' : List Statement}
    (hperm : (ss.map Statement.withoutIndex).Perm (ss'.map Statement.withoutIndex))
    (h : (ss.map (·.specifier)).Nodup) :
    (sortStatements s ss).map Statement.withoutIndex =
      (sortStatements s ss').map Statement.withoutIndex := by
  have hsorted : ∀ sts, ((sortStatements s sts).map Statement.withoutIndex).Pairwise
      (Statement.mayPrecede s · · = true) := by
    intro sts
    rw [List.pairwise_map]
    exact (pairwise_sortStatements s sts).imp Statement.mayPrecede_withoutIndex
  have hsame : ∀ sts, ((sortStatements s sts).map Statement.withoutIndex).Perm
      (sts.map Statement.withoutIndex) := fun sts => (inOrder_perm _ sts).map _
  refine List.Perm.eq_of_pairwise ?_ (hsorted ss) (hsorted ss')
    (((hsame ss).trans hperm).trans (hsame ss').symm)
  intro a b ha hb hab hba
  have hspecifier : a.specifier = b.specifier :=
    (Statement.compare_eq_eq_iff.1 (isLE_antisymm (Statement.transCmp_compare s) hab hba)).2.1
  have hnodup : ((ss.map Statement.withoutIndex).map Statement.specifier).Nodup := by
    rw [List.map_map]
    exact h
  exact List.inj_on_of_nodup_map hnodup ((hsame ss).mem_iff.1 ha)
    (hperm.mem_iff.2 ((hsame ss').mem_iff.1 hb)) hspecifier

/-! ## All groups -/

section Groups

variable {s : Settings} {project : Option Project} {groups : List Group} {ss ss' : List Statement}

theorem membersAt_reordered
    (hperm : (ss.map Statement.withoutIndex).Perm (ss'.map Statement.withoutIndex))
    (position : Int) :
    ((membersAt project groups position ss).map Statement.withoutIndex).Perm
      ((membersAt project groups position ss').map Statement.withoutIndex) := by
  rw [← membersAt_map Statement.isRelabeling_withoutIndex,
    ← membersAt_map Statement.isRelabeling_withoutIndex]
  exact hperm.filter _

theorem nodup_specifier_membersAt (h : (ss.map (·.specifier)).Nodup) (position : Int) :
    ((membersAt project groups position ss).map (·.specifier)).Nodup :=
  h.sublist (List.filter_sublist.map _)

/-- Every statement is a member of one group. -/
theorem perm_flatMap_membersAt {positions : List Int} (hnodup : positions.Nodup)
    (h : ∀ st ∈ ss, ∃ g, Group.classify? project groups st = some g ∧ g.position ∈ positions) :
    (positions.flatMap (membersAt project groups · ss)).Perm ss := by
  induction positions generalizing ss with
  | nil =>
    have hnone : ss = [] := by
      rw [List.eq_nil_iff_forall_not_mem]
      intro st hst
      obtain ⟨g, -, hg⟩ := h st hst
      cases hg
    rw [hnone]
    rfl
  | cons position positions ih =>
    obtain ⟨hnew, hnodup⟩ := List.nodup_cons.1 hnodup
    let isMember : Statement → Bool := fun st =>
      (Group.classify? project groups st).any (·.position == position)
    -- The members at the other positions are among those that are not members here.
    have hothers : ∀ position' ∈ positions, membersAt project groups position' ss =
        membersAt project groups position' (ss.filter (!isMember ·)) := by
      intro position' hposition'
      rw [membersAt, membersAt, List.filter_filter]
      apply List.filter_congr
      intro st _
      have hne : position' ≠ position := by
        rintro rfl
        exact hnew hposition'
      cases hst : Group.classify? project groups st with
      | none => simp
      | some g =>
        by_cases hg : g.position = position'
        · simp [isMember, hst, hg, hne]
        · simp [hg]
    have hrest := @ih (ss.filter (!isMember ·)) hnodup <| by
      intro st hst
      obtain ⟨hst, hnot⟩ := List.mem_filter.1 hst
      obtain ⟨g, hg, hmem⟩ := h st hst
      refine ⟨g, hg, (List.mem_cons.1 hmem).resolve_left fun heq => ?_⟩
      simp [isMember, hg, heq] at hnot
    rw [List.flatMap_cons, List.flatMap_congr hothers]
    exact (hrest.append_left _).trans (List.filter_append_perm isMember ss)

/-- **What arranging imports of different modules gives**: the members of each group in order. -/
theorem arrange_of_nodup [Platform] (hgroups : s.builtGroups = .ok groups)
    (h : (ss.map (·.specifier)).Nodup) :
    (arrange s project ss).result = .ok (((sortedPositions groups).map fun position =>
      sortStatements s (membersAt project groups position ss)).filter (!·.isEmpty)) := by
  have hall : (sortedPositions groups).mapM (arrangedAt s project groups ss) =
      .ok ((sortedPositions groups).map fun position =>
        sortStatements s (membersAt project groups position ss)) := by
    rw [mapM_eq_ok_iff, List.forall₂_map_right_iff, List.forall₂_same]
    intro position _
    rw [arrangedAt, mergedMembers_of_nodup s (nodup_specifier_membersAt h position)]
    rfl
  rw [arrange_eq_mapM hgroups, hall]
  rfl

/-- The groups of imports of different modules hold all of these imports. -/
theorem perm_flatten_members [Platform] (hgroups : s.builtGroups = .ok groups) :
    (((sortedPositions groups).map fun position =>
      sortStatements s (membersAt project groups position ss)).filter (!·.isEmpty)).flatten.Perm
        ss := by
  have hsorted : (((sortedPositions groups).map fun position =>
      sortStatements s (membersAt project groups position ss))).flatten.Perm
        ((sortedPositions groups).flatMap (membersAt project groups · ss)) := by
    rw [← List.flatMap_def]
    exact List.Perm.flatMap_left _ fun position _ => inOrder_perm _ _
  rw [Union.flatten_filter_nonempty]
  apply hsorted.trans
  apply perm_flatMap_membersAt
  · exact (pairwise_sortedPositions (Group.nodup_build hgroups)).imp Int.ne_of_lt
  · intro st _
    obtain ⟨g, hg⟩ := Option.isSome_iff_exists.1 (Group.isSome_classify? hgroups project st)
    refine ⟨g, hg, (perm_sortedPositions groups).mem_iff.2 ?_⟩
    exact List.mem_map_of_mem (List.mem_of_find?_eq_some hg)

/-- **Arranging does not depend on the order of imports** of different modules: whatever their order
and their places are, the same statements come out in the same groups and the same order, and none
of them is lost. -/
theorem arrange_reordered [Platform] (hs : s.IsResolved)
    (hperm : (ss.map Statement.withoutIndex).Perm (ss'.map Statement.withoutIndex))
    (hmodules : (ss.map (·.specifier)).Nodup) :
    ∃ out out', (arrange s project ss).result = .ok out ∧
      (arrange s project ss').result = .ok out' ∧
      out.map (List.map Statement.withoutIndex) = out'.map (List.map Statement.withoutIndex) ∧
      out.flatten.Perm ss := by
  obtain ⟨groups, hgroups⟩ := hs.exists_builtGroups
  have hmodules' := nodup_specifier_of_reordered hperm hmodules
  refine ⟨_, _, arrange_of_nodup hgroups hmodules, arrange_of_nodup hgroups hmodules', ?_,
    perm_flatten_members hgroups⟩
  rw [filter_nonempty_map, filter_nonempty_map, List.map_map, List.map_map]
  congr 1
  apply List.map_congr_left
  intro position _
  exact sortStatements_reordered s (membersAt_reordered hperm position)
    (nodup_specifier_membersAt hmodules position)

end Groups

/-- Settings that sort by names, where capitals do not matter. -/
def nameSettings : Settings := { sortBy := "name", caseSensitive := false }

/-- Imports that bind the same name, from modules that differ in a capital only, and others. -/
def sameNames : List Statement :=
  [{ specifier := ['b'], bindings := [⟨.namedExport, ['x'], none, false⟩] },
   { specifier := "./m".toList, index := 1 },
   { specifier := ['B'], index := 2, typeOnly := true,
     bindings := [⟨.namedExport, ['y'], some ['x'], false⟩] },
   { specifier := ['a'], index := 3, bindings := [⟨.defaultExport, ['X'], none, false⟩] }]

section Usual

attribute [local instance] Platform.usual

/-- The modules `B` and `b` come out in this order, whichever stands first. -/
theorem arrange_reordered_sameNames :
    nameSettings.IsResolved ∧ (sameNames.map (·.specifier)).Nodup ∧
      ∃ out out', (arrange nameSettings none sameNames).result = .ok out ∧
        (arrange nameSettings none (renumber sameNames.reverse)).result = .ok out' ∧
        out.map (List.map Statement.withoutIndex) = out'.map (List.map Statement.withoutIndex) ∧
        out.flatten.Perm sameNames ∧
        out.map (List.map (·.specifier)) = [[['a'], ['B'], ['b']], ["./m".toList]] := by
  have hresolve : (Settings.resolveSources false
      [.layer { sortBy := some "name", caseSensitive := some false }]).result =
        .ok nameSettings :=
    Except.eq_ok_of_toOption (by decide +kernel)
  have hmodules : (sameNames.map (·.specifier)).Nodup := by decide
  have hperm : (sameNames.map Statement.withoutIndex).Perm
      ((renumber sameNames.reverse).map Statement.withoutIndex) := by
    rw [map_withoutIndex_renumber]
    exact sameNames.reverse_perm.symm.map _
  obtain ⟨out, out', hout, hout', heq, hall⟩ :=
    @arrange_reordered nameSettings none _ _ _ (.plain hresolve) hperm hmodules
  have hrun : (arrange nameSettings none sameNames).result.toOption.map
      (List.map (List.map (·.specifier))) = some [[['a'], ['B'], ['b']], ["./m".toList]] := by
    decide +kernel
  rw [hout] at hrun
  exact ⟨.plain hresolve, hmodules, out, out', hout, hout', heq, hall, Option.some.inj hrun⟩

end Usual

end ImportOrder
