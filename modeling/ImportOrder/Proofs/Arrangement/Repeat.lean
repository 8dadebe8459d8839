import ImportOrder.Proofs.Arrangement.Buckets
import ImportOrder.Proofs.Merge.Repeat

/-!
# Arranging once more

Arranged statements stay as they are when they are arranged again in the order in which they came
out. Within a group, the statements of one key stand together, since they take the place of the
first of them and are sorted by their module; so they are merged again into the same statements,
and sorting finds them in order.

## Main definitions

* `renumber`: statements with places in the order in which they stand

## Main results

* `Statement.compare_eq_then`: the place is compared last
* `clustered_sortStatements`: in a group, statements of one key stand together
* `mergedMembers_again`: a group is merged and sorted again into the same statements
* `arrange_renumber`: arranging once more changes nothing but places
-/

namespace ImportOrder

/-! ## The order without places -/

namespace Statement

variable {s : Settings} {a b : Statement}

/-- The place is compared last. -/
theorem compare_eq_then (s : Settings) (a b : Statement) :
    compare s a b =
      (compare s a.withoutIndex b.withoutIndex).then (Ord.compare a.index b.index) := by
  have hplaces : Ord.compare a.withoutIndex.index b.withoutIndex.index = .eq := rfl
  have hrest : compare s a.withoutIndex b.withoutIndex =
      (compareText s.caseSensitive (a.sortText s) (b.sortText s)).then
        ((compareText s.caseSensitive a.specifier b.specifier).then
          (Ord.compare (a.typeRank s) (b.typeRank s))) := by
    rw [compare, hplaces, Ordering.then_eq]
    rfl
  rw [hrest, compare, Ordering.then_assoc, Ordering.then_assoc]

theorem mayPrecede_withoutIndex (h : mayPrecede s a b = true) :
    mayPrecede s a.withoutIndex b.withoutIndex = true := by
  rw [mayPrecede, compare_eq_then] at h
  rw [mayPrecede]
  revert h
  cases compare s a.withoutIndex b.withoutIndex <;> simp

theorem mayPrecede_of_withoutIndex (h : mayPrecede s a.withoutIndex b.withoutIndex = true)
    (hindex : a.index ≤ b.index) : mayPrecede s a b = true := by
  have hle : (Ord.compare a.index b.index).isLE = true := Nat.isLE_compare.2 hindex
  rw [mayPrecede, compare_eq_then]
  rw [mayPrecede] at h
  revert h
  cases compare s a.withoutIndex b.withoutIndex <;> simp [hle]

/-- Statements sorted by their module compare equal if they are of one key and place. -/
theorem compare_eq_of_mergeKey (hsort : s.sortBy ≠ "name") (hkey : a.mergeKey = b.mergeKey)
    (hindex : a.index = b.index) : compare s a b = .eq := by
  have hspecifier : a.specifier = b.specifier := congrArg MergeKey.specifier hkey
  have htype : a.typeOnly = b.typeOnly := congrArg MergeKey.typeOnly hkey
  rw [compare_eq_eq_iff]
  refine ⟨?_, hspecifier, ?_, hindex⟩
  · simp only [sortText, if_neg hsort, hspecifier]
    split <;> split <;> rfl
  · rw [typeRank, typeRank, htype]

end Statement

/-! ## A group -/

section Group

variable {s : Settings} {members merged : List Statement}

/-- In a group, statements are of one key if they compare equal. -/
theorem mergeKey_eq_iff_compare (hsort : s.sortBy ≠ "name")
    (hindex : (members.map (·.index)).Nodup) (h : (mergeDuplicates members).result = .ok merged)
    {a b : Statement} (ha : a ∈ merged) (hb : b ∈ merged) :
    a.mergeKey = b.mergeKey ↔ Statement.compare s a b = .eq := by
  obtain ⟨first, hfirst, hhead, hkey, heq⟩ := exists_first_of_mergeDuplicates h ha
  obtain ⟨first', hfirst', hhead', hkey', heq'⟩ := exists_first_of_mergeDuplicates h hb
  constructor
  · intro hsame
    rw [hsame, hhead'] at hhead
    obtain rfl := Option.some.inj hhead
    exact Statement.compare_eq_of_mergeKey hsort hsame (by rw [← heq, heq'])
  · intro hcompare
    obtain ⟨-, -, -, hplace⟩ := Statement.compare_eq_eq_iff.1 hcompare
    have hsame : first = first' :=
      List.inj_on_of_nodup_map hindex hfirst hfirst' (by rw [heq, heq', hplace])
    rw [← hkey, ← hkey', hsame]

/-- **In a group, statements of one key stand together.** -/
theorem clustered_sortStatements (hsort : s.sortBy ≠ "name")
    (hindex : (members.map (·.index)).Nodup) (h : (mergeDuplicates members).result = .ok merged) :
    Clustered ((sortStatements s merged).map (·.mergeKey)) := by
  intro key key' hsub
  obtain ⟨sts, hsts, heq⟩ := List.sublist_map_iff.1 hsub
  have hlength : sts.length = 3 := by simpa using (congrArg List.length heq).symm
  obtain ⟨a, b, c, rfl⟩ := List.length_eq_three.1 hlength
  obtain ⟨rfl, rfl, hkey⟩ : key = a.mergeKey ∧ key' = b.mergeKey ∧ a.mergeKey = c.mergeKey := by
    simp only [List.map_cons, List.cons.injEq] at heq
    exact ⟨heq.1, heq.2.1, heq.1.symm.trans heq.2.2.1⟩
  have hmem : ∀ st ∈ [a, b, c], st ∈ merged := fun st hst => mem_inOrder.1 (hsts.subset hst)
  have hpairs := (pairwise_sortStatements s merged).sublist hsts
  simp only [List.pairwise_cons, List.mem_cons, List.not_mem_nil, or_false, forall_eq_or_imp,
    forall_eq] at hpairs
  obtain ⟨⟨hab, -⟩, hbc, -⟩ := hpairs
  have hac : Statement.compare s a c = .eq :=
    (mergeKey_eq_iff_compare hsort hindex h (hmem a (by simp)) (hmem c (by simp))).1 hkey
  have hab : Statement.compare s a b = .eq := Statement.compare_eq_of_between hab hbc hac
  exact ((mergeKey_eq_iff_compare hsort hindex h (hmem a (by simp)) (hmem b (by simp))).2 hab).symm

theorem ofKey_sortStatements (hsort : s.sortBy ≠ "name")
    (hindex : (members.map (·.index)).Nodup) (h : (mergeDuplicates members).result = .ok merged)
    (key : MergeKey) : ofKey key (sortStatements s merged) = ofKey key merged := by
  apply filter_inOrder
  intro a ha b hb hkey hkey'
  have hsame : a.mergeKey = b.mergeKey := by
    rw [of_decide_eq_true hkey, of_decide_eq_true hkey']
  rw [Statement.mayPrecede, (mergeKey_eq_iff_compare hsort hindex h ha hb).1 hsame]
  rfl

/-- Merging the statements of a group once more changes nothing. -/
theorem mergeDuplicates_sortStatements (hsort : s.sortBy ≠ "name")
    (hindex : (members.map (·.index)).Nodup) (h : (mergeDuplicates members).result = .ok merged) :
    (mergeDuplicates (sortStatements s merged)).result = .ok (sortStatements s merged) := by
  apply mergeDuplicates_eq_self (clustered_sortStatements hsort hindex h)
  intro st hst
  rw [ofKey_sortStatements hsort hindex h]
  exact mergeClass_again (mergeClass_of_mergeDuplicates h (mem_inOrder.1 hst))

/-- Merged statements stand in the order of their places if those before stood together in the
order of theirs. -/
theorem pairwise_index_flatten {cs ms : List (List Statement)}
    (h : List.Forall₂ (fun c m => (mergeClass c).result = .ok m) cs ms)
    (hcs : cs.flatten.Pairwise fun a b => a.index < b.index) :
    ms.flatten.Pairwise fun a b => a.index ≤ b.index := by
  induction h with
  | nil => exact .nil
  | @cons c m cs ms hm hrest ih =>
    rw [List.flatten_cons, List.pairwise_append] at hcs ⊢
    obtain ⟨-, hcs, hbefore⟩ := hcs
    have hindex := index_of_mergeClass hm
    refine ⟨?_, ih hcs, ?_⟩
    · apply List.pairwise_of_forall_mem_list
      intro a ha b hb
      have heq := (hindex a ha).symm.trans (hindex b hb)
      exact Nat.le_of_eq (Option.some.inj heq)
    · intro a ha b hb
      obtain ⟨m', hm', hb⟩ := List.mem_flatten.1 hb
      obtain ⟨c', hc', hmerge⟩ := exists_mem_of_forall₂ hrest hm'
      obtain ⟨first, hfirst, heq⟩ := Option.map_eq_some_iff.1 (hindex a ha)
      obtain ⟨first', hfirst', heq'⟩ := Option.map_eq_some_iff.1 (index_of_mergeClass hmerge b hb)
      rw [← heq, ← heq']
      exact Nat.le_of_lt (hbefore first (List.mem_of_mem_head? hfirst) first'
        (List.mem_flatten.2 ⟨c', hc', List.mem_of_mem_head? hfirst'⟩))

/-- Statements in the order of a sorted group and of their places are sorted. -/
theorem sortStatements_eq_self {sorted sts : List Statement}
    (hsorted : sorted.Pairwise (Statement.mayPrecede s · · = true))
    (hsame : sts.map Statement.withoutIndex = sorted.map Statement.withoutIndex)
    (hindex : sts.Pairwise fun a b => a.index ≤ b.index) : sortStatements s sts = sts := by
  apply inOrder_eq_self
  have hplaces : (sts.map Statement.withoutIndex).Pairwise
      (Statement.mayPrecede s · · = true) := by
    rw [hsame, List.pairwise_map]
    exact hsorted.imp Statement.mayPrecede_withoutIndex
  rw [List.pairwise_map] at hplaces
  refine (hplaces.and hindex).imp ?_
  rintro a b ⟨hab, hle⟩
  exact Statement.mayPrecede_of_withoutIndex hab hle

/-- **A group is merged and sorted again** into the same statements. -/
theorem mergedMembers_again (hsort : s.sortBy ≠ "name")
    (hindex : (members.map (·.index)).Nodup) (h : mergedMembers s members = .ok merged)
    {sts : List Statement}
    (hsame : sts.map Statement.withoutIndex =
      (sortStatements s merged).map Statement.withoutIndex)
    (hplaces : sts.Pairwise fun a b => a.index < b.index) :
    ∃ merged', mergedMembers s sts = .ok merged' ∧
      (sortStatements s merged').map Statement.withoutIndex =
        (sortStatements s merged).map Statement.withoutIndex := by
  have hsorted := pairwise_sortStatements s merged
  unfold mergedMembers at h ⊢
  split at h
  · rename_i hmerge
    rw [if_pos hmerge]
    -- Places do not matter for merging, so that it gives the statements of the sorted group.
    have hagain := mergeDuplicates_withoutIndex (sortStatements s merged)
    rw [mergeDuplicates_sortStatements hsort hindex h, ← hsame, mergeDuplicates_withoutIndex]
      at hagain
    obtain ⟨merged', hmerged', heq⟩ := Except.exists_of_map_eq_ok hagain
    refine ⟨merged', hmerged', ?_⟩
    obtain ⟨ms, hms, rfl⟩ := mergeDuplicates_eq_ok hmerged'
    have hkeys : sts.map (·.mergeKey) = (sortStatements s merged).map (·.mergeKey) := by
      have hmap := congrArg (List.map (·.mergeKey)) hsame
      rw [List.map_map, List.map_map] at hmap
      exact hmap
    have hclustered := clustered_sortStatements hsort hindex h
    rw [← hkeys] at hclustered
    rw [sortStatements_eq_self hsorted heq, heq]
    apply pairwise_index_flatten hms
    rw [flatten_classesByKey hclustered]
    exact hplaces
  · rename_i hmerge
    rw [if_neg hmerge]
    obtain rfl := Except.ok.inj h
    refine ⟨sts, rfl, ?_⟩
    rw [sortStatements_eq_self hsorted hsame, hsame]
    exact hplaces.imp Nat.le_of_lt

end Group

/-! ## All groups -/

/-- Statements with places in the order in which they stand. -/
def renumber (ss : List Statement) : List Statement := ss.mapIdx fun i st => { st with index := i }

theorem map_withoutIndex_renumber (ss : List Statement) :
    (renumber ss).map Statement.withoutIndex = ss.map Statement.withoutIndex := by
  apply List.ext_getElem
  · simp [renumber]
  · intro i hi hi'
    simp [renumber, Statement.withoutIndex]

theorem pairwise_index_renumber (ss : List Statement) :
    (renumber ss).Pairwise fun a b => a.index < b.index := by
  rw [List.pairwise_iff_getElem]
  intro i j hi hj hij
  simpa [renumber] using hij

theorem exists_like_of_mem_renumber {ss : List Statement} {st : Statement}
    (h : st ∈ renumber ss) : ∃ st' ∈ ss, st.IsLike st' := by
  obtain ⟨i, hi, rfl⟩ := List.mem_mapIdx.1 h
  exact ⟨ss[i], List.getElem_mem hi, rfl, rfl⟩

section Groups

variable {s : Settings} {project : Option Project} {groups : List Group}

theorem membersAt_append (position : Int) (ss ss' : List Statement) :
    membersAt project groups position (ss ++ ss') =
      membersAt project groups position ss ++ membersAt project groups position ss' :=
  List.filter_append ss ss'

theorem exists_of_mem_membersAt {position : Int} {ss : List Statement} {st : Statement}
    (h : st ∈ membersAt project groups position ss) :
    st ∈ ss ∧ ∃ g, Group.classify? project groups st = some g ∧ g.position = position := by
  simpa [membersAt, Option.any_eq_true] using h

/-- A relabeled statement belongs to the same group. -/
theorem Group.classify?_map {φ : Statement → Statement} {f : Binding → Binding}
    (hφ : Statement.IsRelabeling φ f) (st : Statement) :
    classify? project groups (φ st) = classify? project groups st :=
  classify?_congr ⟨Statement.specifier_map hφ st, Statement.isSideEffect_map hφ st⟩ project groups

theorem membersAt_map {φ : Statement → Statement} {f : Binding → Binding}
    (hφ : Statement.IsRelabeling φ f) (position : Int) (ss : List Statement) :
    membersAt project groups position (ss.map φ) =
      (membersAt project groups position ss).map φ := by
  rw [membersAt, List.filter_map]
  simp only [Function.comp_def, Group.classify?_map hφ]
  rfl

/-- The members of each group are the statements that came out of it. -/
theorem membersAt_flatten {R : Int → List Statement → Prop} {positions : List Int}
    {arranged : List (List Statement)} (hnodup : positions.Nodup)
    (hbelongs : ∀ position group, R position group → ∀ st ∈ group, ∃ g,
      Group.classify? project groups st = some g ∧ g.position = position)
    (h : List.Forall₂ R positions arranged) :
    List.Forall₂ (fun position group => R position group ∧
      membersAt project groups position arranged.flatten = group) positions arranged := by
  induction h with
  | nil => exact .nil
  | @cons position group positions arranged hR hrest ih =>
    obtain ⟨hnew, hnodup⟩ := List.nodup_cons.1 hnodup
    have hgroup := hbelongs position group hR
    -- No other position has a statement of the first group, and it has none of the later ones.
    have hself : membersAt project groups position group = group := by
      rw [membersAt, List.filter_eq_self]
      intro st hst
      obtain ⟨g, hg, rfl⟩ := hgroup st hst
      simp [hg]
    have hother : ∀ position' ≠ position, membersAt project groups position' group = [] := by
      intro position' hne
      rw [membersAt, List.filter_eq_nil_iff]
      intro st hst
      obtain ⟨g, hg, rfl⟩ := hgroup st hst
      simpa [hg] using hne.symm
    have hlater : membersAt project groups position arranged.flatten = [] := by
      rw [membersAt, List.filter_eq_nil_iff]
      intro st hst
      obtain ⟨group', hgroup', hst⟩ := List.mem_flatten.1 hst
      obtain ⟨position', hposition', hR'⟩ := exists_mem_of_forall₂ hrest hgroup'
      obtain ⟨g, hg, rfl⟩ := hbelongs position' group' hR' st hst
      have hne : g.position ≠ position := by
        rintro rfl
        exact hnew hposition'
      simpa [hg] using hne
    refine .cons ⟨hR, ?_⟩ ?_
    · rw [List.flatten_cons, membersAt_append, hself, hlater, List.append_nil]
    · have hmem := (List.forall₂_and_left _ _).2 ⟨fun _ => id, ih hnodup⟩
      refine hmem.imp ?_
      rintro position' group' ⟨hposition', hR', heq⟩
      have hne : position' ≠ position := by
        rintro rfl
        exact hnew hposition'
      refine ⟨hR', ?_⟩
      rw [List.flatten_cons, membersAt_append, hother position' hne, heq, List.nil_append]

/-- A group comes out the same when it is arranged from what came out of all groups. -/
theorem arrangeGroup_again {ss : List Statement} {arranged : List (List Statement)}
    (hsort : s.sortBy ≠ "name") (hindex : (ss.map (·.index)).Nodup) {position : Int}
    {group : List Statement}
    (h : (∃ merged, mergedMembers s (membersAt project groups position ss) = .ok merged ∧
        group = sortStatements s merged) ∧
      membersAt project groups position arranged.flatten = group) :
    ∃ group', (∃ merged,
        mergedMembers s (membersAt project groups position (renumber arranged.flatten)) =
          .ok merged ∧ group' = sortStatements s merged) ∧
      group'.map Statement.withoutIndex = group.map Statement.withoutIndex := by
  obtain ⟨⟨merged, hmerged, rfl⟩, hmembers⟩ := h
  have hplaces : ((membersAt project groups position ss).map (·.index)).Nodup :=
    hindex.sublist (List.filter_sublist.map _)
  have hsame : (membersAt project groups position (renumber arranged.flatten)).map
      Statement.withoutIndex = (sortStatements s merged).map Statement.withoutIndex := by
    rw [← membersAt_map Statement.isRelabeling_withoutIndex, map_withoutIndex_renumber,
      membersAt_map Statement.isRelabeling_withoutIndex, hmembers]
  obtain ⟨merged', hmerged', heq⟩ := mergedMembers_again hsort hplaces hmerged hsame
    ((pairwise_index_renumber arranged.flatten).sublist List.filter_sublist)
  exact ⟨sortStatements s merged', ⟨merged', hmerged', rfl⟩, heq⟩

theorem exists_forall₂_of_exists {α β γ : Type} {R : α → β → Prop} {f : β → γ} {xs : List α}
    {ys : List β} (h : List.Forall₂ (fun x y => ∃ y', R x y' ∧ f y' = f y) xs ys) :
    ∃ ys', List.Forall₂ R xs ys' ∧ ys'.map f = ys.map f := by
  induction h with
  | nil => exact ⟨[], .nil, rfl⟩
  | @cons x y xs ys hxy _ ih =>
    obtain ⟨y', hy', heq⟩ := hxy
    obtain ⟨ys', hys', heqs⟩ := ih
    exact ⟨y' :: ys', .cons hy' hys', by rw [List.map_cons, List.map_cons, heq, heqs]⟩

/-- Leaving out empty groups does not look at the statements. -/
theorem filter_nonempty_map (φ : Statement → Statement) (arranged : List (List Statement)) :
    (arranged.filter (!·.isEmpty)).map (List.map φ) =
      (arranged.map (List.map φ)).filter (!·.isEmpty) := by
  rw [List.filter_map]
  simp only [Function.comp_def, List.isEmpty_map]

/-- **Arranging once more changes nothing**: statements sorted by their modules, arranged again in
the order in which they came out, come out the same but for their places. -/
theorem arrange_renumber [Platform] {ss : List Statement} {out : List (List Statement)}
    (hsort : s.sortBy ≠ "name") (hindex : (ss.map (·.index)).Nodup)
    (h : (arrange s project ss).result = .ok out) :
    ∃ again, (arrange s project (renumber out.flatten)).result = .ok again ∧
      again.map (List.map Statement.withoutIndex) = out.map (List.map Statement.withoutIndex) := by
  obtain ⟨groups, arranged, hgroups, hclassified, harranged, rfl⟩ := arrange_eq_ok_iff.1 h
  rw [Union.flatten_filter_nonempty]
  have hnodup := Group.nodup_build hgroups
  have hpositions : (sortedPositions groups).Nodup :=
    (pairwise_sortedPositions hnodup).imp Int.ne_of_lt
  -- Merged statements are still of their groups, and so the groups have the members they gave.
  have hbelongs : ∀ position group, (∃ merged,
      mergedMembers s (membersAt project groups position ss) = .ok merged ∧
        group = sortStatements s merged) →
      ∀ st ∈ group, ∃ g, Group.classify? project groups st = some g ∧ g.position = position := by
    rintro position group ⟨merged, hmerged, rfl⟩ st hst
    obtain ⟨st', hst', hlike⟩ := exists_like_of_mergedMembers hmerged st (mem_inOrder.1 hst)
    rw [Group.classify?_congr hlike]
    exact (exists_of_mem_membersAt hst').2
  have hmembers := membersAt_flatten hpositions hbelongs harranged
  obtain ⟨arranged', harranged', heq⟩ := exists_forall₂_of_exists <|
    hmembers.imp fun position group hgroup => arrangeGroup_again hsort hindex hgroup
  refine ⟨arranged'.filter (!·.isEmpty), ?_, ?_⟩
  · refine arrange_eq_ok_iff.2 ⟨groups, arranged', hgroups, ?_, harranged', rfl⟩
    intro st hst
    obtain ⟨st', hst', hlike⟩ := exists_like_of_mem_renumber hst
    obtain ⟨group, hgroup, hst'⟩ := List.mem_flatten.1 hst'
    obtain ⟨position, -, hmerged⟩ := exists_mem_of_forall₂ harranged hgroup
    obtain ⟨g, hg, -⟩ := hbelongs position group hmerged st' hst'
    rw [Group.classify?_congr hlike, hg]
    rfl
  · rw [filter_nonempty_map, filter_nonempty_map, heq]

end Groups

section Usual

attribute [local instance] Platform.usual

/-- The two statements that four imports of `./m` became are merged again into themselves. -/
theorem arrange_renumber_effects : ∃ out,
    (arrange effectSettings none effectStatements).result = .ok out ∧
      out.map List.length = [2, 2] ∧
      ∃ again, (arrange effectSettings none (renumber out.flatten)).result = .ok again ∧
        again.map (List.map Statement.withoutIndex) =
          out.map (List.map Statement.withoutIndex) := by
  obtain ⟨out, hok, hlength⟩ := arrange_effectStatements
  exact ⟨out, hok, hlength, arrange_renumber (by decide) (by decide) hok⟩

end Usual

end ImportOrder
