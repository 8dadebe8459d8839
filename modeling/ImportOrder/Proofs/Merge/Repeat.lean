import ImportOrder.Proofs.Merge.Relabeling

/-!
# Merging once more

The statements that replace those of a key are replaced by themselves: their bindings are those of
the union, which comes out of adding them again, and all their comments are at the first. Merging
does not look at the places of the statements; a merged statement takes the place of the first one.

## Main definitions

* `Statement.withoutIndex`: a statement without its place in the source
* `Clustered`: statements of one key stand together

## Main results

* `Union.addAll_bindings`: adding the bindings of a union gives the union
* `mergeClass_again`: merging once more changes nothing
* `mergeDuplicates_withoutIndex`: merging does not look at places
* `mergeDuplicates_eq_self`: statements that stand together and are merged stay as they are
-/

namespace ImportOrder

namespace Union

/-! ## Adding the bindings of a union -/

theorem binds_eq_false {u : Union} {name : Text} :
    u.binds name = false ↔ name ∉ u.bindings.map (·.localName) := by
  rw [← Bool.not_eq_true, binds, List.any_eq_true, List.mem_map]
  simp only [beq_iff_eq]

theorem localName_upgrade (b a : Binding) : (upgrade b a).localName = a.localName := by
  rcases upgrade_cases b a with heq | ⟨heq, hsame, -⟩
  · rw [heq]
  · rw [heq]
    obtain ⟨-, hlocal⟩ : b.name = a.name ∧ b.localName = a.localName := by
      simpa [sameNamed] using hsame
    exact hlocal

/-- Bindings of a union have different local names, and adding one keeps it so. -/
theorem nodup_add {u u' : Union} {b : Binding} (hu : (u.bindings.map (·.localName)).Nodup)
    (h : u.add b = .ok u') : (u'.bindings.map (·.localName)).Nodup := by
  have hcons : u.binds b.localName = false →
      ((b :: u.bindings).map (·.localName)).Nodup := by
    intro hfree
    exact List.nodup_cons.2 ⟨binds_eq_false.1 hfree, hu⟩
  rcases add_cases h with ⟨-, -, rfl⟩ | ⟨-, hfree, rfl⟩ | ⟨-, -, rfl⟩ | ⟨-, hnone, hfree, rfl⟩ |
    ⟨-, -, rfl⟩ | ⟨-, hnone, hfree, rfl⟩
  · have hsame : (u.named.map (upgrade b)).map (·.localName) = u.named.map (·.localName) := by
      rw [List.map_map]
      exact List.map_congr_left fun a _ => localName_upgrade b a
    simp only [bindings, List.map_append] at hu ⊢
    rwa [hsame]
  · refine (List.Perm.nodup_iff ?_).1 (hcons hfree)
    apply List.Perm.map
    simp only [bindings, ← List.append_assoc]
    exact (List.perm_append_singleton b _).symm
  · exact hu
  · have hb := hcons hfree
    rw [bindings, hnone] at hb
    exact hb
  · exact hu
  · refine (List.Perm.nodup_iff ?_).1 (hcons hfree)
    apply List.Perm.map
    simp only [bindings, hnone, Option.toList_none, List.append_nil, Option.toList_some,
      List.append_assoc, List.singleton_append]
    exact List.perm_middle.symm

theorem nodup_addAll {u u' : Union} {bs : List Binding} (hu : (u.bindings.map (·.localName)).Nodup)
    (h : u.addAll bs = .ok u') : (u'.bindings.map (·.localName)).Nodup := by
  induction bs generalizing u with
  | nil =>
    obtain rfl := Except.ok.inj h
    exact hu
  | cons b bs ih =>
    obtain ⟨v, hv, hrest⟩ := addAll_cons h
    exact ih (nodup_add hu hv) hrest

theorem addAll_append {u v : Union} {bs cs : List Binding} (h : u.addAll bs = .ok v) :
    u.addAll (bs ++ cs) = v.addAll cs := by
  induction bs generalizing u with
  | nil =>
    obtain rfl := Except.ok.inj h
    rfl
  | cons b bs ih =>
    obtain ⟨w, hw, hrest⟩ := addAll_cons h
    rw [List.cons_append, addAll, hw]
    exact ih hrest

/-- A named binding with a free local name comes last. -/
theorem add_named {u : Union} {b : Binding} (hk : b.kind = .namedExport)
    (hfree : u.binds b.localName = false) :
    u.add b = .ok { u with named := u.named ++ [b] } := by
  have hnew : u.named.any (sameNamed b) = false := by
    rw [List.any_eq_false]
    intro a ha hsame
    obtain ⟨-, hlocal⟩ : b.name = a.name ∧ b.localName = a.localName := by
      simpa [sameNamed] using hsame
    refine binds_eq_false.1 hfree ?_
    rw [hlocal]
    exact List.mem_map_of_mem (mem_bindings.2 (.inr (.inr ha)))
  simp [add, hk, addNamed, hnew, hfree]

theorem addAll_named {u : Union} {bs : List Binding} (hk : ∀ b ∈ bs, b.kind = .namedExport)
    (hnodup : ((u.bindings ++ bs).map (·.localName)).Nodup) :
    u.addAll bs = .ok { u with named := u.named ++ bs } := by
  induction bs generalizing u with
  | nil => rw [addAll, List.append_nil]
  | cons b bs ih =>
    have hfree : u.binds b.localName = false := by
      rw [binds_eq_false]
      intro hmem
      rw [List.map_append, List.map_cons, List.nodup_append] at hnodup
      exact hnodup.2.2 _ hmem _ List.mem_cons_self rfl
    have hrest : ({ u with named := u.named ++ [b] } : Union).bindings ++ bs =
        u.bindings ++ b :: bs := by
      simp [bindings]
    rw [addAll, add_named (hk b List.mem_cons_self) hfree]
    show addAll _ bs = _
    rw [ih fun a ha => hk a (List.mem_cons_of_mem b ha)]
    · simp
    · rw [hrest]
      exact hnodup

/-- **Adding the bindings of a union** gives the union. -/
theorem addAll_bindings {u : Union} (hu : u.Tidy) (hnodup : (u.bindings.map (·.localName)).Nodup) :
    ({} : Union).addAll u.bindings = .ok u := by
  have hdefault : ({} : Union).addAll u.defaultHead.toList =
      .ok { defaultHead := u.defaultHead } := by
    cases hd : u.defaultHead with
    | none => rfl
    | some d =>
      have hk := hu.default d hd
      simp [addAll, add, hk, addHead, binds, bindings, bind, Except.bind, pure, Except.pure]
  have hns : ({ defaultHead := u.defaultHead } : Union).addAll u.namespaceHead.toList =
      .ok { defaultHead := u.defaultHead, namespaceHead := u.namespaceHead } := by
    cases hn : u.namespaceHead with
    | none => rfl
    | some n =>
      have hk := hu.ns n hn
      have hfree : ({ defaultHead := u.defaultHead } : Union).binds n.localName = false := by
        rw [binds_eq_false]
        intro hmem
        rw [bindings, hn, List.map_append, List.map_append, List.nodup_append] at hnodup
        have hheads := hnodup.1
        rw [List.nodup_append] at hheads
        refine hheads.2.2 n.localName ?_ n.localName (by simp) rfl
        simpa [bindings] using hmem
      simp [addAll, add, hk, addHead, hfree, bind, Except.bind, pure, Except.pure]
  rw [bindings, List.append_assoc, addAll_append hdefault, addAll_append hns]
  rw [addAll_named hu.named]
  · simp
  · simpa [bindings] using hnodup

end Union

/-! ## One class -/

namespace Statement

theorem mergedLeading_of_bare {sts : List Statement} (h : ∀ st ∈ sts, st.comments = [])
    (taken : Bool) : mergedLeading taken sts = [] := by
  induction sts generalizing taken with
  | nil => rfl
  | cons st sts ih =>
    obtain ⟨hleading, htrailing⟩ : st.leadingComments = [] ∧ st.trailingComment = none := by
      simpa [comments] using h st List.mem_cons_self
    rw [mergedLeading, ih fun a ha => h a (List.mem_cons_of_mem st ha), hleading, htrailing]
    simp

theorem findSome?_of_bare {sts : List Statement} (h : ∀ st ∈ sts, st.comments = []) :
    sts.findSome? (·.trailingComment) = none := by
  rw [List.findSome?_eq_none_iff]
  intro st hst
  obtain ⟨-, htrailing⟩ : st.leadingComments = [] ∧ st.trailingComment = none := by
    simpa [comments] using h st hst
  exact htrailing

theorem foldl_eq_self {op : Nat → Nat → Nat} (hop : ∀ n, op n n = n) {f : Statement → Nat}
    {n : Nat} {sts : List Statement} (h : ∀ st ∈ sts, f st = n) :
    sts.foldl (fun m st => op m (f st)) n = n := by
  induction sts with
  | nil => rfl
  | cons st sts ih =>
    rw [List.foldl_cons, h st List.mem_cons_self, hop]
    exact ih fun a ha => h a (List.mem_cons_of_mem st ha)

section Again

variable {first : Statement} {group : List Statement} {shape : List Binding}
  {shapes : List (List Binding)}

/-- All comments of merged statements are at the first, and each covers the same part of the
source, so that the statements made of them are the same. -/
theorem withShape_again (i : Nat) (bs : List Binding) :
    withShape (withShape first group 0 shape)
        ((shape :: shapes).mapIdx (withShape first group)) i bs =
      withShape first group i bs := by
  rw [List.mapIdx_cons]
  let rest := shapes.mapIdx fun j => withShape first group (j + 1)
  have hmem : ∀ st ∈ rest, ∃ j bs, st = withShape first group (j + 1) bs := by
    intro st hst
    obtain ⟨j, hj, rfl⟩ := List.mem_mapIdx.1 hst
    exact ⟨j, _, rfl⟩
  -- Only the first of the statements has comments, and all have the same place in the source.
  have hbare : ∀ st ∈ rest, st.comments = [] := by
    intro st hst
    obtain ⟨j, bs, rfl⟩ := hmem st hst
    simp [comments, withShape]
  have hleading : mergedLeading false (withShape first group 0 shape :: rest) =
      mergedLeading false group := by
    rw [mergedLeading, mergedLeading_of_bare hbare]
    simp [withShape]
  have htrailing : (withShape first group 0 shape :: rest).findSome? (·.trailingComment) =
      group.findSome? (·.trailingComment) := by
    rw [List.findSome?_cons, findSome?_of_bare hbare]
    cases h : group.findSome? (·.trailingComment) <;> simp [withShape, h]
  have hstart : ∀ st ∈ withShape first group 0 shape :: rest,
      st.start = (withShape first group 0 shape).start := by
    intro st hst
    rcases List.mem_cons.1 hst with rfl | hst
    · rfl
    · obtain ⟨j, bs, rfl⟩ := hmem st hst
      rfl
  have hstop : ∀ st ∈ withShape first group 0 shape :: rest,
      st.stop = (withShape first group 0 shape).stop := by
    intro st hst
    rcases List.mem_cons.1 hst with rfl | hst
    · rfl
    · obtain ⟨j, bs, rfl⟩ := hmem st hst
      rfl
  show withShape _ (withShape first group 0 shape :: rest) i bs = _
  rw [withShape, hleading, htrailing, foldl_eq_self (fun n => Nat.min_self n) hstart,
    foldl_eq_self (fun n => Nat.max_self n) hstop]
  rfl

/-- A statement for the side effect is among merged ones if it is to be there again. -/
theorem mergedShapes_again (first : Statement) (typeOnly : Bool) (group : List Statement)
    (u : Union) :
    mergedShapes typeOnly ((mergedShapes typeOnly group u).mapIdx (withShape first group)) u =
      mergedShapes typeOnly group u := by
  have hany : ((mergedShapes typeOnly group u).mapIdx (withShape first group)).any isSideEffect =
      (mergedShapes typeOnly group u).any List.isEmpty := by
    conv => rhs; rw [← map_bindings_mapIdx first group (mergedShapes typeOnly group u)]
    rw [List.any_map]
    rfl
  rw [mergedShapes, hany]
  by_cases hadded : (!typeOnly && decide (u.shapes typeOnly ≠ [[]]) && group.any isSideEffect &&
      u.bindings.all (·.typeOnly)) = true
  · -- The empty statement that was added is there for the side effect, and so it is added again.
    have hshapes : mergedShapes typeOnly group u = [] :: u.shapes typeOnly := if_pos hadded
    rw [hshapes]
    simp only [Bool.and_eq_true] at hadded
    simp [hadded]
  · have hshapes : mergedShapes typeOnly group u = u.shapes typeOnly := if_neg hadded
    rw [hshapes]
    have hnone : u.shapes typeOnly ≠ [[]] → (u.shapes typeOnly).any List.isEmpty = false := by
      intro hne
      rw [List.any_eq_false]
      intro bs hbs hempty
      rw [List.isEmpty_iff.1 hempty] at hbs
      exact hne ((u.shapes_eq_empty_iff typeOnly).2 (nil_mem_shapes hbs))
    apply if_neg
    intro hcond
    simp only [Bool.and_eq_true, decide_eq_true_eq] at hcond
    obtain ⟨⟨⟨-, hne⟩, hempty⟩, -⟩ := hcond
    rw [hnone hne] at hempty
    cases hempty

/-- Combining the statements that replace others gives the same statements. -/
theorem combine_again {others rest : List Statement} {st : Statement}
    (h : first.combine others = .ok (st :: rest)) : st.combine rest = .ok (st :: rest) := by
  obtain ⟨u, hu, hinner, hmerged⟩ := combine_eq_ok h
  have htidy : u.Tidy := Union.Tidy.addAll Union.tidy_empty hu
  have hnodup := Union.nodup_addAll (by simp [Union.bindings]) hu
  have hbindings : (st :: rest).flatMap (·.bindings) = u.bindings := by
    rw [hmerged]
    exact flatMap_bindings_mapIdx first _ u
  -- The union of the new bindings is the union itself, and it is spread over the same shapes.
  have hshapes := mergedShapes_again first first.typeOnly (first :: others) u
  rw [← hmerged] at hshapes
  obtain ⟨shape, shapes, hcons⟩ := List.exists_cons_of_ne_nil
    (mergedShapes_ne_nil first.typeOnly (first :: others) u)
  rw [hcons] at hmerged hshapes
  have hst : st = withShape first (first :: others) 0 shape := by
    rw [List.mapIdx_cons] at hmerged
    exact (List.cons.inj hmerged).1
  have hnone : (st :: rest).any (·.innerComments) = false := by
    rw [List.any_eq_false]
    intro a ha
    rw [hmerged] at ha
    obtain ⟨i, -, rfl⟩ := List.mem_mapIdx.1 ha
    simp [withShape, hinner first List.mem_cons_self]
  have htype : st.typeOnly = first.typeOnly := by rw [hst]; rfl
  have hwith : withShape st (st :: rest) = withShape first (first :: others) := by
    funext i bs
    rw [hmerged, hst]
    exact withShape_again i bs
  simp only [combine, hnone, hbindings, Union.addAll_bindings htidy hnodup, htype, hshapes, hwith,
    ← hmerged]
  simp

end Again

end Statement

/-- **Merging once more** changes nothing. -/
theorem mergeClass_again {c m : List Statement} (h : (mergeClass c).result = .ok m) :
    (mergeClass m).result = .ok m := by
  rcases mergeClass_cases h with ⟨-, rfl⟩ | ⟨first, others, rfl, hcombine⟩
  · exact h
  cases m with
  | nil => rfl
  | cons st rest =>
    cases rest with
    | nil => rfl
    | cons st' rest =>
      rw [mergeClass, Journaled.result_bind, Journaled.result_ofExcept,
        Statement.combine_again hcombine]
      · rfl
      · simp

/-- A statement that replaces others takes the place of the first one. -/
theorem index_of_mergeClass {c m : List Statement} (h : (mergeClass c).result = .ok m) :
    ∀ st ∈ m, c.head?.map (·.index) = some st.index := by
  rcases mergeClass_cases h with ⟨hlength, rfl⟩ | ⟨first, others, rfl, hcombine⟩
  · match m, hlength with
    | [], _ => simp
    | [st], _ => simp
  · obtain ⟨u, -, -, rfl⟩ := Statement.combine_eq_ok hcombine
    intro st hst
    obtain ⟨i, -, rfl⟩ := List.mem_mapIdx.1 hst
    rfl

/-! ## Places do not matter -/

namespace Statement

/-- A statement without its place in the source. -/
def withoutIndex (st : Statement) : Statement := { st with index := 0 }

/-- Places do not matter for merging. -/
theorem isRelabeling_withoutIndex : IsRelabeling withoutIndex id where
  binding := Binding.isRelabeling_id
  bindings _ := (List.map_id _).symm
  mergeKey _ := rfl
  innerComments _ := rfl
  withShape first group i bs := by
    rw [List.map_id, withShape, mergedLeading_map withoutIndex (fun _ => rfl) fun _ => rfl,
      List.findSome?_map, List.foldl_map, List.foldl_map]
    rfl

end Statement

/-- **Merging does not look at places.** -/
theorem mergeDuplicates_withoutIndex (ss : List Statement) :
    (mergeDuplicates (ss.map Statement.withoutIndex)).result =
      (mergeDuplicates ss).result.map (List.map Statement.withoutIndex) :=
  mergeDuplicates_map Statement.isRelabeling_withoutIndex fun _ _ _ _ _ _ _ _ _ => id

/-! ## Statements that stand together -/

/-- **Equal keys stand together.** -/
def Clustered (keys : List MergeKey) : Prop :=
  ∀ key key', [key, key', key].Sublist keys → key' = key

theorem Clustered.tail {key : MergeKey} {keys : List MergeKey} (h : Clustered (key :: keys)) :
    Clustered keys :=
  fun k k' hsub => h k k' (hsub.cons key)

/-- The classes of statements that stand together are their parts. -/
theorem flatten_classesByKey {ss : List Statement} (h : Clustered (ss.map (·.mergeKey))) :
    (classesByKey ss).flatten = ss := by
  induction ss with
  | nil => rfl
  | cons s ss ih =>
    have hrest := ih h.tail
    cases ss with
    | nil => rfl
    | cons t ts =>
      by_cases hkey : t.mergeKey = s.mergeKey
      · have hkeep : ((classesByKey ts).filter fun c => c.all (·.mergeKey ≠ t.mergeKey)).filter
            (fun c => c.all (·.mergeKey ≠ t.mergeKey)) =
              (classesByKey ts).filter fun c => c.all (·.mergeKey ≠ t.mergeKey) := by
          rw [List.filter_filter]
          simp only [Bool.and_self]
        rw [classesByKey] at hrest
        rw [classesByKey, classesByKey, ← hkey, List.filter_cons_of_pos (by simp),
          List.filter_cons_of_neg (by simp), hkeep]
        rw [List.flatten_cons] at hrest ⊢
        rw [List.cons_append, hrest]
      · have hother : ∀ st ∈ t :: ts, st.mergeKey ≠ s.mergeKey := by
          intro st hst heq
          rcases List.mem_cons.1 hst with rfl | hst
          · exact hkey heq
          · refine hkey (h s.mergeKey t.mergeKey ?_)
            have hsub : [s.mergeKey].Sublist (ts.map (·.mergeKey)) := by
              rw [List.singleton_sublist, ← heq]
              exact List.mem_map_of_mem hst
            exact (hsub.cons_cons _).cons_cons _
        have hnone : (t :: ts).filter (·.mergeKey = s.mergeKey) = [] := by
          rw [List.filter_eq_nil_iff]
          intro st hst
          simpa using hother st hst
        have hall : (classesByKey (t :: ts)).filter (fun c => c.all (·.mergeKey ≠ s.mergeKey)) =
            classesByKey (t :: ts) := by
          rw [List.filter_eq_self]
          intro c hc
          rw [List.all_eq_true]
          intro st hst
          obtain ⟨st', -, rfl⟩ := mem_classesByKey.1 hc
          exact decide_eq_true (hother st (mem_ofKey.1 hst).1)
        rw [classesByKey, hnone, hall, List.flatten_cons, hrest]
        rfl

theorem mergeDuplicates_eq_ok_iff {ss out : List Statement} :
    (mergeDuplicates ss).result = .ok out ↔
      ∃ ms, List.Forall₂ (fun c m => (mergeClass c).result = .ok m) (classesByKey ss) ms ∧
        out = ms.flatten := by
  refine ⟨mergeDuplicates_eq_ok, ?_⟩
  rintro ⟨ms, hclasses, rfl⟩
  rw [mergeDuplicates, Journaled.result_bind, Journaled.forEach_eq_ok_iff.2 hclasses]
  rfl

/-- **Statements that stand together and are merged** stay as they are. -/
theorem mergeDuplicates_eq_self {ss : List Statement} (h : Clustered (ss.map (·.mergeKey)))
    (hmerged : ∀ st ∈ ss,
      (mergeClass (ofKey st.mergeKey ss)).result = .ok (ofKey st.mergeKey ss)) :
    (mergeDuplicates ss).result = .ok ss := by
  refine mergeDuplicates_eq_ok_iff.2 ⟨classesByKey ss, ?_, (flatten_classesByKey h).symm⟩
  rw [List.forall₂_same]
  intro c hc
  obtain ⟨st, hst, rfl⟩ := mem_classesByKey.1 hc
  exact hmerged st hst

/-- The statements of a key after merging are those that replace the ones before. -/
theorem mergeClass_of_mergeDuplicates {ss out : List Statement}
    (h : (mergeDuplicates ss).result = .ok out) {st : Statement} (hst : st ∈ out) :
    (mergeClass (ofKey st.mergeKey ss)).result = .ok (ofKey st.mergeKey out) := by
  obtain ⟨ms, hclasses, rfl⟩ := mergeDuplicates_eq_ok h
  obtain ⟨m, hm, hst⟩ := List.mem_flatten.1 hst
  obtain ⟨c, hc, hmerge⟩ := exists_mem_of_forall₂ hclasses hm
  obtain ⟨st', hst', hkey⟩ := mergeKey_of_mergeClass hmerge hst
  obtain ⟨st₀, -, rfl⟩ := mem_classesByKey.1 hc
  obtain ⟨hmem, hkey'⟩ := mem_ofKey.1 hst'
  rw [hkey]
  refine mergeClass_ofKey_flatten hclasses (pairwise_classesByKey ss)
    (mem_classesByKey.2 ⟨st', hmem, rfl⟩) ?_ fun a ha => (mem_ofKey.1 ha).2
  exact List.ne_nil_of_mem (mem_ofKey.2 ⟨hmem, rfl⟩)

/-- A statement of a key takes the place of the first one of this key. -/
theorem exists_first_of_mergeDuplicates {ss out : List Statement}
    (h : (mergeDuplicates ss).result = .ok out) {st : Statement} (hst : st ∈ out) :
    ∃ first ∈ ss, (ofKey st.mergeKey ss).head? = some first ∧ first.mergeKey = st.mergeKey ∧
      first.index = st.index := by
  have hmerge := mergeClass_of_mergeDuplicates h hst
  have hindex := index_of_mergeClass hmerge st (mem_ofKey.2 ⟨hst, rfl⟩)
  obtain ⟨first, hfirst, hindex⟩ := Option.map_eq_some_iff.1 hindex
  obtain ⟨hmem, hkey⟩ := mem_ofKey.1 (List.mem_of_mem_head? hfirst)
  exact ⟨first, hmem, hfirst, hkey, hindex⟩

end ImportOrder
