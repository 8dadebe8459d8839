import ImportOrder.Proofs.Merge.Union
import ImportOrder.Proofs.Results

/-!
# Merging loses and invents nothing

Merging replaces the statements of one key by others with the same bindings and comments. A module
is evaluated after merging if it was before, and the statements that replace several ones can be
written down: a namespace does not stand beside a list, and a statement for types binds one thing.

## Main definitions

* `ofKey`: the statements with a key
* `Statement.comments`: the texts of all comments of a statement
* `MergeKeeps`: what merging keeps of the statements with one key

## Main results

* `mem_classesByKey`, `pairwise_classesByKey`: the classes of statements are those of the keys
* `mergeKeeps_combine`: combining the statements of a key keeps what they hold
* `mergeKeeps_mergeDuplicates`: merging loses and invents nothing
-/

namespace ImportOrder

/-- The statements with a key. -/
def ofKey (key : MergeKey) (ss : List Statement) : List Statement := ss.filter (·.mergeKey = key)

theorem mem_ofKey {key : MergeKey} {ss : List Statement} {st : Statement} :
    st ∈ ofKey key ss ↔ st ∈ ss ∧ st.mergeKey = key := by
  simp [ofKey]

/-- The texts of all comments of a statement. -/
def Statement.comments (st : Statement) : List Text :=
  st.leadingComments ++ st.trailingComment.toList

/-- **What merging keeps** of the statements with a key: what they bind, which names are bound to
values, their comments, and whether the module is evaluated. If there were several, a namespace
stands beside no list, and a statement for types has a default, a namespace or a list. -/
structure MergeKeeps (key : MergeKey) (before after : List Statement) : Prop where
  signatures : ∀ x, (∃ st ∈ after, ∃ b ∈ st.bindings, b.signature = x) ↔
    ∃ st ∈ before, ∃ b ∈ st.bindings, b.signature = x
  values : ∀ name localName, (∃ st ∈ after, ∃ b ∈ st.bindings, b.IsValue name localName) ↔
    ∃ st ∈ before, ∃ b ∈ st.bindings, b.IsValue name localName
  comments : (after.flatMap Statement.comments).Perm (before.flatMap Statement.comments)
  evaluated : key.typeOnly = false →
    ((∃ st ∈ after, st.isSideEffect = true ∨ ∃ b ∈ st.bindings, b.typeOnly = false) ↔
      ∃ st ∈ before, st.isSideEffect = true ∨ ∃ b ∈ st.bindings, b.typeOnly = false)
  apart : 2 ≤ before.length → ∀ st ∈ after, ∀ a ∈ st.bindings, ∀ b ∈ st.bindings,
    ¬(a.kind = .namespaceObject ∧ b.kind = .namedExport)
  alone : 2 ≤ before.length → key.typeOnly = true → ∀ st ∈ after,
    st.bindings.length ≤ 1 ∨ ∀ b ∈ st.bindings, b.kind = .namedExport

/-! ## Classes -/

/-- The classes of statements are those of the keys. -/
theorem mem_classesByKey {ss c : List _} :
    c ∈ classesByKey ss ↔ ∃ st ∈ ss, c = ofKey st.mergeKey ss := by
  induction ss generalizing c with
  | nil => simp [classesByKey]
  | cons s ss ih =>
    have hself : ofKey s.mergeKey (s :: ss) = s :: ss.filter (·.mergeKey = s.mergeKey) := by
      simp [ofKey]
    have hother : ∀ {key}, key ≠ s.mergeKey → ofKey key (s :: ss) = ofKey key ss := by
      intro key hkey
      simp [ofKey, Ne.symm hkey]
    rw [classesByKey, List.mem_cons, List.mem_filter, ih]
    constructor
    · rintro (rfl | ⟨⟨st, hst, rfl⟩, hall⟩)
      · exact ⟨s, by simp, hself.symm⟩
      · have hkey : st.mergeKey ≠ s.mergeKey := by
          simpa using List.all_eq_true.1 hall st (mem_ofKey.2 ⟨hst, rfl⟩)
        exact ⟨st, by simp [hst], (hother hkey).symm⟩
    · rintro ⟨st, hst, rfl⟩
      by_cases hkey : st.mergeKey = s.mergeKey
      · rw [hkey, hself]
        exact .inl rfl
      · rcases List.mem_cons.1 hst with rfl | hst
        · exact absurd rfl hkey
        rw [hother hkey]
        refine .inr ⟨⟨st, hst, rfl⟩, ?_⟩
        rw [List.all_eq_true]
        intro st' hst'
        rw [(mem_ofKey.1 hst').2]
        exact decide_eq_true hkey

/-- Different classes have different keys. -/
theorem pairwise_classesByKey (ss : List Statement) :
    (classesByKey ss).Pairwise fun c c' => ∀ a ∈ c, ∀ b ∈ c', a.mergeKey ≠ b.mergeKey := by
  induction ss with
  | nil => exact .nil
  | cons s ss ih =>
    rw [classesByKey, List.pairwise_cons]
    refine ⟨?_, ih.filter _⟩
    intro c hc a ha b hb
    have hkey : a.mergeKey = s.mergeKey := by
      rcases List.mem_cons.1 ha with rfl | ha
      · rfl
      · simpa using (List.mem_filter.1 ha).2
    have hother : b.mergeKey ≠ s.mergeKey := by
      simpa using List.all_eq_true.1 (List.mem_filter.1 hc).2 b hb
    rw [hkey]
    exact hother.symm

/-! ## One class -/

namespace Statement

theorem combine_eq_ok {first : Statement} {others merged : List Statement}
    (h : first.combine others = .ok merged) :
    ∃ u, ({} : Union).addAll ((first :: others).flatMap (·.bindings)) = .ok u ∧
      (∀ st ∈ first :: others, st.innerComments = false) ∧
      merged = (mergedShapes first.typeOnly (first :: others) u).mapIdx
        (withShape first (first :: others)) := by
  simp only [combine] at h
  split at h
  · cases h
  rename_i hinner
  split at h
  · cases h
  rename_i u hu
  refine ⟨u, hu, ?_, (Except.ok.inj h).symm⟩
  simpa using hinner

theorem map_mapIdx_eq_self {α β : Type} {f : Nat → α → β} {g : β → α} (h : ∀ i a, g (f i a) = a)
    (as : List α) : (as.mapIdx f).map g = as := by
  induction as generalizing f with
  | nil => rfl
  | cons a as ih => rw [List.mapIdx_cons, List.map_cons, h, ih fun i a => h (i + 1) a]

theorem map_bindings_mapIdx (first : Statement) (group : List Statement)
    (shapes : List (List Binding)) :
    (shapes.mapIdx (withShape first group)).map (·.bindings) = shapes :=
  map_mapIdx_eq_self (fun _ _ => rfl) shapes

theorem mergeKey_of_mem_mapIdx {first : Statement} {group : List Statement}
    {shapes : List (List Binding)} {st : Statement}
    (h : st ∈ shapes.mapIdx (withShape first group)) : st.mergeKey = first.mergeKey := by
  obtain ⟨i, hi, rfl⟩ := List.mem_mapIdx.1 h
  rfl

/-- A statement for the side effect is added if there was one and all bindings are of types. -/
theorem mergedShapes_cases (typeOnly : Bool) (group : List Statement) (u : Union) :
    (mergedShapes typeOnly group u = [] :: u.shapes typeOnly ∧
      ∃ st ∈ group, st.isSideEffect = true) ∨
    (mergedShapes typeOnly group u = u.shapes typeOnly ∧
      (typeOnly = false → u.bindings ≠ [] → (∃ st ∈ group, st.isSideEffect = true) →
        ∃ b ∈ u.bindings, b.typeOnly = false)) := by
  simp only [mergedShapes]
  split
  · rename_i h
    simp only [Bool.and_eq_true] at h
    exact .inl ⟨rfl, by simpa using h.1.2⟩
  · rename_i h
    refine .inr ⟨rfl, ?_⟩
    rintro htype hne ⟨st, hst, hside⟩
    have hany : group.any isSideEffect = true := List.any_eq_true.2 ⟨st, hst, hside⟩
    have hshapes : u.shapes typeOnly ≠ [[]] := mt (u.shapes_eq_empty_iff typeOnly).1 hne
    subst htype
    simpa [hany, hshapes] using h

theorem flatten_mergedShapes (typeOnly : Bool) (group : List Statement) (u : Union) :
    (mergedShapes typeOnly group u).flatten = u.bindings := by
  rcases mergedShapes_cases typeOnly group u with ⟨h, -⟩ | ⟨h, -⟩
  · rw [h]
    exact u.flatten_shapes typeOnly
  · rw [h]
    exact u.flatten_shapes typeOnly

/-- The bindings of merged statements are those of the union. -/
theorem flatMap_bindings_mapIdx (first : Statement) (group : List Statement) (u : Union) :
    ((mergedShapes first.typeOnly group u).mapIdx (withShape first group)).flatMap (·.bindings) =
      u.bindings := by
  rw [List.flatMap_def, map_bindings_mapIdx, flatten_mergedShapes]

/-! ### Comments -/

theorem mergedLeading_taken (group : List Statement) :
    mergedLeading true group = group.flatMap comments := by
  induction group with
  | nil => rfl
  | cons st group ih => simp [mergedLeading, ih, comments]

/-- The first trailing comment stays behind, and all other comments go above. -/
theorem perm_mergedLeading (group : List Statement) :
    (mergedLeading false group ++ (group.findSome? (·.trailingComment)).toList).Perm
      (group.flatMap comments) := by
  induction group with
  | nil => exact .refl _
  | cons st group ih =>
    cases ht : st.trailingComment with
    | none => simpa [mergedLeading, ht, comments] using ih.append_left st.leadingComments
    | some t =>
      have hperm : (group.flatMap comments ++ [t]).Perm (t :: group.flatMap comments) :=
        List.perm_append_singleton t _
      simpa [mergedLeading, ht, comments, mergedLeading_taken] using
        hperm.append_left st.leadingComments

theorem perm_comments_mapIdx (first : Statement) (group : List Statement)
    {shapes : List (List Binding)} (hne : shapes ≠ []) :
    ((shapes.mapIdx (withShape first group)).flatMap comments).Perm (group.flatMap comments) := by
  obtain ⟨shape, shapes, rfl⟩ := List.exists_cons_of_ne_nil hne
  have hrest : (shapes.mapIdx fun i => withShape first group (i + 1)).flatMap comments = [] := by
    rw [List.flatMap_eq_nil_iff]
    intro st hst
    obtain ⟨i, hi, rfl⟩ := List.mem_mapIdx.1 hst
    simp [comments, withShape]
  rw [List.mapIdx_cons, List.flatMap_cons, hrest, List.append_nil]
  exact perm_mergedLeading group

theorem mergedShapes_ne_nil (typeOnly : Bool) (group : List Statement) (u : Union) :
    mergedShapes typeOnly group u ≠ [] := by
  rcases mergedShapes_cases typeOnly group u with ⟨h, -⟩ | ⟨h, -⟩
  · simp [h]
  · rw [h]
    exact u.shapes_ne_nil typeOnly

/-! ### Evaluation -/

section Evaluation

variable {u : Union} {bs : List Binding}

/-- A union has a binding of a value if one was added. Heads are always of values. -/
theorem exists_value_iff (h : ({} : Union).addAll bs = .ok u)
    (hheads : ∀ b ∈ bs, b.kind ≠ .namedExport → b.typeOnly = false) :
    (∃ b ∈ u.bindings, b.typeOnly = false) ↔ ∃ b ∈ bs, b.typeOnly = false := by
  have hmem : ∀ b ∈ u.bindings, b ∈ bs := by
    intro b hb
    rcases Union.mem_addAll h b hb with hb | hb
    · simp [Union.bindings] at hb
    · exact hb
  constructor
  · rintro ⟨b, hb, hvalue⟩
    exact ⟨b, hmem b hb, hvalue⟩
  · rintro ⟨b, hb, hvalue⟩
    by_cases hk : b.kind = .namedExport
    · obtain ⟨a, ha, hav⟩ := (Union.exists_value_addAll Union.tidy_empty h b.name b.localName).2
        (.inr ⟨b, hb, hk, rfl, rfl, hvalue⟩)
      exact ⟨a, ha, hav.2.2.2⟩
    · have hsig := (Union.mem_signature_addAll Union.tidy_empty h b.signature).2
        (.inr (List.mem_map_of_mem hb))
      obtain ⟨a, ha, heq⟩ := List.mem_map.1 hsig
      have hkind : a.kind = b.kind := congrArg Prod.fst heq
      exact ⟨a, ha, hheads a (hmem a ha) (by rwa [hkind])⟩

theorem bindings_eq_nil_iff (h : ({} : Union).addAll bs = .ok u) : u.bindings = [] ↔ bs = [] := by
  have hsig := Union.mem_signature_addAll Union.tidy_empty h
  constructor
  · rintro hnil
    rw [hnil] at hsig
    cases bs with
    | nil => rfl
    | cons b bs => simpa [Union.bindings] using hsig b.signature
  · rintro rfl
    obtain rfl := Except.ok.inj h
    rfl

/-- An empty shape is that of a union that binds nothing. -/
theorem nil_mem_shapes {typeOnly : Bool} (h : [] ∈ u.shapes typeOnly) : u.bindings = [] := by
  rcases u.shapes_eq typeOnly with ⟨hshapes, -⟩ | ⟨hshapes, -⟩
  · exact (u.shapes_eq_empty_iff typeOnly).1 hshapes
  · rw [hshapes] at h
    simp at h

theorem isSideEffect_iff {st : Statement} : st.isSideEffect = true ↔ st.bindings = [] := by
  simp [isSideEffect]

/-- A module is evaluated after merging if it was before. -/
theorem evaluated_iff {first : Statement} {group : List Statement} (hgroup : group ≠ [])
    (htype : first.typeOnly = false)
    (h : ({} : Union).addAll (group.flatMap (·.bindings)) = .ok u)
    (hheads : ∀ b ∈ group.flatMap (·.bindings), b.kind ≠ .namedExport → b.typeOnly = false) :
    (∃ st ∈ (mergedShapes first.typeOnly group u).mapIdx (withShape first group),
        st.isSideEffect = true ∨ ∃ b ∈ st.bindings, b.typeOnly = false) ↔
      ∃ st ∈ group, st.isSideEffect = true ∨ ∃ b ∈ st.bindings, b.typeOnly = false := by
  have hsplit : ∀ sts : List Statement,
      (∃ st ∈ sts, st.isSideEffect = true ∨ ∃ b ∈ st.bindings, b.typeOnly = false) ↔
        (∃ st ∈ sts, st.isSideEffect = true) ∨
          ∃ b ∈ sts.flatMap (·.bindings), b.typeOnly = false := by
    intro sts
    simp only [List.mem_flatMap]
    grind
  have hempty : (∃ st ∈ (mergedShapes first.typeOnly group u).mapIdx (withShape first group),
      st.isSideEffect = true) ↔ [] ∈ mergedShapes first.typeOnly group u := by
    conv => rhs; rw [← map_bindings_mapIdx first group (mergedShapes first.typeOnly group u)]
    simp only [List.mem_map, isSideEffect_iff]
  rw [hsplit, hsplit, hempty, flatMap_bindings_mapIdx, exists_value_iff h hheads]
  rcases mergedShapes_cases first.typeOnly group u with ⟨hshapes, hside⟩ | ⟨hshapes, hvalue⟩
  · simp [hshapes, hside]
  · rw [hshapes]
    constructor
    · rintro (hnil | hex)
      · have hbs := (bindings_eq_nil_iff h).1 (nil_mem_shapes hnil)
        obtain ⟨st, hst⟩ := List.exists_mem_of_ne_nil _ hgroup
        exact .inl ⟨st, hst, isSideEffect_iff.2 (List.flatMap_eq_nil_iff.1 hbs st hst)⟩
      · exact .inr hex
    · rintro (hside | hex)
      · -- A statement for the side effect is kept, or else a binding of a value is there in its
        -- place.
        by_cases hnil : u.bindings = []
        · rw [(u.shapes_eq_empty_iff first.typeOnly).2 hnil]
          exact .inl (by simp)
        · exact .inr ((exists_value_iff h hheads).1 (hvalue htype hnil hside))
      · exact .inr hex

end Evaluation

/-! ### Shapes -/

section Shapes

variable {u : Union} {typeOnly : Bool} {shape : List Binding}

theorem mem_mergedShapes {group : List Statement} (h : shape ∈ mergedShapes typeOnly group u) :
    shape = [] ∨ shape ∈ u.shapes typeOnly := by
  rcases mergedShapes_cases typeOnly group u with ⟨hshapes, -⟩ | ⟨hshapes, -⟩
  · rw [hshapes] at h
    exact List.mem_cons.1 h
  · rw [hshapes] at h
    exact .inr h

/-- No shape has a namespace beside a list. -/
theorem apart_of_mem_shapes (hu : u.Tidy) (h : shape ∈ u.shapes typeOnly) :
    ∀ a ∈ shape, ∀ b ∈ shape, ¬(a.kind = .namespaceObject ∧ b.kind = .namedExport) := by
  obtain ⟨dflt, ns, named, rfl, hdflt, hns, hnamed, hapart, -⟩ := Union.mem_shapes h
  rintro a ha b hb ⟨hka, hkb⟩
  have hnsa : ns.isSome = true := by
    rcases List.mem_append.1 ha with ha | ha
    · have := hu.default a
      grind
    · have := hu.named a
      grind
  rw [hapart hnsa] at hb
  have := hu.default b
  have := hu.ns b
  grind

/-- A shape for types has one head or is a list. -/
theorem alone_of_mem_shapes (hu : u.Tidy) (h : shape ∈ u.shapes true) :
    shape.length ≤ 1 ∨ ∀ b ∈ shape, b.kind = .namedExport := by
  obtain ⟨dflt, ns, named, rfl, hdflt, hns, hnamed, hapart, halone⟩ := Union.mem_shapes h
  cases dflt with
  | some d =>
    obtain ⟨rfl, rfl⟩ := halone rfl rfl
    exact .inl (by simp)
  | none =>
    cases ns with
    | some n =>
      obtain rfl := hapart rfl
      exact .inl (by simp)
    | none =>
      refine .inr ?_
      intro b hb
      rcases hnamed with rfl | rfl
      · simp at hb
      · exact hu.named b (by simpa using hb)

end Shapes

/-- **Combining the statements of a key** keeps what they hold. -/
theorem mergeKeeps_combine {first : Statement} {others merged : List Statement}
    (hheads : ∀ st ∈ first :: others, ∀ b ∈ st.bindings,
      b.kind ≠ .namedExport → b.typeOnly = false)
    (h : first.combine others = .ok merged) :
    MergeKeeps first.mergeKey (first :: others) merged := by
  obtain ⟨u, hu, -, rfl⟩ := combine_eq_ok h
  have htidy : u.Tidy := Union.Tidy.addAll Union.tidy_empty hu
  have hnone : ({} : Union).bindings = [] := rfl
  have hshape : ∀ st ∈ (mergedShapes first.typeOnly (first :: others) u).mapIdx
      (withShape first (first :: others)),
      st.bindings = [] ∨ st.bindings ∈ u.shapes first.typeOnly := by
    intro st hst
    refine @mem_mergedShapes _ _ _ (first :: others) ?_
    rw [← map_bindings_mapIdx first (first :: others) (mergedShapes _ _ _)]
    exact List.mem_map_of_mem hst
  have hflat : ∀ {P : Binding → Prop} {sts : List Statement},
      (∃ st ∈ sts, ∃ b ∈ st.bindings, P b) ↔ ∃ b ∈ sts.flatMap (·.bindings), P b := by
    intro P sts
    simp only [List.mem_flatMap]
    grind
  refine ⟨?_, ?_, ?_, ?_, ?_, ?_⟩
  · intro x
    rw [hflat, hflat, flatMap_bindings_mapIdx]
    have hsig := Union.mem_signature_addAll Union.tidy_empty hu x
    rw [hnone] at hsig
    simpa only [List.map_nil, List.not_mem_nil, false_or, List.mem_map] using hsig
  · intro name localName
    rw [hflat, hflat, flatMap_bindings_mapIdx]
    have hvalue := Union.exists_value_addAll Union.tidy_empty hu name localName
    rw [hnone] at hvalue
    simpa only [List.not_mem_nil, false_and, exists_false, false_or] using hvalue
  · exact perm_comments_mapIdx first _ (mergedShapes_ne_nil _ _ u)
  · intro htype
    refine evaluated_iff (by simp) htype hu ?_
    intro b hb
    obtain ⟨st, hst, hb⟩ := List.mem_flatMap.1 hb
    exact hheads st hst b hb
  · intro _ st hst
    rcases hshape st hst with hnil | hmem
    · simp [hnil]
    · exact apart_of_mem_shapes htidy hmem
  · intro _ htype st hst
    rcases hshape st hst with hnil | hmem
    · simp [hnil]
    · have htype : first.typeOnly = true := htype
      rw [htype] at hmem
      exact alone_of_mem_shapes htidy hmem

end Statement

/-! ## All classes -/

theorem mergeClass_cases {c m : List Statement} (h : (mergeClass c).result = .ok m) :
    (c.length ≤ 1 ∧ m = c) ∨ ∃ first others, c = first :: others ∧
      first.combine others = .ok m := by
  unfold mergeClass at h
  split at h
  · exact .inl ⟨by simp, (Except.ok.inj h).symm⟩
  · exact .inl ⟨by simp, (Except.ok.inj h).symm⟩
  · rename_i s ss _
    refine .inr ⟨s, ss, rfl, ?_⟩
    rw [Journaled.result_bind, Journaled.result_ofExcept] at h
    cases hm : s.combine ss with
    | error e => simp [hm, Except.bind] at h
    | ok merged =>
      rw [hm] at h
      exact h

/-- Merged statements have the key of their class. -/
theorem mergeKey_of_mergeClass {c m : List Statement} (h : (mergeClass c).result = .ok m)
    {st : Statement} (hst : st ∈ m) : ∃ st' ∈ c, st.mergeKey = st'.mergeKey := by
  rcases mergeClass_cases h with ⟨-, rfl⟩ | ⟨first, others, rfl, hcombine⟩
  · exact ⟨st, hst, rfl⟩
  · obtain ⟨u, -, -, rfl⟩ := Statement.combine_eq_ok hcombine
    exact ⟨first, by simp, Statement.mergeKey_of_mem_mapIdx hst⟩

theorem mergeKeeps_refl {key : MergeKey} {c : List Statement} (h : c.length ≤ 1) :
    MergeKeeps key c c :=
  ⟨fun _ => .rfl, fun _ _ => .rfl, .refl _, fun _ => .rfl, by omega, by omega⟩

theorem mergeKeeps_mergeClass {key : MergeKey} {c m : List Statement}
    (hkey : ∀ st ∈ c, st.mergeKey = key)
    (hheads : ∀ st ∈ c, ∀ b ∈ st.bindings, b.kind ≠ .namedExport → b.typeOnly = false)
    (h : (mergeClass c).result = .ok m) : MergeKeeps key c m := by
  rcases mergeClass_cases h with ⟨hlength, rfl⟩ | ⟨first, others, rfl, hcombine⟩
  · exact mergeKeeps_refl hlength
  · rw [← hkey first (by simp)]
    exact Statement.mergeKeeps_combine hheads hcombine

section Classes

variable {key : MergeKey} {cs ms : List (List Statement)}

theorem ofKey_flatten_eq_nil
    (h : List.Forall₂ (fun c m => (mergeClass c).result = .ok m) cs ms)
    (hno : ∀ c ∈ cs, ∀ st ∈ c, st.mergeKey ≠ key) : ofKey key ms.flatten = [] := by
  induction h with
  | nil => rfl
  | @cons c m cs ms hm _ ih =>
    have hhead : ofKey key m = [] := by
      rw [ofKey, List.filter_eq_nil_iff]
      intro st hst
      obtain ⟨st', hst', heq⟩ := mergeKey_of_mergeClass hm hst
      simpa [heq] using hno c (by simp) st' hst'
    rw [List.flatten_cons, ofKey, List.filter_append]
    exact List.append_eq_nil_iff.2 ⟨hhead, ih fun c hc => hno c (by simp [hc])⟩

/-- The statements with the key of a class are those that replace the class. -/
theorem mergeClass_ofKey_flatten
    (h : List.Forall₂ (fun c m => (mergeClass c).result = .ok m) cs ms)
    (hsep : cs.Pairwise fun c c' => ∀ a ∈ c, ∀ b ∈ c', a.mergeKey ≠ b.mergeKey)
    {c : List Statement} (hc : c ∈ cs) (hne : c ≠ []) (hkey : ∀ st ∈ c, st.mergeKey = key) :
    (mergeClass c).result = .ok (ofKey key ms.flatten) := by
  obtain ⟨st, hst⟩ := List.exists_mem_of_ne_nil c hne
  induction h with
  | nil => simp at hc
  | @cons c' m cs ms hm htail ih =>
    obtain ⟨hother, hsep⟩ := List.pairwise_cons.1 hsep
    rw [List.flatten_cons, ofKey, List.filter_append]
    rcases List.mem_cons.1 hc with rfl | hc
    · have hall : ofKey key m = m := by
        rw [ofKey, List.filter_eq_self]
        intro a ha
        obtain ⟨b, hb, heq⟩ := mergeKey_of_mergeClass hm ha
        simpa [heq] using hkey b hb
      have hnone : ofKey key ms.flatten = [] := by
        refine ofKey_flatten_eq_nil htail ?_
        intro c' hc' a ha heq
        exact hother c' hc' st hst a ha (by rw [hkey st hst, heq])
      rw [ofKey] at hall hnone
      rw [hall, hnone, List.append_nil]
      exact hm
    · have hnone : ofKey key m = [] := by
        rw [ofKey, List.filter_eq_nil_iff]
        intro a ha
        obtain ⟨b, hb, heq⟩ := mergeKey_of_mergeClass hm ha
        have hne := hother c hc b hb st hst
        rw [hkey st hst, ← heq] at hne
        simpa using hne
      rw [ofKey] at hnone
      rw [hnone, List.nil_append]
      exact ih hsep hc

end Classes

theorem mergeDuplicates_eq_ok {ss out : List Statement}
    (h : (mergeDuplicates ss).result = .ok out) :
    ∃ ms, List.Forall₂ (fun c m => (mergeClass c).result = .ok m) (classesByKey ss) ms ∧
      out = ms.flatten := by
  rw [mergeDuplicates, Journaled.result_bind] at h
  cases hms : (Journaled.forEach mergeClass (classesByKey ss)).result with
  | error e => simp [hms, Except.bind] at h
  | ok ms =>
    rw [hms] at h
    obtain rfl := Except.ok.inj h
    exact ⟨ms, Journaled.forall₂_of_forEach hms, rfl⟩

theorem mergeDuplicates_ne_nil {ss out : List Statement} (hne : ss ≠ [])
    (h : (mergeDuplicates ss).result = .ok out) : out ≠ [] := by
  obtain ⟨ms, hclasses, rfl⟩ := mergeDuplicates_eq_ok h
  obtain ⟨s, ss, rfl⟩ := List.exists_cons_of_ne_nil hne
  rw [classesByKey] at hclasses
  cases hclasses with
  | @cons _ m _ ms hm _ =>
    have hfirst : m ≠ [] := by
      rcases mergeClass_cases hm with ⟨-, rfl⟩ | ⟨first, others, -, hcombine⟩
      · simp
      · obtain ⟨u, -, -, rfl⟩ := Statement.combine_eq_ok hcombine
        simpa using Statement.mergedShapes_ne_nil _ _ u
    simp [hfirst]

/-- **Merging loses and invents nothing**: for each key, bindings, values and comments are the same
before and after, and so is whether the module is evaluated. -/
theorem mergeKeeps_mergeDuplicates {ss out : List Statement}
    (hheads : ∀ st ∈ ss, ∀ b ∈ st.bindings, b.kind ≠ .namedExport → b.typeOnly = false)
    (h : (mergeDuplicates ss).result = .ok out) (key : MergeKey) :
    MergeKeeps key (ofKey key ss) (ofKey key out) := by
  obtain ⟨ms, hclasses, rfl⟩ := mergeDuplicates_eq_ok h
  by_cases hnone : ofKey key ss = []
  · have hout : ofKey key ms.flatten = [] := by
      refine ofKey_flatten_eq_nil hclasses ?_
      rintro c hc st hst rfl
      obtain ⟨st', -, rfl⟩ := mem_classesByKey.1 hc
      have hmem : st ∈ ofKey st.mergeKey ss := mem_ofKey.2 ⟨(mem_ofKey.1 hst).1, rfl⟩
      simp [hnone] at hmem
    rw [hnone, hout]
    exact mergeKeeps_refl (by simp)
  · obtain ⟨st, hst⟩ := List.exists_mem_of_ne_nil _ hnone
    obtain ⟨hss, rfl⟩ := mem_ofKey.1 hst
    refine mergeKeeps_mergeClass (fun a ha => (mem_ofKey.1 ha).2)
      (fun a ha => hheads a (mem_ofKey.1 ha).1) ?_
    exact mergeClass_ofKey_flatten hclasses (pairwise_classesByKey ss)
      (mem_classesByKey.2 ⟨st, hss, rfl⟩) hnone fun a ha => (mem_ofKey.1 ha).2

/-- Imports of `m` that do not fit into one statement, with one of another module between them. -/
def scattered : List Statement :=
  [{ specifier := ['m'], bindings := [⟨.namespaceObject, ['n'], none, false⟩],
     trailingComment := some ['/', '/', 'n'] },
   { specifier := ['k'] },
   { specifier := ['m'], bindings := [⟨.namedExport, ['a'], none, true⟩],
     leadingComments := [['/', '/', 'a']] },
   { specifier := ['m'], bindings := [⟨.defaultExport, ['d'], none, false⟩,
      ⟨.namedExport, ['a'], none, false⟩], trailingComment := some ['/', '/', 'd'] }]

/-- The four scattered statements become three. -/
theorem mergeKeeps_scattered : ∃ out, (mergeDuplicates scattered).result = .ok out ∧
    out.length = 3 ∧ MergeKeeps ⟨['m'], false, none⟩ (ofKey ⟨['m'], false, none⟩ scattered)
      (ofKey ⟨['m'], false, none⟩ out) := by
  refine ⟨_, rfl, by decide, mergeKeeps_mergeDuplicates ?_ rfl _⟩
  decide

end ImportOrder
