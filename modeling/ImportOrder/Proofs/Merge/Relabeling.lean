import ImportOrder.Proofs.Merge.Duplicates

/-!
# Merging relabeled statements

A relabeling changes what merging does not look at: how imported names are written, as long as
different names stay different, and what goes along with a statement. So relabeled statements are
merged into the relabeled result, or fail for the same reason.

## Main definitions

* `Binding.IsRelabeling`, `Statement.IsRelabeling`: relabelings of bindings and of statements
* `Binding.Separates`: different names stay different

## Main results

* `Union.addAll_map`: unions of relabeled bindings
* `Statement.combine_map`: merging the relabeled statements of one key
* `mergeDuplicates_map`: merging relabeled statements
-/

namespace ImportOrder

/-! ## Bindings -/

namespace Binding

/-- **A relabeling of bindings** changes names. Bindings of the same names stay so. -/
structure IsRelabeling (f : Binding → Binding) : Prop where
  kind : ∀ b, (f b).kind = b.kind
  localName : ∀ b, (f b).localName = b.localName
  typeOnly : ∀ b, (f b).typeOnly = b.typeOnly
  sameNamed : ∀ a b, Union.sameNamed a b = true → Union.sameNamed (f a) (f b) = true

/-- **Different names stay different** among some bindings. -/
def Separates (f : Binding → Binding) (bs : List Binding) : Prop :=
  ∀ a ∈ bs, ∀ b ∈ bs, a.kind = .namedExport → b.kind = .namedExport →
    Union.sameNamed (f a) (f b) = true → Union.sameNamed a b = true

theorem isRelabeling_id : IsRelabeling id :=
  ⟨fun _ => rfl, fun _ => rfl, fun _ => rfl, fun _ _ => id⟩

end Binding

namespace Union

open Binding

/-- A union with relabeled bindings. -/
def map (f : Binding → Binding) (u : Union) : Union :=
  ⟨u.defaultHead.map f, u.namespaceHead.map f, u.named.map f⟩

theorem heads_map (f : Binding → Binding) (u : Union) : (u.map f).heads = u.heads.map f := by
  simp [heads, map, Option.toList_map]

theorem bindings_map (f : Binding → Binding) (u : Union) :
    (u.map f).bindings = u.bindings.map f := by
  rw [bindings_eq, bindings_eq, heads_map, List.map_append]
  rfl

variable {f : Binding → Binding} (hf : IsRelabeling f) {u : Union} {b : Binding}

include hf

theorem binds_map (u : Union) (name : Text) : (u.map f).binds name = u.binds name := by
  rw [binds, bindings_map, List.any_map, binds]
  simp only [Function.comp_def, hf.localName]

theorem addNamed_map (hsame : ∀ a ∈ u.named, Union.sameNamed (f b) (f a) = Union.sameNamed b a) :
    (u.map f).addNamed (f b) = (u.addNamed b).map (map f) := by
  have hany : (u.map f).named.any (Union.sameNamed (f b)) = u.named.any (Union.sameNamed b) := by
    rw [map, List.any_map, Bool.eq_iff_iff, List.any_eq_true, List.any_eq_true]
    exact exists_congr fun a => and_congr_right fun ha => by rw [Function.comp_apply, hsame a ha]
  have hupgrade : (u.map f).named.map (fun a =>
      if Union.sameNamed (f b) a && a.typeOnly && !(f b).typeOnly then f b else a) =
        (u.named.map fun a =>
          if Union.sameNamed b a && a.typeOnly && !b.typeOnly then b else a).map f := by
    rw [map, List.map_map, List.map_map]
    apply List.map_congr_left
    intro a ha
    simp only [Function.comp_apply, hsame a ha, hf.typeOnly]
    split <;> rfl
  simp only [addNamed, hany, hupgrade, hf.localName, binds_map hf]
  split
  · rfl
  · split
    · rfl
    · simp [Except.map, map]

theorem addHead_map (head : Option Binding) :
    (u.map f).addHead (head.map f) (f b) = (u.addHead head b).map (Option.map f) := by
  cases head with
  | none =>
    simp only [Option.map_none, addHead, hf.localName, binds_map hf]
    split <;> rfl
  | some a =>
    simp only [Option.map_some, addHead, hf.localName, hf.kind]
    split <;> rfl

theorem add_map (hsame : b.kind = .namedExport →
      ∀ a ∈ u.named, Union.sameNamed (f b) (f a) = Union.sameNamed b a) :
    (u.map f).add (f b) = (u.add b).map (map f) := by
  simp only [add, hf.kind]
  cases hk : b.kind with
  | namedExport => exact addNamed_map hf (hsame hk)
  | defaultExport =>
    show ((u.map f).addHead (u.defaultHead.map f) (f b) >>= _) = _
    rw [addHead_map hf]
    cases u.addHead u.defaultHead b <;> rfl
  | namespaceObject =>
    show ((u.map f).addHead (u.namespaceHead.map f) (f b) >>= _) = _
    rw [addHead_map hf]
    cases u.addHead u.namespaceHead b <;> rfl

/-- **Unions of relabeled bindings** are relabeled, if different names stay different. -/
theorem addAll_map {bs all : List Binding} (hall : Separates f all) (hu : u.Tidy)
    (hmem : ∀ a ∈ u.bindings, a ∈ all) (hbs : ∀ b ∈ bs, b ∈ all) :
    (u.map f).addAll (bs.map f) = (u.addAll bs).map (map f) := by
  induction bs generalizing u with
  | nil => rfl
  | cons b bs ih =>
    have hadd : (u.map f).add (f b) = (u.add b).map (map f) := by
      apply add_map hf
      intro hk a ha
      have hb := hbs b List.mem_cons_self
      have ha' := hmem a (mem_bindings.2 (.inr (.inr ha)))
      rw [Bool.eq_iff_iff]
      exact ⟨hall b hb a ha' hk (hu.named a ha), hf.sameNamed b a⟩
    rw [List.map_cons, addAll, hadd, addAll]
    cases hv : u.add b with
    | error e => rfl
    | ok v =>
      refine ih (hu.add hv) (fun a ha => ?_) fun a ha => hbs a (List.mem_cons_of_mem b ha)
      rcases mem_add hv a ha with ha | rfl
      · exact hmem a ha
      · exact hbs a List.mem_cons_self

omit hf

theorem parts_map (f : Binding → Binding) (u : Union) (typeOnly : Bool) :
    (u.map f).parts typeOnly = (u.parts typeOnly).map (List.map f) := by
  have hns : (u.map f).namespaceHead.isSome = u.namespaceHead.isSome := Option.isSome_map
  have hempty : (u.map f).named.isEmpty = u.named.isEmpty := List.isEmpty_map
  simp only [parts, heads_map, hns, hempty]
  split
  · cases u.named.isEmpty <;> simp [map]
  · split <;> simp [map]

theorem shapes_map (f : Binding → Binding) (u : Union) (typeOnly : Bool) :
    (u.map f).shapes typeOnly = (u.shapes typeOnly).map (List.map f) := by
  have hfilter : ((u.map f).parts typeOnly).filter (!·.isEmpty) =
      ((u.parts typeOnly).filter (!·.isEmpty)).map (List.map f) := by
    rw [parts_map, List.filter_map]
    simp only [Function.comp_def, List.isEmpty_map]
  rcases shapes_eq u typeOnly with ⟨hshapes, hnil⟩ | ⟨hshapes, hne⟩
  · rcases shapes_eq (u.map f) typeOnly with ⟨hshapes', -⟩ | ⟨-, hne'⟩
    · rw [hshapes, hshapes']
      rfl
    · rw [hfilter, hnil] at hne'
      exact absurd rfl hne'
  · rcases shapes_eq (u.map f) typeOnly with ⟨-, hnil'⟩ | ⟨hshapes', -⟩
    · rw [hfilter, List.map_eq_nil_iff] at hnil'
      exact absurd hnil' hne
    · rw [hshapes', hfilter, hshapes]

end Union

/-! ## Statements -/

namespace Statement

/-- **A relabeling of statements** changes bindings by a relabeling, and what else is not looked at
when statements are merged. -/
structure IsRelabeling (φ : Statement → Statement) (f : Binding → Binding) : Prop where
  binding : Binding.IsRelabeling f
  bindings : ∀ st, (φ st).bindings = st.bindings.map f
  mergeKey : ∀ st, (φ st).mergeKey = st.mergeKey
  innerComments : ∀ st, (φ st).innerComments = st.innerComments
  withShape : ∀ first group i bs,
    withShape (φ first) (group.map φ) i (bs.map f) = φ (withShape first group i bs)

theorem mergedLeading_map (φ : Statement → Statement)
    (hleading : ∀ st, (φ st).leadingComments = st.leadingComments)
    (htrailing : ∀ st, (φ st).trailingComment = st.trailingComment) (taken : Bool)
    (group : List Statement) :
    mergedLeading taken (group.map φ) = mergedLeading taken group := by
  induction group generalizing taken with
  | nil => rfl
  | cons st group ih =>
    rw [List.map_cons, mergedLeading, ih, mergedLeading, hleading, htrailing]

variable {φ : Statement → Statement} {f : Binding → Binding} (hφ : IsRelabeling φ f)

include hφ

theorem specifier_map (st : Statement) : (φ st).specifier = st.specifier :=
  congrArg MergeKey.specifier (hφ.mergeKey st)

theorem typeOnly_map (st : Statement) : (φ st).typeOnly = st.typeOnly :=
  congrArg MergeKey.typeOnly (hφ.mergeKey st)

theorem isSideEffect_map (st : Statement) : (φ st).isSideEffect = st.isSideEffect := by
  rw [isSideEffect, hφ.bindings, List.isEmpty_map, isSideEffect]

theorem flatMap_bindings_map (group : List Statement) :
    (group.map φ).flatMap (·.bindings) = (group.flatMap (·.bindings)).map f := by
  rw [List.flatMap_map, List.map_flatMap]
  simp only [hφ.bindings]

theorem mergedShapes_map (typeOnly : Bool) (group : List Statement) (u : Union) :
    mergedShapes typeOnly (group.map φ) (u.map f) =
      (mergedShapes typeOnly group u).map (List.map f) := by
  have hside : (group.map φ).any isSideEffect = group.any isSideEffect := by
    rw [List.any_map]
    simp only [Function.comp_def, isSideEffect_map hφ]
  have htypes : (u.map f).bindings.all (·.typeOnly) = u.bindings.all (·.typeOnly) := by
    rw [Union.bindings_map, List.all_map]
    simp only [Function.comp_def, hφ.binding.typeOnly]
  have hempty : (u.map f).shapes typeOnly = [[]] ↔ u.shapes typeOnly = [[]] := by
    rw [Union.shapes_eq_empty_iff, Union.shapes_eq_empty_iff, Union.bindings_map,
      List.map_eq_nil_iff]
  simp only [mergedShapes, hside, htypes, ne_eq, hempty]
  split <;> simp [Union.shapes_map]

/-- Relabeled statements of one key are merged into the relabeled result. -/
theorem combine_map {first : Statement} {others : List Statement}
    (hnames : Binding.Separates f ((first :: others).flatMap (·.bindings))) :
    (φ first).combine (others.map φ) = (first.combine others).map (List.map φ) := by
  have hgroup : φ first :: others.map φ = (first :: others).map φ := rfl
  have hinner : ((first :: others).map φ).any (·.innerComments) =
      (first :: others).any (·.innerComments) := by
    rw [List.any_map]
    simp only [Function.comp_def, hφ.innerComments]
  have hunion : ({} : Union).addAll (((first :: others).flatMap (·.bindings)).map f) =
      (({} : Union).addAll ((first :: others).flatMap (·.bindings))).map (Union.map f) :=
    Union.addAll_map hφ.binding hnames Union.tidy_empty (by simp [Union.bindings]) fun _ => id
  simp only [combine, hgroup, hinner, flatMap_bindings_map hφ, hunion,
    specifier_map hφ, typeOnly_map hφ]
  split
  · rfl
  · cases ({} : Union).addAll ((first :: others).flatMap (·.bindings)) with
    | error clash => rfl
    | ok u =>
      simp only [Except.map, mergedShapes_map hφ]
      congr 1
      apply List.ext_getElem
      · simp
      · intro i hi hi'
        simpa using hφ.withShape first (first :: others) i _

end Statement

/-! ## Classes and lists -/

section Lists

variable {φ : Statement → Statement} {f : Binding → Binding} (hφ : Statement.IsRelabeling φ f)

include hφ

theorem mergeClass_map {c : List Statement}
    (hnames : 2 ≤ c.length → Binding.Separates f (c.flatMap (·.bindings))) :
    (mergeClass (c.map φ)).result = (mergeClass c).result.map (List.map φ) := by
  match c with
  | [] => rfl
  | [st] => rfl
  | st :: st' :: rest =>
    rw [List.map_cons, List.map_cons, mergeClass, mergeClass, Journaled.result_bind,
      Journaled.result_bind, Journaled.result_ofExcept, Journaled.result_ofExcept,
      ← List.map_cons, Statement.combine_map hφ (hnames (by simp))]
    · cases st.combine (st' :: rest) <;> rfl
    · simp
    · simp

theorem classesByKey_map (ss : List Statement) :
    classesByKey (ss.map φ) = (classesByKey ss).map (List.map φ) := by
  induction ss with
  | nil => rfl
  | cons st ss ih =>
    rw [List.map_cons, classesByKey, ih, List.filter_map, List.filter_map, classesByKey]
    simp only [List.map_cons, Function.comp_def, List.all_map, hφ.mergeKey]

end Lists

/-- **Merging relabeled statements** gives the relabeled result, if different names of bindings that
are put together stay different. -/
theorem mergeDuplicates_map {φ : Statement → Statement} {f : Binding → Binding}
    (hφ : Statement.IsRelabeling φ f) {ss : List Statement}
    (hnames : ∀ c ∈ classesByKey ss, 2 ≤ c.length →
      Binding.Separates f (c.flatMap (·.bindings))) :
    (mergeDuplicates (ss.map φ)).result = (mergeDuplicates ss).result.map (List.map φ) := by
  have hclasses : ((classesByKey ss).map (List.map φ)).mapM (fun c => (mergeClass c).result) =
      ((classesByKey ss).mapM fun c => (mergeClass c).result).map (List.map (List.map φ)) := by
    rw [mapM_map_congr fun c _ => rfl]
    exact mapM_eq_map fun c hc => mergeClass_map hφ (hnames c hc)
  rw [mergeDuplicates, mergeDuplicates, Journaled.result_bind, Journaled.result_bind,
    Journaled.result_forEach, Journaled.result_forEach, classesByKey_map hφ, hclasses]
  cases (classesByKey ss).mapM fun c => (mergeClass c).result with
  | error e => rfl
  | ok ms =>
    show Except.ok _ = Except.ok _
    rw [List.map_flatten]

end ImportOrder
