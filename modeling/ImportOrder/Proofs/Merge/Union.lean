import ImportOrder.Merge

/-!
# Unions of bindings

Adding a binding to a union keeps what the union binds and adds what the binding binds, where a
binding of values takes the place of one of types. What holds for one binding holds for all that
are added one by one.

## Main definitions

* `Binding.signature`: what a binding binds
* `Binding.IsValue`: a named binding of a value
* `Union.Tidy`: each binding stands where its kind belongs

## Main results

* `Union.add_cases`: all that adding a binding can do
* `Union.mem_signature_addAll`, `Union.exists_value_addAll`, `Union.mem_addAll`: unions of bindings
* `Union.flatten_shapes`: the shapes of a union hold its bindings
-/

namespace ImportOrder

namespace Binding

/-- **What a binding binds**: its kind, the imported name if it is a named binding, and the local
name. -/
def signature (b : Binding) : BindingKind × Option Text × Text :=
  (b.kind, if b.kind = .namedExport then some b.name else none, b.localName)

/-- **A named binding of a value** for a pair of imported and local name. -/
def IsValue (name localName : Text) (b : Binding) : Prop :=
  b.kind = .namedExport ∧ b.name = name ∧ b.localName = localName ∧ b.typeOnly = false

theorem signature_of_sameNamed {a b : Binding} (ha : a.kind = .namedExport)
    (hb : b.kind = .namedExport) (h : Union.sameNamed b a = true) : a.signature = b.signature := by
  obtain ⟨hname, hlocal⟩ : b.name = a.name ∧ b.localName = a.localName := by
    simpa [Union.sameNamed] using h
  simp [signature, ha, hb, hname, hlocal]

end Binding

namespace Union

/-- The binding that stays when another one for the same names comes: the first of a value. -/
def upgrade (b a : Binding) : Binding :=
  if sameNamed b a && a.typeOnly && !b.typeOnly then b else a

/-- A head stays, or the binding is the first of its kind. -/
theorem addHead_cases {u : Union} {b : Binding} {head head' : Option Binding}
    (h : u.addHead head b = .ok head') :
    (∃ a, head = some a ∧ a.localName = b.localName ∧ head' = head) ∨
      (head = none ∧ u.binds b.localName = false ∧ head' = some b) := by
  cases head with
  | none =>
    simp only [addHead] at h
    split at h
    · cases h
    · rename_i hfree
      exact .inr ⟨rfl, by simpa using hfree, (Except.ok.inj h).symm⟩
  | some a =>
    simp only [addHead] at h
    split at h
    · rename_i heq
      exact .inl ⟨a, rfl, heq, (Except.ok.inj h).symm⟩
    · cases h

/-- **All that adding a binding can do.** -/
theorem add_cases {u u' : Union} {b : Binding} (h : u.add b = .ok u') :
    (b.kind = .namedExport ∧ (∃ a ∈ u.named, sameNamed b a = true) ∧
      u' = { u with named := u.named.map (upgrade b) }) ∨
    (b.kind = .namedExport ∧ u.binds b.localName = false ∧
      u' = { u with named := u.named ++ [b] }) ∨
    (b.kind = .defaultExport ∧ (∃ a, u.defaultHead = some a ∧ a.localName = b.localName) ∧ u' = u) ∨
    (b.kind = .defaultExport ∧ u.defaultHead = none ∧ u.binds b.localName = false ∧
      u' = { u with defaultHead := some b }) ∨
    (b.kind = .namespaceObject ∧ (∃ a, u.namespaceHead = some a ∧ a.localName = b.localName) ∧
      u' = u) ∨
    (b.kind = .namespaceObject ∧ u.namespaceHead = none ∧ u.binds b.localName = false ∧
      u' = { u with namespaceHead := some b }) := by
  simp only [add] at h
  cases hk : b.kind with
  | namedExport =>
    simp only [hk, addNamed] at h
    split at h
    · rename_i hany
      exact .inl ⟨rfl, by simpa using hany, (Except.ok.inj h).symm⟩
    · split at h
      · cases h
      · rename_i hfree
        exact .inr (.inl ⟨rfl, by simpa using hfree, (Except.ok.inj h).symm⟩)
  | defaultExport =>
    simp only [hk] at h
    cases ho : u.addHead u.defaultHead b with
    | error e => simp [ho, bind, Except.bind] at h
    | ok o =>
      rw [ho] at h
      obtain rfl := Except.ok.inj h
      rcases addHead_cases ho with ⟨a, ha, hlocal, rfl⟩ | ⟨hnone, hfree, rfl⟩
      · exact .inr (.inr (.inl ⟨rfl, ⟨a, ha, hlocal⟩, rfl⟩))
      · exact .inr (.inr (.inr (.inl ⟨rfl, hnone, hfree, rfl⟩)))
  | namespaceObject =>
    simp only [hk] at h
    cases ho : u.addHead u.namespaceHead b with
    | error e => simp [ho, bind, Except.bind] at h
    | ok o =>
      rw [ho] at h
      obtain rfl := Except.ok.inj h
      rcases addHead_cases ho with ⟨a, ha, hlocal, rfl⟩ | ⟨hnone, hfree, rfl⟩
      · exact .inr (.inr (.inr (.inr (.inl ⟨rfl, ⟨a, ha, hlocal⟩, rfl⟩))))
      · exact .inr (.inr (.inr (.inr (.inr ⟨rfl, hnone, hfree, rfl⟩))))

/-! ## One binding -/

/-- **Each binding stands where its kind belongs.** -/
structure Tidy (u : Union) : Prop where
  default : ∀ b ∈ u.defaultHead, b.kind = .defaultExport
  ns : ∀ b ∈ u.namespaceHead, b.kind = .namespaceObject
  named : ∀ b ∈ u.named, b.kind = .namedExport

theorem mem_bindings {u : Union} {b : Binding} :
    b ∈ u.bindings ↔ b ∈ u.defaultHead ∨ b ∈ u.namespaceHead ∨ b ∈ u.named := by
  simp [bindings]

theorem upgrade_cases (b a : Binding) :
    upgrade b a = a ∨ (upgrade b a = b ∧ sameNamed b a = true ∧ a.typeOnly = true ∧
      b.typeOnly = false) := by
  unfold upgrade
  split
  · rename_i h
    exact .inr ⟨rfl, by simpa [and_assoc] using h⟩
  · exact .inl rfl

theorem Tidy.add {u u' : Union} {b : Binding} (hu : u.Tidy) (h : u.add b = .ok u') : u'.Tidy := by
  rcases add_cases h with ⟨hk, -, rfl⟩ | ⟨hk, -, rfl⟩ | ⟨-, -, rfl⟩ | ⟨hk, -, -, rfl⟩ |
    ⟨-, -, rfl⟩ | ⟨hk, -, -, rfl⟩
  · refine ⟨hu.default, hu.ns, ?_⟩
    intro c hc
    obtain ⟨a, ha, rfl⟩ := List.mem_map.1 hc
    rcases upgrade_cases b a with heq | ⟨heq, -⟩
    · rw [heq]
      exact hu.named a ha
    · rw [heq]
      exact hk
  · refine ⟨hu.default, hu.ns, ?_⟩
    intro c hc
    rcases List.mem_append.1 hc with hc | hc
    · exact hu.named c hc
    · rw [List.mem_singleton.1 hc]
      exact hk
  · exact hu
  · refine ⟨?_, hu.ns, hu.named⟩
    intro c hc
    rw [← Option.some.inj hc]
    exact hk
  · exact hu
  · refine ⟨hu.default, ?_, hu.named⟩
    intro c hc
    rw [← Option.some.inj hc]
    exact hk

/-- Every binding of a union was there or is the one added. -/
theorem mem_add {u u' : Union} {b : Binding} (h : u.add b = .ok u') :
    ∀ a ∈ u'.bindings, a ∈ u.bindings ∨ a = b := by
  intro c hc
  rw [mem_bindings] at hc ⊢
  rcases add_cases h with ⟨-, -, rfl⟩ | ⟨-, -, rfl⟩ | ⟨-, -, rfl⟩ | ⟨-, -, -, rfl⟩ |
    ⟨-, -, rfl⟩ | ⟨-, -, -, rfl⟩
  · rcases hc with hc | hc | hc
    · exact .inl (.inl hc)
    · exact .inl (.inr (.inl hc))
    · obtain ⟨a, ha, rfl⟩ := List.mem_map.1 hc
      rcases upgrade_cases b a with heq | ⟨heq, -⟩
      · rw [heq]
        exact .inl (.inr (.inr ha))
      · exact .inr heq
  · rcases hc with hc | hc | hc
    · exact .inl (.inl hc)
    · exact .inl (.inr (.inl hc))
    · rcases List.mem_append.1 hc with hc | hc
      · exact .inl (.inr (.inr hc))
      · exact .inr (List.mem_singleton.1 hc)
  · exact .inl hc
  · rcases hc with hc | hc
    · exact .inr (Option.some.inj hc).symm
    · exact .inl (.inr hc)
  · exact .inl hc
  · rcases hc with hc | hc | hc
    · exact .inl (.inl hc)
    · exact .inr (Option.some.inj hc).symm
    · exact .inl (.inr (.inr hc))

/-- A union binds what it bound, and what the binding added binds. -/
theorem mem_signature_add {u u' : Union} {b : Binding} (hu : u.Tidy) (h : u.add b = .ok u')
    (x : BindingKind × Option Text × Text) :
    x ∈ u'.bindings.map Binding.signature ↔
      x ∈ u.bindings.map Binding.signature ∨ x = b.signature := by
  rcases add_cases h with ⟨hk, ⟨a, ha, hsame⟩, rfl⟩ | ⟨-, -, rfl⟩ | ⟨hk, ⟨a, ha, hlocal⟩, rfl⟩ |
    ⟨-, hnone, -, rfl⟩ | ⟨hk, ⟨a, ha, hlocal⟩, rfl⟩ | ⟨-, hnone, -, rfl⟩
  · -- The names of a binding that is replaced stay the same, and so those of `b` were there.
    have hmap : (u.named.map (upgrade b)).map Binding.signature =
        u.named.map Binding.signature := by
      rw [List.map_map]
      refine List.map_congr_left ?_
      intro c hc
      rcases upgrade_cases b c with heq | ⟨heq, hcsame, -⟩
      · rw [Function.comp, heq]
      · rw [Function.comp, heq]
        exact (Binding.signature_of_sameNamed (hu.named c hc) hk hcsame).symm
    have hself : ({ u with named := u.named.map (upgrade b) } : Union).bindings.map
        Binding.signature = u.bindings.map Binding.signature := by
      simp only [bindings, List.map_append, hmap]
    have hmem : b.signature ∈ u.bindings.map Binding.signature := by
      rw [← Binding.signature_of_sameNamed (hu.named a ha) hk hsame]
      exact List.mem_map_of_mem (mem_bindings.2 (.inr (.inr ha)))
    rw [hself]
    refine (or_iff_left_of_imp ?_).symm
    rintro rfl
    exact hmem
  · simp [bindings, or_assoc]
  · have hmem : b.signature ∈ u'.bindings.map Binding.signature := by
      have hsig : a.signature = b.signature := by
        simp [Binding.signature, hu.default a ha, hk, hlocal]
      rw [← hsig]
      exact List.mem_map_of_mem (mem_bindings.2 (.inl ha))
    refine (or_iff_left_of_imp ?_).symm
    rintro rfl
    exact hmem
  · simp only [bindings, hnone, List.map_append, List.mem_append]
    grind
  · have hmem : b.signature ∈ u'.bindings.map Binding.signature := by
      have hsig : a.signature = b.signature := by
        simp [Binding.signature, hu.ns a ha, hk, hlocal]
      rw [← hsig]
      exact List.mem_map_of_mem (mem_bindings.2 (.inr (.inl ha)))
    refine (or_iff_left_of_imp ?_).symm
    rintro rfl
    exact hmem
  · simp only [bindings, hnone, List.map_append, List.mem_append]
    grind

/-- Only bindings of types are replaced. -/
theorem mem_add_of_value {u u' : Union} {a b : Binding} (h : u.add b = .ok u')
    (ha : a ∈ u.bindings) (hvalue : a.typeOnly = false) : a ∈ u'.bindings := by
  rw [mem_bindings] at ha ⊢
  rcases add_cases h with ⟨-, -, rfl⟩ | ⟨-, -, rfl⟩ | ⟨-, -, rfl⟩ | ⟨-, hnone, -, rfl⟩ |
    ⟨-, -, rfl⟩ | ⟨-, hnone, -, rfl⟩
  · have hstays : upgrade b a = a := by simp [upgrade, hvalue]
    exact ha.imp_right (Or.imp_right fun ha => List.mem_map.2 ⟨a, ha, hstays⟩)
  · exact ha.imp_right (Or.imp_right fun ha => List.mem_append_left _ ha)
  · exact ha
  · rw [hnone] at ha
    exact .inr (ha.resolve_left (by simp))
  · exact ha
  · rw [hnone] at ha
    exact ha.imp_right fun ha => .inr (ha.resolve_left (by simp))

/-- A union has a value for some names if it had one or the binding added is one. -/
theorem exists_value_add {u u' : Union} {b : Binding} (hu : u.Tidy) (h : u.add b = .ok u')
    (n l : Text) :
    (∃ a ∈ u'.bindings, a.IsValue n l) ↔ (∃ a ∈ u.bindings, a.IsValue n l) ∨ b.IsValue n l := by
  constructor
  · rintro ⟨a, ha, hvalue⟩
    rcases mem_add h a ha with ha | rfl
    · exact .inl ⟨a, ha, hvalue⟩
    · exact .inr hvalue
  rintro (⟨c, hc, hvalue⟩ | hvalue)
  · exact ⟨c, mem_add_of_value h hc hvalue.2.2.2, hvalue⟩
  have hnamed : b.kind = .namedExport := hvalue.1
  rcases add_cases h with ⟨-, ⟨a, ha, hsame⟩, rfl⟩ | ⟨-, -, rfl⟩ | ⟨hk, -⟩ | ⟨hk, -⟩ | ⟨hk, -⟩ |
    ⟨hk, -⟩
  · -- What stands for the names is the binding that was there, if it is of a value, or `b`.
    refine ⟨upgrade b a, mem_bindings.2 (.inr (.inr (List.mem_map_of_mem ha))), ?_⟩
    obtain ⟨hname, hlocal⟩ : b.name = a.name ∧ b.localName = a.localName := by
      simpa [sameNamed] using hsame
    cases htype : a.typeOnly with
    | true => simpa [upgrade, hsame, htype, hvalue.2.2.2] using hvalue
    | false =>
      have hstays : upgrade b a = a := by simp [upgrade, htype]
      rw [hstays]
      exact ⟨hu.named a ha, hname ▸ hvalue.2.1, hlocal ▸ hvalue.2.2.1, htype⟩
  · exact ⟨b, mem_bindings.2 (.inr (.inr (by simp))), hvalue⟩
  all_goals
    rw [hnamed] at hk
    cases hk

/-! ## Bindings one by one -/

theorem tidy_empty : ({} : Union).Tidy := ⟨by simp, by simp, by simp⟩

theorem addAll_cons {u u' : Union} {b : Binding} {bs : List Binding}
    (h : u.addAll (b :: bs) = .ok u') : ∃ v, u.add b = .ok v ∧ v.addAll bs = .ok u' := by
  simp only [addAll] at h
  cases hv : u.add b with
  | error e => simp [hv, bind, Except.bind] at h
  | ok v =>
    rw [hv] at h
    exact ⟨v, rfl, h⟩

theorem Tidy.addAll {u u' : Union} {bs : List Binding} (hu : u.Tidy)
    (h : u.addAll bs = .ok u') : u'.Tidy := by
  induction bs generalizing u with
  | nil =>
    obtain rfl := Except.ok.inj h
    exact hu
  | cons b bs ih =>
    obtain ⟨v, hv, hrest⟩ := addAll_cons h
    exact ih (hu.add hv) hrest

theorem mem_addAll {u u' : Union} {bs : List Binding} (h : u.addAll bs = .ok u') :
    ∀ a ∈ u'.bindings, a ∈ u.bindings ∨ a ∈ bs := by
  induction bs generalizing u with
  | nil =>
    obtain rfl := Except.ok.inj h
    exact fun a ha => .inl ha
  | cons b bs ih =>
    obtain ⟨v, hv, hrest⟩ := addAll_cons h
    intro a ha
    rcases ih hrest a ha with ha | ha
    · rcases mem_add hv a ha with ha | rfl
      · exact .inl ha
      · exact .inr (by simp)
    · exact .inr (by simp [ha])

theorem mem_signature_addAll {u u' : Union} {bs : List Binding} (hu : u.Tidy)
    (h : u.addAll bs = .ok u') (x : BindingKind × Option Text × Text) :
    x ∈ u'.bindings.map Binding.signature ↔
      x ∈ u.bindings.map Binding.signature ∨ x ∈ bs.map Binding.signature := by
  induction bs generalizing u with
  | nil =>
    obtain rfl := Except.ok.inj h
    simp
  | cons b bs ih =>
    obtain ⟨v, hv, hrest⟩ := addAll_cons h
    rw [ih (hu.add hv) hrest, mem_signature_add hu hv, List.map_cons, List.mem_cons, or_assoc]

theorem exists_value_addAll {u u' : Union} {bs : List Binding} (hu : u.Tidy)
    (h : u.addAll bs = .ok u') (n l : Text) :
    (∃ a ∈ u'.bindings, a.IsValue n l) ↔
      (∃ a ∈ u.bindings, a.IsValue n l) ∨ ∃ b ∈ bs, b.IsValue n l := by
  induction bs generalizing u with
  | nil =>
    obtain rfl := Except.ok.inj h
    simp
  | cons b bs ih =>
    obtain ⟨v, hv, hrest⟩ := addAll_cons h
    rw [ih (hu.add hv) hrest, exists_value_add hu hv, or_assoc]
    simp only [List.mem_cons, exists_eq_or_imp]

/-! ## Shapes -/

theorem bindings_eq (u : Union) : u.bindings = u.heads ++ u.named := rfl

theorem flatten_filter_nonempty {α : Type} (parts : List (List α)) :
    (parts.filter (!·.isEmpty)).flatten = parts.flatten := by
  induction parts with
  | nil => rfl
  | cons p parts ih =>
    cases p with
    | nil => simpa using ih
    | cons a p => simp [ih]

/-- The shapes before empty ones are left out. -/
def parts (u : Union) (typeOnly : Bool) : List (List Binding) :=
  if typeOnly then u.heads.map ([·]) ++ (if u.named.isEmpty then [] else [u.named])
  else if u.namespaceHead.isSome && !u.named.isEmpty then [u.heads, u.named]
  else [u.heads ++ u.named]

theorem shapes_eq (u : Union) (typeOnly : Bool) :
    (u.shapes typeOnly = [[]] ∧ (u.parts typeOnly).filter (!·.isEmpty) = []) ∨
      (u.shapes typeOnly = (u.parts typeOnly).filter (!·.isEmpty) ∧
        (u.parts typeOnly).filter (!·.isEmpty) ≠ []) := by
  unfold shapes
  dsimp only
  split
  · rename_i hnil
    exact .inl ⟨rfl, hnil⟩
  · rename_i hne
    exact .inr ⟨rfl, hne⟩

/-- The shapes of a union hold its bindings. -/
theorem flatten_shapes (u : Union) (typeOnly : Bool) :
    (u.shapes typeOnly).flatten = u.bindings := by
  have hparts : (u.parts typeOnly).flatten = u.bindings := by
    rw [bindings_eq]
    unfold parts
    split
    · cases hn : u.named <;> simp [← List.flatMap_def]
    · split <;> simp
  rcases shapes_eq u typeOnly with ⟨hshapes, hnil⟩ | ⟨hshapes, -⟩
  · rw [hshapes, ← hparts, ← flatten_filter_nonempty (u.parts typeOnly), hnil]
    rfl
  · rw [hshapes, flatten_filter_nonempty, hparts]

theorem shapes_ne_nil (u : Union) (typeOnly : Bool) : u.shapes typeOnly ≠ [] := by
  rcases shapes_eq u typeOnly with ⟨hshapes, -⟩ | ⟨hshapes, hne⟩
  · simp [hshapes]
  · rwa [hshapes]

/-- A union without shapes of its own binds nothing. -/
theorem shapes_eq_empty_iff (u : Union) (typeOnly : Bool) :
    u.shapes typeOnly = [[]] ↔ u.bindings = [] := by
  constructor
  · intro h
    rw [← flatten_shapes u typeOnly, h]
    rfl
  · intro h
    rcases shapes_eq u typeOnly with ⟨hshapes, -⟩ | ⟨hshapes, hne⟩
    · exact hshapes
    · obtain ⟨p, hp⟩ := List.exists_mem_of_ne_nil _ hne
      have hsub : p ⊆ u.bindings := by
        rw [← flatten_shapes u typeOnly, hshapes]
        intro b hb
        exact List.mem_flatten.2 ⟨p, hp, hb⟩
      rw [h] at hsub
      have hempty : p = [] := List.eq_nil_of_subset_nil hsub
      simp [hempty] at hp

/-- **A shape** has some of the heads and the list or not: no namespace beside a list, and one thing
only if it is for types. -/
theorem mem_shapes {u : Union} {typeOnly : Bool} {shape : List Binding}
    (h : shape ∈ u.shapes typeOnly) :
    ∃ dflt ns named, shape = dflt.toList ++ (ns.toList ++ named) ∧
      (dflt = none ∨ dflt = u.defaultHead) ∧ (ns = none ∨ ns = u.namespaceHead) ∧
      (named = [] ∨ named = u.named) ∧ (ns.isSome = true → named = []) ∧
      (typeOnly = true → dflt.isSome = true → ns = none ∧ named = []) := by
  have hcases : shape = [] ∨ shape ∈ u.parts typeOnly := by
    rcases shapes_eq u typeOnly with ⟨hshapes, -⟩ | ⟨hshapes, -⟩
    · rw [hshapes] at h
      exact .inl (List.mem_singleton.1 h)
    · rw [hshapes] at h
      exact .inr (List.mem_filter.1 h).1
  rcases hcases with rfl | hpart
  · exact ⟨none, none, [], rfl, .inl rfl, .inl rfl, .inl rfl, by simp, by simp⟩
  unfold parts at hpart
  split at hpart
  · rcases List.mem_append.1 hpart with hhead | hlist
    · obtain ⟨b, hb, rfl⟩ := List.mem_map.1 hhead
      rcases List.mem_append.1 hb with hb | hb
      · have hb := Option.mem_toList.1 hb
        exact ⟨some b, none, [], rfl, .inr hb.symm, .inl rfl, .inl rfl, by simp, by simp⟩
      · have hb := Option.mem_toList.1 hb
        exact ⟨none, some b, [], rfl, .inl rfl, .inr hb.symm, .inl rfl, by simp, by simp⟩
    · have hshape : shape = u.named := by
        split at hlist
        · simp at hlist
        · exact List.mem_singleton.1 hlist
      exact ⟨none, none, u.named, by simp [hshape], .inl rfl, .inl rfl, .inr rfl, by simp, by simp⟩
  rename_i htype
  split at hpart
  · rcases List.mem_cons.1 hpart with rfl | hlist
    · exact ⟨u.defaultHead, u.namespaceHead, [], by simp [heads], .inr rfl, .inr rfl, .inl rfl,
        by simp, by simp [htype]⟩
    · rw [List.mem_singleton.1 hlist]
      exact ⟨none, none, u.named, by simp, .inl rfl, .inl rfl, .inr rfl, by simp, by simp⟩
  · rename_i hapart
    rw [List.mem_singleton.1 hpart]
    refine ⟨u.defaultHead, u.namespaceHead, u.named, by simp [heads], .inr rfl, .inr rfl, .inr rfl,
      ?_, by simp [htype]⟩
    intro hns
    simpa [hns] using hapart

end Union

end ImportOrder
