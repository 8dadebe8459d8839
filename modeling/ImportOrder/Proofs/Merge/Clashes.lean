import ImportOrder.Proofs.Merge.Repeat
import Mathlib.Data.List.Nodup

/-!
# Which imports cannot be merged

Bindings are put together one by one, and each is compared with those that are there already. No
order hides a clash and none makes one up: the bindings can be put together if and only if no two
of them exclude each other. So merging fails at the first key, in the order of the statements, that
has comments inside or two bindings that exclude each other, and at no other.

## Main definitions

* `Binding.Excludes`: two bindings that cannot stand in imports of one module
* `Unmergeable`, `MergeFailure`: statements of one key that cannot be merged, and how that fails
* `repeatedKeys`: the keys of several statements, in the order of their first appearance

## Main results

* `Union.exists_addAll_iff`: bindings can be put together if no two exclude each other
* `mergeClass_cases_of_key`: what becomes of the statements of one key
* `mergeDuplicates_clashes`: when merging fails, how, and what it gives otherwise
-/

namespace ImportOrder

namespace Binding

/-- **Two bindings of one module exclude each other** if they are different heads of one kind, or
have the same local name for different things. -/
inductive Excludes : Binding → Binding → Clash → Prop
  | heads {a b : Binding} (hkind : a.kind = b.kind) (hhead : b.kind ≠ .namedExport)
      (hlocal : a.localName ≠ b.localName) :
      Excludes a b (.differentHeads b.kind a.localName b.localName)
  | names {a b : Binding} (hlocal : a.localName = b.localName)
      (hother : a.kind ≠ b.kind ∨ b.kind = .namedExport ∧ a.name ≠ b.name) :
      Excludes a b (.sameLocalName b.localName)

/-- Bindings with the same signature do not exclude each other. -/
theorem Excludes.signature_ne {a b : Binding} {clash : Clash} (h : a.Excludes b clash) :
    a.signature ≠ b.signature := by
  intro heq
  simp only [signature, Prod.mk.injEq] at heq
  obtain ⟨hkind, hname, hlocal⟩ := heq
  cases h with
  | heads _ _ hne => exact hne hlocal
  | names _ hother =>
    rcases hother with hne | ⟨hb, hne⟩
    · exact hne hkind
    · rw [if_pos hb, if_pos (hkind.trans hb)] at hname
      exact hne (Option.some.inj hname)

end Binding

namespace Union

open Binding (Excludes)

variable {u u' : Union} {b : Binding} {bs : List Binding} {clash : Clash}

/-! ## Bindings that cannot be put together -/

theorem exists_of_binds {name : Text} (h : u.binds name = true) :
    ∃ a ∈ u.bindings, a.localName = name := by
  simpa [binds] using h

/-! ### Where the bindings of a kind stand -/

theorem Tidy.mem_defaultHead_iff (hu : u.Tidy) {a : Binding} :
    a ∈ u.defaultHead ↔ a ∈ u.bindings ∧ a.kind = .defaultExport := by
  refine ⟨fun ha => ⟨mem_bindings.2 (.inl ha), hu.default a ha⟩, ?_⟩
  rintro ⟨ha, hkind⟩
  rcases mem_bindings.1 ha with hd | hn | hnamed
  · exact hd
  · simp [hu.ns a hn] at hkind
  · simp [hu.named a hnamed] at hkind

theorem Tidy.mem_namespaceHead_iff (hu : u.Tidy) {a : Binding} :
    a ∈ u.namespaceHead ↔ a ∈ u.bindings ∧ a.kind = .namespaceObject := by
  refine ⟨fun ha => ⟨mem_bindings.2 (.inr (.inl ha)), hu.ns a ha⟩, ?_⟩
  rintro ⟨ha, hkind⟩
  rcases mem_bindings.1 ha with hd | hn | hnamed
  · simp [hu.default a hd] at hkind
  · exact hn
  · simp [hu.named a hnamed] at hkind

theorem Tidy.mem_named_iff (hu : u.Tidy) {a : Binding} :
    a ∈ u.named ↔ a ∈ u.bindings ∧ a.kind = .namedExport := by
  refine ⟨fun ha => ⟨mem_bindings.2 (.inr (.inr ha)), hu.named a ha⟩, ?_⟩
  rintro ⟨ha, hkind⟩
  rcases mem_bindings.1 ha with hd | hn | hnamed
  · simp [hu.default a hd] at hkind
  · simp [hu.ns a hn] at hkind
  · exact hnamed

/-- There is one head of each kind. -/
theorem Tidy.eq_of_kind (hu : u.Tidy) {a c : Binding} (ha : a ∈ u.bindings) (hc : c ∈ u.bindings)
    (hkind : a.kind = c.kind) (hhead : c.kind ≠ .namedExport) : a = c := by
  cases hk : c.kind with
  | namedExport => exact absurd hk hhead
  | defaultExport =>
    exact Option.mem_unique (hu.mem_defaultHead_iff.2 ⟨ha, hkind.trans hk⟩)
      (hu.mem_defaultHead_iff.2 ⟨hc, hk⟩)
  | namespaceObject =>
    exact Option.mem_unique (hu.mem_namespaceHead_iff.2 ⟨ha, hkind.trans hk⟩)
      (hu.mem_namespaceHead_iff.2 ⟨hc, hk⟩)

/-! ### Adding a binding -/

theorem addHead_eq_error {head : Option Binding} (hhead : b.kind ≠ .namedExport)
    (hmem : ∀ a, a ∈ head ↔ a ∈ u.bindings ∧ a.kind = b.kind)
    (h : u.addHead head b = .error clash) : ∃ a ∈ u.bindings, Excludes a b clash := by
  cases head with
  | some a =>
    simp only [addHead] at h
    split at h
    · cases h
    rename_i hne
    obtain rfl := Except.error.inj h
    obtain ⟨ha, hkind⟩ := (hmem a).1 rfl
    exact ⟨a, ha, .heads hkind hhead hne⟩
  | none =>
    simp only [addHead] at h
    split at h
    · rename_i hbinds
      obtain rfl := Except.error.inj h
      obtain ⟨a, ha, hlocal⟩ := exists_of_binds hbinds
      refine ⟨a, ha, .names hlocal (.inl fun hkind => ?_)⟩
      simpa using (hmem a).2 ⟨ha, hkind⟩
    · cases h

theorem addNamed_eq_error (hu : u.Tidy) (hk : b.kind = .namedExport)
    (h : u.addNamed b = .error clash) : ∃ a ∈ u.bindings, Excludes a b clash := by
  unfold addNamed at h
  split at h
  · cases h
  rename_i hnew
  split at h
  · rename_i hbinds
    obtain rfl := Except.error.inj h
    obtain ⟨a, ha, hlocal⟩ := exists_of_binds hbinds
    refine ⟨a, ha, .names hlocal ?_⟩
    by_cases hkind : a.kind = b.kind
    · refine .inr ⟨hk, fun hname => hnew ?_⟩
      have hnamed : a ∈ u.named := hu.mem_named_iff.2 ⟨ha, hkind.trans hk⟩
      exact List.any_eq_true.2 ⟨a, hnamed, by simp [sameNamed, hname, hlocal]⟩
    · exact .inl hkind
  · cases h

/-- A binding that cannot be added excludes one that is there. -/
theorem add_eq_error (hu : u.Tidy) (h : u.add b = .error clash) :
    ∃ a ∈ u.bindings, Excludes a b clash := by
  unfold add at h
  cases hk : b.kind with
  | namedExport =>
    simp only [hk] at h
    exact addNamed_eq_error hu hk h
  | defaultExport =>
    simp only [hk] at h
    rcases Except.bind_eq_error h with h | ⟨o, -, h⟩
    · exact addHead_eq_error (by simp [hk]) (fun a => by rw [hk, hu.mem_defaultHead_iff]) h
    · cases h
  | namespaceObject =>
    simp only [hk] at h
    rcases Except.bind_eq_error h with h | ⟨o, -, h⟩
    · exact addHead_eq_error (by simp [hk]) (fun a => by rw [hk, hu.mem_namespaceHead_iff]) h
    · cases h

/-- Bindings that cannot be added hold one that excludes another one, of theirs or there before. -/
theorem addAll_eq_error (hu : u.Tidy) (h : u.addAll bs = .error clash) :
    ∃ a ∈ u.bindings ++ bs, ∃ b ∈ bs, Excludes a b clash := by
  induction bs generalizing u with
  | nil => cases h
  | cons b bs ih =>
    rcases Except.bind_eq_error h with h | ⟨v, hv, h⟩
    · obtain ⟨a, ha, hab⟩ := add_eq_error hu h
      exact ⟨a, by simp [ha], b, by simp, hab⟩
    · obtain ⟨a, ha, c, hc, hac⟩ := ih (hu.add hv) h
      refine ⟨a, ?_, c, by simp [hc], hac⟩
      rcases List.mem_append.1 ha with ha | ha
      · rcases mem_add hv a ha with ha | rfl <;> simp [*]
      · simp [ha]

/-! ## Bindings that can -/

/-- The bindings of a union do not exclude each other. -/
theorem not_excludes_of_nodup (hu : u.Tidy) (hnodup : (u.bindings.map (·.localName)).Nodup)
    {a c : Binding} (ha : a ∈ u.bindings) (hc : c ∈ u.bindings) : ¬Excludes a c clash := by
  intro h
  have heq : a = c := by
    cases h with
    | heads hkind hhead _ => exact hu.eq_of_kind ha hc hkind hhead
    | names hlocal _ => exact List.inj_on_of_nodup_map hnodup ha hc hlocal
  exact h.signature_ne (congrArg Binding.signature heq)

/-- What bindings exclude depends on their signatures only. -/
theorem excludes_congr {a a' c c' : Binding} (ha : a.signature = a'.signature)
    (hc : c.signature = c'.signature) (h : Excludes a c clash) : Excludes a' c' clash := by
  simp only [Binding.signature, Prod.mk.injEq] at ha hc
  obtain ⟨hka, hna, hla⟩ := ha
  obtain ⟨hkc, hnc, hlc⟩ := hc
  cases h with
  | heads hkind hhead hlocal =>
    rw [hla, hlc, hkc]
    exact .heads (by rw [← hka, ← hkc, hkind]) (by rwa [← hkc]) (by rwa [← hla, ← hlc])
  | names hlocal hother =>
    rw [hlc]
    refine .names (by rw [← hla, ← hlc, hlocal]) ?_
    rw [← hka, ← hkc]
    by_cases hkind : a.kind = c.kind
    · rcases hother with hne | ⟨hk, hne⟩
      · exact absurd hkind hne
      · rw [hk] at hkc
        rw [hkind, hk] at hka
        simp only [hkind, hk, ← hka, ← hkc, if_true, Option.some.injEq] at hna hnc
        exact .inr ⟨hk, by rwa [← hna, ← hnc]⟩
    · exact .inl hkind

theorem not_excludes_of_addAll (h : ({} : Union).addAll bs = .ok u) {a c : Binding}
    (ha : a ∈ bs) (hc : c ∈ bs) : ¬Excludes a c clash := by
  have hin : ∀ x ∈ bs, ∃ y ∈ u.bindings, y.signature = x.signature := by
    intro x hx
    have hmem := (mem_signature_addAll tidy_empty h x.signature).2
      (.inr (List.mem_map_of_mem hx))
    simpa using hmem
  obtain ⟨a', ha', hsa⟩ := hin a ha
  obtain ⟨c', hc', hsc⟩ := hin c hc
  intro hex
  exact not_excludes_of_nodup (tidy_empty.addAll h) (nodup_addAll (by simp [bindings]) h) ha' hc'
    (excludes_congr hsa.symm hsc.symm hex)

/-- **Bindings can be put together** if and only if no two of them exclude each other. -/
theorem exists_addAll_iff : (∃ u, ({} : Union).addAll bs = .ok u) ↔
    ∀ a ∈ bs, ∀ b ∈ bs, ∀ clash, ¬Excludes a b clash := by
  constructor
  · rintro ⟨u, hu⟩ a ha b hb clash
    exact not_excludes_of_addAll hu ha hb
  · intro hno
    cases h : ({} : Union).addAll bs with
    | ok u => exact ⟨u, rfl⟩
    | error clash =>
      obtain ⟨a, ha, b, hb, hab⟩ := addAll_eq_error tidy_empty h
      exact absurd hab (hno a (by simpa [bindings] using ha) b hb clash)

end Union

/-! ## One key -/

/-- **Statements of one key cannot be merged** if one has comments inside or two of their bindings
exclude each other. -/
def Unmergeable (c : List Statement) : Prop :=
  (∃ st ∈ c, st.innerComments = true) ∨
    ∃ a ∈ c.flatMap (·.bindings), ∃ b ∈ c.flatMap (·.bindings), ∃ clash, a.Excludes b clash

/-- **How merging the statements of a key fails**: at comments inside, or else at two bindings that
exclude each other. -/
inductive MergeFailure (key : MergeKey) (c : List Statement) : Failure → Prop
  | comments (h : ∃ st ∈ c, st.innerComments = true) :
      MergeFailure key c (.unsupported (.mergeAcrossComments key.specifier))
  | clash {a b : Binding} {clash : Clash} (hinner : ∀ st ∈ c, st.innerComments = false)
      (ha : a ∈ c.flatMap (·.bindings)) (hb : b ∈ c.flatMap (·.bindings))
      (h : a.Excludes b clash) : MergeFailure key c (.conflict ⟨key.specifier, clash⟩)

theorem Statement.combine_cases (first : Statement) (others : List Statement) :
    (¬Unmergeable (first :: others) ∧ ∃ m, first.combine others = .ok m) ∨
      (Unmergeable (first :: others) ∧ ∃ e, first.combine others = .error e ∧
        MergeFailure first.mergeKey (first :: others) e) := by
  by_cases hinner : ∃ st ∈ first :: others, st.innerComments = true
  · have hany : (first :: others).any (·.innerComments) = true := by
      rw [List.any_eq_true]
      exact hinner
    exact .inr ⟨.inl hinner, _, by rw [combine, if_pos hany]; rfl, .comments hinner⟩
  have hany : ¬(first :: others).any (·.innerComments) = true := by
    rw [List.any_eq_true]
    exact hinner
  cases h : ({} : Union).addAll ((first :: others).flatMap (·.bindings)) with
  | ok u =>
    refine .inl ⟨?_, _, by rw [combine, if_neg hany, h]⟩
    rintro (hcomments | ⟨a, ha, b, hb, clash, hab⟩)
    · exact hinner hcomments
    · exact Union.exists_addAll_iff.1 ⟨u, h⟩ a ha b hb clash hab
  | error clash =>
    obtain ⟨a, ha, b, hb, hab⟩ := Union.addAll_eq_error Union.tidy_empty h
    have ha : a ∈ (first :: others).flatMap (·.bindings) := by simpa [Union.bindings] using ha
    refine .inr ⟨.inr ⟨a, ha, b, hb, clash, hab⟩, _, by rw [combine, if_neg hany, h], ?_⟩
    exact .clash (fun st hst => by simpa using fun htrue => hinner ⟨st, hst, htrue⟩) ha hb hab

theorem result_mergeClass (first second : Statement) (others : List Statement) :
    (mergeClass (first :: second :: others)).result = first.combine (second :: others) := by
  show (Journaled.ofExcept (first.combine (second :: others)) >>= _).result = _
  rw [Journaled.result_bind, Journaled.result_ofExcept]
  cases first.combine (second :: others) with
  | error e => rfl
  | ok m => rfl

/-- **What becomes of the statements of a key**: a single one stays as it is, and several ones are
merged unless they cannot be. -/
theorem mergeClass_cases_of_key {key : MergeKey} {c : List Statement}
    (hkey : ∀ st ∈ c, st.mergeKey = key) :
    (¬(2 ≤ c.length ∧ Unmergeable c) ∧ ∃ m, (mergeClass c).result = .ok m) ∨
      (2 ≤ c.length ∧ Unmergeable c ∧ ∃ e, (mergeClass c).result = .error e ∧
        MergeFailure key c e) := by
  match c, hkey with
  | [], _ => exact .inl ⟨by simp, [], rfl⟩
  | [st], _ => exact .inl ⟨by simp, [st], rfl⟩
  | first :: second :: others, hkey =>
    obtain rfl := hkey first (by simp)
    rw [result_mergeClass]
    rcases first.combine_cases (second :: others) with ⟨hno, hm⟩ | ⟨hyes, he⟩
    · exact .inl ⟨fun h => hno h.2, hm⟩
    · exact .inr ⟨by simp, hyes, he⟩

/-! ## All keys -/

/-- The keys of statements, in the order of their first appearance. -/
def mergeKeys (ss : List Statement) : List MergeKey := (ss.map (·.mergeKey)).eraseDups

/-- The keys that several statements share, in the order of their first appearance. -/
def repeatedKeys (ss : List Statement) : List MergeKey :=
  (mergeKeys ss).filter fun key => 2 ≤ (ofKey key ss).length

theorem eraseDups_filter {α : Type} [BEq α] [LawfulBEq α] (p : α → Bool) (as : List α) :
    (as.filter p).eraseDups = as.eraseDups.filter p := by
  induction hn : as.length using Nat.strongRecOn generalizing as with
  | _ n ih =>
    subst hn
    cases as with
    | nil => rfl
    | cons a as =>
      have hlen : (as.filter fun b => !b == a).length < (a :: as).length :=
        Nat.lt_succ_of_le (List.length_filter_le _ _)
      rw [List.eraseDups_cons]
      by_cases ha : p a = true
      · rw [List.filter_cons_of_pos ha, List.filter_cons_of_pos ha, List.eraseDups_cons,
          ← ih _ hlen _ rfl, List.filter_filter, List.filter_filter]
        simp only [Bool.and_comm]
      · rw [List.filter_cons_of_neg ha, List.filter_cons_of_neg ha, ← ih _ hlen _ rfl,
          List.filter_filter]
        congr 1
        apply List.filter_congr
        intro b _
        by_cases hb : b = a
        · simp [hb, ha]
        · simp [hb]

/-- The classes of statements are those of the keys, in their order. -/
theorem classesByKey_eq_map (ss : List Statement) :
    classesByKey ss = (mergeKeys ss).map (ofKey · ss) := by
  induction ss with
  | nil => rfl
  | cons s ss ih =>
    rw [classesByKey, mergeKeys, List.map_cons, List.eraseDups_cons, List.map_cons]
    congr 1
    · simp [ofKey]
    rw [eraseDups_filter, ih, List.filter_map]
    have hkeys : (mergeKeys ss).filter ((fun c => c.all (·.mergeKey ≠ s.mergeKey)) ∘ (ofKey · ss))
        = (mergeKeys ss).filter fun key => !key == s.mergeKey := by
      apply List.filter_congr
      intro key hkey
      obtain ⟨st, hst, rfl⟩ := List.mem_map.1 (List.mem_eraseDups.1 hkey)
      rw [Bool.eq_iff_iff, Function.comp_apply, List.all_eq_true]
      constructor
      · intro hall
        simpa using hall st (mem_ofKey.2 ⟨hst, rfl⟩)
      · intro hne st' hst'
        rw [(mem_ofKey.1 hst').2]
        simpa using hne
    rw [hkeys]
    apply List.map_congr_left
    intro key hkey
    have hne : s.mergeKey ≠ key := by
      intro heq
      simp [heq] at hkey
    simp [ofKey, hne]

theorem result_mergeDuplicates (ss : List Statement) : (mergeDuplicates ss).result =
    ((mergeKeys ss).mapM fun key => (mergeClass (ofKey key ss)).result).map List.flatten := by
  rw [mergeDuplicates, Journaled.result_bind, Journaled.result_forEach, classesByKey_eq_map,
    mapM_map_congr fun _ _ => rfl]
  cases (mergeKeys ss).mapM fun key => (mergeClass (ofKey key ss)).result with
  | error e => rfl
  | ok ms => rfl

theorem mergeClass_ofKey_cases (key : MergeKey) (ss : List Statement) :
    (¬(2 ≤ (ofKey key ss).length ∧ Unmergeable (ofKey key ss)) ∧
        ∃ m, (mergeClass (ofKey key ss)).result = .ok m) ∨
      (2 ≤ (ofKey key ss).length ∧ Unmergeable (ofKey key ss) ∧
        ∃ e, (mergeClass (ofKey key ss)).result = .error e ∧
          MergeFailure key (ofKey key ss) e) :=
  mergeClass_cases_of_key fun _ hst => (mem_ofKey.1 hst).2

/-- Merging fails at the first key of several statements that cannot be merged. -/
theorem exists_mergeFailure {ss : List Statement} {before after : List MergeKey} {key : MergeKey}
    (hkeys : repeatedKeys ss = before ++ key :: after)
    (hbefore : ∀ k ∈ before, ¬Unmergeable (ofKey k ss)) (hkey : Unmergeable (ofKey key ss)) :
    ∃ e, (mergeDuplicates ss).result = .error e ∧ MergeFailure key (ofKey key ss) e := by
  obtain ⟨ks, ks', hsplit, rfl, hks'⟩ := List.filter_eq_append_iff.1 hkeys
  obtain ⟨single, rest, rfl, hsingle, htwo, -⟩ := List.filter_eq_cons_iff.1 hks'
  have htwo : 2 ≤ (ofKey key ss).length := by simpa using htwo
  rcases mergeClass_ofKey_cases key ss with ⟨hno, -⟩ | ⟨-, -, e, he, hfail⟩
  · exact absurd ⟨htwo, hkey⟩ hno
  refine ⟨e, ?_, hfail⟩
  rw [result_mergeDuplicates, mapM_eq_error_iff.2 ⟨ks ++ single, key, rest, ?_, ?_, he⟩]
  · rfl
  · rw [hsplit, List.append_assoc]
  · intro k hk
    rcases mergeClass_ofKey_cases k ss with ⟨-, hm⟩ | ⟨htwo, hyes, -⟩
    · exact hm
    exfalso
    rcases List.mem_append.1 hk with hk | hk
    · exact hbefore k (List.mem_filter.2 ⟨hk, decide_eq_true htwo⟩) hyes
    · exact hsingle k hk (decide_eq_true htwo)

/-- The bindings that replace those of a repeated key have different local names. -/
theorem nodup_ofKey {ss out : List Statement} (h : (mergeDuplicates ss).result = .ok out)
    {key : MergeKey} (hkey : key ∈ repeatedKeys ss) :
    (((ofKey key out).flatMap (·.bindings)).map (·.localName)).Nodup := by
  obtain ⟨hmem, htwo⟩ := List.mem_filter.1 hkey
  have htwo : 2 ≤ (ofKey key ss).length := of_decide_eq_true htwo
  obtain ⟨st, hst, rfl⟩ := List.mem_map.1 (List.mem_eraseDups.1 hmem)
  obtain ⟨ms, hclasses, rfl⟩ := mergeDuplicates_eq_ok h
  have hmerge := mergeClass_ofKey_flatten hclasses (pairwise_classesByKey ss)
    (mem_classesByKey.2 ⟨st, hst, rfl⟩) (List.ne_nil_of_mem (mem_ofKey.2 ⟨hst, rfl⟩))
    fun a ha => (mem_ofKey.1 ha).2
  rcases mergeClass_cases hmerge with ⟨hone, -⟩ | ⟨first, others, -, hcombine⟩
  · omega
  · obtain ⟨u, hu, -, hout⟩ := Statement.combine_eq_ok hcombine
    rw [hout, Statement.flatMap_bindings_mapIdx]
    exact Union.nodup_addAll (by simp [Union.bindings]) hu

/-- **Merging fails exactly on clashes.** It gives a result if no key of several statements has
comments inside or bindings that exclude each other. Otherwise it fails at the first key that has,
and if it gives a result, the bindings of each such key have different local names. -/
theorem mergeDuplicates_clashes (ss : List Statement) :
    ((∃ out, (mergeDuplicates ss).result = .ok out) ↔
      ∀ key ∈ repeatedKeys ss, ¬Unmergeable (ofKey key ss)) ∧
    (∀ before key after, repeatedKeys ss = before ++ key :: after →
      (∀ k ∈ before, ¬Unmergeable (ofKey k ss)) → Unmergeable (ofKey key ss) →
        ∃ e, (mergeDuplicates ss).result = .error e ∧ MergeFailure key (ofKey key ss) e) ∧
    ∀ out, (mergeDuplicates ss).result = .ok out → ∀ key ∈ repeatedKeys ss,
      (((ofKey key out).flatMap (·.bindings)).map (·.localName)).Nodup := by
  refine ⟨⟨?_, ?_⟩, fun _ _ _ => exists_mergeFailure, fun out h key hkey => nodup_ofKey h hkey⟩
  · rintro ⟨out, hout⟩ key hkey hyes
    obtain ⟨hmem, htwo⟩ := List.mem_filter.1 hkey
    rw [result_mergeDuplicates] at hout
    obtain ⟨ms, hms, -⟩ := Except.exists_of_map_eq_ok hout
    obtain ⟨m, -, hm⟩ := exists_mem_of_forall₂ (forall₂_of_mapM hms).flip hmem
    rcases mergeClass_ofKey_cases key ss with ⟨hno, -⟩ | ⟨-, -, e, he, -⟩
    · exact hno ⟨of_decide_eq_true htwo, hyes⟩
    · rw [he] at hm
      cases hm
  · intro hno
    have hall : ∀ key ∈ mergeKeys ss, ∃ m, (mergeClass (ofKey key ss)).result = .ok m := by
      intro key hkey
      rcases mergeClass_ofKey_cases key ss with ⟨-, hm⟩ | ⟨htwo, hyes, -⟩
      · exact hm
      · exact absurd hyes (hno key (List.mem_filter.2 ⟨hkey, decide_eq_true htwo⟩))
    obtain ⟨ms, hms⟩ := exists_mapM hall
    exact ⟨ms.flatten, by rw [result_mergeDuplicates, hms]; rfl⟩

/-- A statement that can be merged, and two with different default bindings. -/
def twoDefaults : List Statement :=
  [{ specifier := ['k'], bindings := [⟨.namedExport, ['x'], none, false⟩] },
    { specifier := ['m'], bindings := [⟨.defaultExport, ['a'], none, false⟩] },
    { specifier := ['k'], bindings := [⟨.namedExport, ['y'], none, false⟩] },
    { specifier := ['m'], bindings := [⟨.defaultExport, ['b'], none, false⟩] }]

/-- The two default bindings are the failure, at the second key. -/
theorem mergeDuplicates_twoDefaults : ∃ e, (mergeDuplicates twoDefaults).result = .error e ∧
    MergeFailure ⟨['m'], false, none⟩ (ofKey ⟨['m'], false, none⟩ twoDefaults) e := by
  refine (mergeDuplicates_clashes twoDefaults).2.1 [⟨['k'], false, none⟩] _ [] (by decide) ?_ ?_
  · intro k hk
    obtain rfl := List.mem_singleton.1 hk
    rintro (hinner | ⟨a, ha, b, hb, clash, hab⟩)
    · exact absurd hinner (by decide)
    · exact Union.exists_addAll_iff.1 ⟨_, rfl⟩ a ha b hb clash hab
  · exact .inr ⟨⟨.defaultExport, ['a'], none, false⟩, by decide,
      ⟨.defaultExport, ['b'], none, false⟩, by decide, _, .heads rfl (by decide) (by decide)⟩

end ImportOrder
