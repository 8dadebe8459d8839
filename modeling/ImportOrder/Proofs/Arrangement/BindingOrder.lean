import ImportOrder.Proofs.Arrangement.Ordering
import Mathlib.Data.List.Perm.Basic

/-!
# The order of bindings

Bindings are compared by kind, then by name, local name and type mark, and texts are ordered totally
in either mode. So a list has one sorted form, up to bindings that agree in all of these, whatever
order it came in. Without sorting of names the kinds alone are compared, and sorting only moves the
kinds apart.

## Main definitions

* `Binding.IsAlike`: two bindings agree in everything that is compared
* `ofKind`: the bindings of a kind, in their order

## Main results

* `Binding.compare_eq_eq_iff`: only bindings that are alike compare equal
* `pairwise_sortBindings`: sorted bindings are in order
* `eq_append_ofKind`: bindings in order are those of each kind, one kind after another
* `sortBindings_canonical`: sorting puts bindings into a form that does not depend on their order
-/

namespace ImportOrder

namespace Binding

variable {s : Settings} {caseSensitive : Bool} {a b c : Binding}

/-- **Bindings that are alike**: they agree in kind, name without quotes, local name and type
mark. They may still differ in the quotes of the name. -/
structure IsAlike (a b : Binding) : Prop where
  kind : a.kind = b.kind
  nameText : a.nameText = b.nameText
  localName : a.localName = b.localName
  typeOnly : a.typeOnly = b.typeOnly

instance (a b : Binding) : Decidable (a.IsAlike b) :=
  decidable_of_iff
    (a.kind = b.kind ∧ a.nameText = b.nameText ∧ a.localName = b.localName ∧
      a.typeOnly = b.typeOnly)
    ⟨fun ⟨hkind, hname, hlocal, htype⟩ => ⟨hkind, hname, hlocal, htype⟩,
      fun ⟨hkind, hname, hlocal, htype⟩ => ⟨hkind, hname, hlocal, htype⟩⟩

/-! ## Comparing bindings -/

theorem transCmp_compare (caseSensitive : Bool) : Std.TransCmp (compare caseSensitive) := by
  have htext := transCmp_compareText caseSensitive
  have hnat : Std.TransCmp (fun m n : Nat => Ord.compare m n) := inferInstance
  have hbool : Std.TransCmp (fun x y : Bool => Ord.compare x y) := inferInstance
  exact transCmp_then (transCmp_on hnat fun b : Binding => b.kind.rank) <|
    transCmp_then (transCmp_on htext nameText) <|
      transCmp_then (transCmp_on htext localName) (transCmp_on hbool typeOnly)

theorem rank_injective {k k' : BindingKind} (h : k.rank = k'.rank) : k = k' := by
  cases k <;> cases k' <;> first | rfl | cases h

/-- **Only bindings that are alike compare equal.** -/
theorem compare_eq_eq_iff : compare caseSensitive a b = .eq ↔ a.IsAlike b := by
  simp only [compare, Ordering.then_eq_eq, compareText_eq_iff, Std.LawfulEqCmp.compare_eq_iff_eq]
  constructor
  · rintro ⟨hkind, hname, hlocal, htype⟩
    exact ⟨rank_injective hkind, hname, hlocal, htype⟩
  · rintro ⟨hkind, hname, hlocal, htype⟩
    exact ⟨congrArg BindingKind.rank hkind, hname, hlocal, htype⟩

theorem mayPrecede_trans (hab : mayPrecede s a b = true) (hbc : mayPrecede s b c = true) :
    mayPrecede s a c = true := by
  unfold mayPrecede at *
  split at hab
  · rename_i hnames
    rw [if_pos hnames] at hbc ⊢
    exact (transCmp_compare s.caseSensitive).isLE_trans hab hbc
  · rename_i hnames
    rw [if_neg hnames] at hbc ⊢
    exact decide_eq_true (Nat.le_trans (of_decide_eq_true hab) (of_decide_eq_true hbc))

theorem mayPrecede_total (s : Settings) (a b : Binding) :
    (mayPrecede s a b || mayPrecede s b a) = true := by
  unfold mayPrecede
  split
  · exact isLE_total (transCmp_compare s.caseSensitive) a b
  · simpa using Nat.le_total a.kind.rank b.kind.rank

/-- In both modes the kind is compared first. -/
theorem rank_le_of_mayPrecede (h : mayPrecede s a b = true) : a.kind.rank ≤ b.kind.rank := by
  unfold mayPrecede at h
  split at h
  · by_contra hlt
    have hgt : Ord.compare a.kind.rank b.kind.rank = .gt :=
      Nat.compare_eq_gt.2 (Nat.lt_of_not_le hlt)
    rw [compare, hgt] at h
    cases h
  · exact of_decide_eq_true h

/-- Among bindings of one kind the name is compared first. -/
theorem compareText_of_mayPrecede (hnames : s.sortNames = true) (hkind : a.kind = b.kind)
    (h : mayPrecede s a b = true) :
    (compareText s.caseSensitive a.nameText b.nameText).isLE = true := by
  have hrank : Ord.compare a.kind.rank b.kind.rank = .eq := by
    rw [hkind]
    exact Std.ReflCmp.compare_self
  rw [mayPrecede, if_pos hnames, compare, hrank, Ordering.eq_then] at h
  revert h
  cases compareText s.caseSensitive a.nameText b.nameText <;> simp [Ordering.then]

end Binding

/-! ## Sorted bindings -/

/-- **Sorted bindings are in order.** -/
theorem pairwise_sortBindings (s : Settings) (bs : List Binding) :
    (sortBindings s bs).Pairwise (Binding.mayPrecede s · · = true) := by
  unfold sortBindings
  apply pairwise_inOrder
  · intro a b c
    exact Binding.mayPrecede_trans
  · exact Binding.mayPrecede_total s

/-- The bindings of a kind, in their order. -/
def ofKind (kind : BindingKind) (bs : List Binding) : List Binding := bs.filter (·.kind = kind)

theorem ofKind_eq_nil {kind : BindingKind} {bs : List Binding} (h : ∀ b ∈ bs, b.kind ≠ kind) :
    ofKind kind bs = [] := by
  rw [ofKind, List.filter_eq_nil_iff]
  intro b hb
  simpa using h b hb

/-- **Bindings in order of their kinds** are those of each kind, one kind after another. -/
theorem eq_append_ofKind {bs : List Binding}
    (h : bs.Pairwise fun a b => a.kind.rank ≤ b.kind.rank) :
    bs = ofKind .defaultExport bs ++ (ofKind .namespaceObject bs ++ ofKind .namedExport bs) := by
  induction bs with
  | nil => rfl
  | cons a bs ih =>
    obtain ⟨ha, hbs⟩ := List.pairwise_cons.1 h
    have hrest := ih hbs
    -- No binding of an earlier kind than the first one's comes behind it.
    have hnone : ∀ kind : BindingKind, kind.rank < a.kind.rank → ofKind kind bs = [] := by
      intro kind hkind
      apply ofKind_eq_nil
      rintro b hb rfl
      exact absurd (ha b hb) (Nat.not_le.2 hkind)
    have hkeep : ofKind a.kind (a :: bs) = a :: ofKind a.kind bs := by simp [ofKind]
    have hskip : ∀ kind, a.kind ≠ kind → ofKind kind (a :: bs) = ofKind kind bs := by
      intro kind hkind
      simp [ofKind, hkind]
    cases hkind : a.kind with
    | defaultExport =>
      rw [hkind] at hkeep
      rw [hkeep, hskip _ (by simp [hkind]), hskip _ (by simp [hkind]), List.cons_append, ← hrest]
    | namespaceObject =>
      rw [hkind] at hkeep
      have hdefault := hnone .defaultExport (by rw [hkind]; decide)
      rw [hdefault, List.nil_append] at hrest
      rw [hskip _ (by simp [hkind]), hdefault, hkeep, hskip _ (by simp [hkind]), List.nil_append,
        List.cons_append, ← hrest]
    | namedExport =>
      rw [hkind] at hkeep
      have hdefault := hnone .defaultExport (by rw [hkind]; decide)
      have hobject := hnone .namespaceObject (by rw [hkind]; decide)
      rw [hdefault, hobject, List.nil_append, List.nil_append] at hrest
      rw [hskip _ (by simp [hkind]), hskip _ (by simp [hkind]), hdefault, hobject, hkeep,
        List.nil_append, List.nil_append, ← hrest]

theorem sortBindings_eq_append (s : Settings) (bs : List Binding) :
    sortBindings s bs = ofKind .defaultExport (sortBindings s bs) ++
      (ofKind .namespaceObject (sortBindings s bs) ++ ofKind .namedExport (sortBindings s bs)) :=
  eq_append_ofKind ((pairwise_sortBindings s bs).imp Binding.rank_le_of_mayPrecede)

/-- Without sorting of names, bindings of one kind may all precede each other. -/
theorem ofKind_sortBindings {s : Settings} (hnames : s.sortNames = false) (kind : BindingKind)
    (bs : List Binding) : ofKind kind (sortBindings s bs) = ofKind kind bs := by
  apply filter_inOrder
  intro a _ b _ ha hb
  rw [Binding.mayPrecede, hnames, of_decide_eq_true ha, of_decide_eq_true hb]
  exact decide_eq_true (Nat.le_refl _)

/-- Bindings of which no two are alike have one sorted form. -/
theorem sortBindings_of_perm {s : Settings} (hnames : s.sortNames = true) {bs bs' : List Binding}
    (hperm : bs'.Perm bs) (halike : ∀ a ∈ bs, ∀ b ∈ bs, a.IsAlike b → a = b) :
    sortBindings s bs' = sortBindings s bs := by
  have hsame : ∀ cs, (sortBindings s cs).Perm cs := inOrder_perm (Binding.mayPrecede s)
  refine List.Perm.eq_of_pairwise ?_ (pairwise_sortBindings s bs') (pairwise_sortBindings s bs)
    (((hsame bs').trans hperm).trans (hsame bs).symm)
  intro a b ha hb hab hba
  rw [Binding.mayPrecede, if_pos hnames] at hab hba
  have heq : Binding.compare s.caseSensitive a b = .eq :=
    isLE_antisymm (Binding.transCmp_compare s.caseSensitive) hab hba
  exact halike a (hperm.mem_iff.1 ((hsame bs').mem_iff.1 ha)) b ((hsame bs).mem_iff.1 hb)
    (Binding.compare_eq_eq_iff.1 heq)

/-- **Sorted bindings are in canonical form.** Sorting loses and adds nothing, puts default bindings
before namespaces and these before named ones, and leaves its own result as it is. Without sorting
of names, the bindings of a kind keep their order. With it, those of a kind are in order of their
names, and bindings of which no two are alike come out the same in whatever order they came. -/
theorem sortBindings_canonical (s : Settings) (bs : List Binding) :
    (sortBindings s bs).Perm bs ∧
      sortBindings s bs = ofKind .defaultExport (sortBindings s bs) ++
        (ofKind .namespaceObject (sortBindings s bs) ++ ofKind .namedExport (sortBindings s bs)) ∧
      sortBindings s (sortBindings s bs) = sortBindings s bs ∧
      (s.sortNames = false → ∀ kind, ofKind kind (sortBindings s bs) = ofKind kind bs) ∧
      (s.sortNames = true →
        (∀ kind, (ofKind kind (sortBindings s bs)).Pairwise fun a b =>
          (compareText s.caseSensitive a.nameText b.nameText).isLE = true) ∧
        ((∀ a ∈ bs, ∀ b ∈ bs, a.IsAlike b → a = b) →
          ∀ bs', bs'.Perm bs → sortBindings s bs' = sortBindings s bs)) := by
  refine ⟨inOrder_perm _ bs, sortBindings_eq_append s bs,
    inOrder_eq_self (pairwise_sortBindings s bs), ?_, ?_⟩
  · intro hnames kind
    exact ofKind_sortBindings hnames kind bs
  · intro hnames
    constructor
    · intro kind
      refine List.Pairwise.imp_of_mem ?_ ((pairwise_sortBindings s bs).filter _)
      intro a b ha hb hab
      have hkind := of_decide_eq_true (List.mem_filter.1 ha).2
      have hkind' := of_decide_eq_true (List.mem_filter.1 hb).2
      exact Binding.compareText_of_mayPrecede hnames (hkind.trans hkind'.symm) hab
    · intro halike bs' hperm
      exact sortBindings_of_perm hnames hperm halike

/-- The bindings of `x, * as ns, {b, 'a-b' as a, B}` but for their order. -/
def shuffledBindings : List Binding :=
  [⟨.namedExport, "b".toList, none, false⟩,
    ⟨.namedExport, "'a-b'".toList, some "a".toList, false⟩,
    ⟨.namespaceObject, "ns".toList, none, false⟩,
    ⟨.namedExport, "B".toList, none, false⟩,
    ⟨.defaultExport, "x".toList, none, false⟩]

theorem sortBindings_canonical_shuffled :
    (∀ a ∈ shuffledBindings, ∀ b ∈ shuffledBindings, a.IsAlike b → a = b) ∧
      (sortBindings { caseSensitive := false } shuffledBindings).map Binding.nameText =
        ["x".toList, "ns".toList, "a-b".toList, "B".toList, "b".toList] ∧
      sortBindings { caseSensitive := false } shuffledBindings.reverse =
        sortBindings { caseSensitive := false } shuffledBindings := by
  have halike : ∀ a ∈ shuffledBindings, ∀ b ∈ shuffledBindings, a.IsAlike b → a = b := by
    decide +kernel
  refine ⟨halike, by decide +kernel, ?_⟩
  exact ((sortBindings_canonical { caseSensitive := false } shuffledBindings).2.2.2.2 rfl).2 halike
    shuffledBindings.reverse (List.reverse_perm _)

end ImportOrder
