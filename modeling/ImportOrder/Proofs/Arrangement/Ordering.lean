import ImportOrder.Order
import ImportOrder.Proofs.Arrangement.StableSort
import Mathlib.Order.Compare

/-!
# The order of statements

Statements are compared by one criterion after another, and the result is a total order of their
keys: sorting puts them in order, and it leaves those with the same key in the order in which they
came.

## Main results

* `transCmp_compareText`, `compareText_eq_iff`: texts are ordered totally, whether capitals matter
  or not
* `Statement.compare_eq_eq_iff`: when neither of two statements comes before the other
* `pairwise_sortStatements`: sorted statements are in order
-/

namespace ImportOrder

/-! ## Comparisons -/

/-- Comparing by a function of the items. -/
theorem transCmp_on {α β : Type} {cmp : β → β → Ordering} (h : Std.TransCmp cmp) (f : α → β) :
    Std.TransCmp fun a b => cmp (f a) (f b) where
  eq_swap := h.eq_swap
  isLE_trans := h.isLE_trans

/-- Comparing by a second criterion where the first does not decide. -/
theorem transCmp_then {α : Type} {cmp cmp' : α → α → Ordering} (h : Std.TransCmp cmp)
    (h' : Std.TransCmp cmp') : Std.TransCmp fun a b => (cmp a b).then (cmp' a b) :=
  inferInstanceAs (Std.TransCmp (compareLex cmp cmp'))

/-- Of two items, one may stand before the other. -/
theorem isLE_total {α : Type} {cmp : α → α → Ordering} (h : Std.TransCmp cmp) (a b : α) :
    ((cmp a b).isLE || (cmp b a).isLE) = true := by
  rw [h.eq_swap (a := b)]
  cases cmp a b <;> rfl

/-- Two items that may stand before each other compare equal. -/
theorem isLE_antisymm {α : Type} {cmp : α → α → Ordering} (h : Std.TransCmp cmp) {a b : α}
    (hab : (cmp a b).isLE = true) (hba : (cmp b a).isLE = true) : cmp a b = .eq := by
  rw [h.eq_swap (a := b)] at hba
  revert hab hba
  cases cmp a b <;> decide

theorem transCmp_compareText (caseSensitive : Bool) : Std.TransCmp (compareText caseSensitive) := by
  have hplain : Std.TransCmp (fun a b : Text => compare a b) := inferInstance
  cases caseSensitive with
  | true => exact hplain
  | false => exact transCmp_then (transCmp_on hplain Text.lower) hplain

/-- Texts that compare equal are equal: capitals still decide where they do not matter. -/
theorem compareText_eq_iff {caseSensitive : Bool} {a b : Text} :
    compareText caseSensitive a b = .eq ↔ a = b := by
  cases caseSensitive with
  | true => simp [compareText]
  | false =>
    simp only [compareText, Bool.false_eq_true, if_false, Ordering.then_eq_eq,
      Std.LawfulEqCmp.compare_eq_iff_eq]
    exact ⟨And.right, by rintro rfl; exact ⟨rfl, rfl⟩⟩

/-! ## Statements -/

namespace Statement

variable {s : Settings} {a b c : Statement}

theorem transCmp_compare (s : Settings) : Std.TransCmp (compare s) := by
  have htext := transCmp_compareText s.caseSensitive
  have hnat : Std.TransCmp (fun m n : Nat => Ord.compare m n) := inferInstance
  exact transCmp_then (transCmp_on htext (sortText s)) <|
    transCmp_then (transCmp_on htext specifier) <|
      transCmp_then (transCmp_on hnat (typeRank s)) (transCmp_on hnat index)

theorem mayPrecede_trans (hab : mayPrecede s a b = true) (hbc : mayPrecede s b c = true) :
    mayPrecede s a c = true := (transCmp_compare s).isLE_trans hab hbc

theorem mayPrecede_total (s : Settings) (a b : Statement) :
    (mayPrecede s a b || mayPrecede s b a) = true := isLE_total (transCmp_compare s) a b

/-- Neither of two statements comes before the other if they have the same key. -/
theorem compare_eq_eq_iff : compare s a b = .eq ↔
    a.sortText s = b.sortText s ∧ a.specifier = b.specifier ∧ a.typeRank s = b.typeRank s ∧
      a.index = b.index := by
  simp only [compare, Ordering.then_eq_eq, compareText_eq_iff, Std.LawfulEqCmp.compare_eq_iff_eq]

/-- Statements between two that compare equal compare equal to them. -/
theorem compare_eq_of_between (hab : mayPrecede s a b = true) (hbc : mayPrecede s b c = true)
    (hac : compare s a c = .eq) : compare s a b = .eq := by
  have hcmp := transCmp_compare s
  have hca : (compare s c a).isLE = true := by
    rw [hcmp.eq_swap, hac]
    rfl
  exact isLE_antisymm hcmp hab (hcmp.isLE_trans hbc hca)

end Statement

/-- **Sorted statements are in order.** -/
theorem pairwise_sortStatements (s : Settings) (sts : List Statement) :
    (sortStatements s sts).Pairwise (Statement.mayPrecede s · · = true) := by
  unfold sortStatements
  apply pairwise_inOrder
  · intro a b c
    exact Statement.mayPrecede_trans
  · exact Statement.mayPrecede_total s

end ImportOrder
