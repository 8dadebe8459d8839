import ImportOrder.StableSort
import Mathlib.Data.List.Sort

/-!
# Sorted lists

Lists are sorted by insertion, so that what is known of insertion sort holds for them: sorting
permutes, the result is in order, and items that may precede each other keep their order.

## Main results

* `inOrder_eq_insertionSort`: lists are sorted by insertion
* `pairwise_inOrder`: the result is in order
* `filter_inOrder`: sorting keeps the order of items that may precede each other
-/

namespace ImportOrder

variable {α β : Type} {le : α → α → Bool} {as : List α}

theorem insertInOrder_eq_orderedInsert (le : α → α → Bool) (a : α) (bs : List α) :
    insertInOrder le a bs = bs.orderedInsert (le · · = true) a := by
  induction bs with
  | nil => rfl
  | cons b bs ih => rw [insertInOrder, ih, List.orderedInsert_cons]

/-- **Lists are sorted by insertion.** -/
theorem inOrder_eq_insertionSort (le : α → α → Bool) (as : List α) :
    inOrder le as = as.insertionSort (le · · = true) := by
  induction as with
  | nil => rfl
  | cons a as ih => rw [inOrder, ih, insertInOrder_eq_orderedInsert, List.insertionSort_cons]

theorem inOrder_perm (le : α → α → Bool) (as : List α) : (inOrder le as).Perm as := by
  rw [inOrder_eq_insertionSort]
  exact List.perm_insertionSort _ as

@[simp] theorem mem_inOrder {a : α} : a ∈ inOrder le as ↔ a ∈ as := (inOrder_perm le as).mem_iff

theorem inOrder_eq_self (h : as.Pairwise (le · · = true)) : inOrder le as = as := by
  rw [inOrder_eq_insertionSort, h.insertionSort_eq]

/-- An item that may precede all others comes first. -/
theorem inOrder_cons {a : α} (h : ∀ b ∈ as, le a b = true) :
    inOrder le (a :: as) = a :: inOrder le as := by
  rw [inOrder_eq_insertionSort, inOrder_eq_insertionSort, List.insertionSort_cons_of_forall_rel _ h]

/-- Sorting keys is sorting by keys. -/
theorem inOrder_map (le : β → β → Bool) (f : α → β) (as : List α) :
    inOrder le (as.map f) = (inOrder (fun a b => le (f a) (f b)) as).map f := by
  rw [inOrder_eq_insertionSort, inOrder_eq_insertionSort,
    ← List.map_insertionSort _ _ f as fun a _ b _ => Iff.rfl]

/-- **Sorting is stable**: items that may precede each other keep their order. -/
theorem filter_inOrder {p : α → Bool}
    (h : ∀ a ∈ as, ∀ b ∈ as, p a = true → p b = true → le a b = true) :
    (inOrder le as).filter p = as.filter p := by
  have hpairs : (as.filter p).Pairwise (le · · = true) := by
    rw [List.pairwise_iff_forall_sublist]
    intro a b hab
    have ha := List.mem_filter.1 (hab.subset (by simp : a ∈ [a, b]))
    have hb := List.mem_filter.1 (hab.subset (by simp : b ∈ [a, b]))
    exact h a ha.1 b hb.1 ha.2 hb.2
  have hsublist : ((as.filter p).filter p).Sublist ((inOrder le as).filter p) := by
    rw [inOrder_eq_insertionSort]
    exact (List.sublist_insertionSort hpairs List.filter_sublist).filter p
  rw [List.filter_filter] at hsublist
  simp only [Bool.and_self] at hsublist
  exact (hsublist.eq_of_length ((inOrder_perm le as).filter p).length_eq.symm).symm

section Order

variable (trans : ∀ a b c, le a b = true → le b c = true → le a c = true)
  (total : ∀ a b, (le a b || le b a) = true)

include trans total

/-- **The result is in order.** -/
theorem pairwise_inOrder (as : List α) : (inOrder le as).Pairwise (le · · = true) := by
  have : IsTrans α (le · · = true) := ⟨trans⟩
  have : Std.Total fun a b : α => le a b = true := ⟨fun a b => Bool.or_eq_true_iff.1 (total a b)⟩
  rw [inOrder_eq_insertionSort]
  exact List.pairwise_insertionSort _ as

/-- A list that is in order after a change that sorting does not see was in order before. -/
theorem inOrder_eq_self_of_map {f : α → α} (hle : ∀ a b, le (f a) (f b) = le a b)
    (h : (inOrder le as).map f = as.map f) : inOrder le as = as := by
  have hmap : ((inOrder le as).map f).Pairwise (le · · = true) := by
    rw [List.pairwise_map]
    simp only [hle]
    exact pairwise_inOrder trans total as
  rw [h, List.pairwise_map] at hmap
  simp only [hle] at hmap
  exact inOrder_eq_self hmap

end Order

end ImportOrder
