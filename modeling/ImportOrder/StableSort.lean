/-!
# Stable sorting

Sorting by insertion: items that neither comes before the other keep their order.

## Main definitions

* `insertInOrder`: puts an item before the first that it may precede
* `inOrder`: a list put in order
-/

namespace ImportOrder

variable {α : Type}

/-- Puts an item before the first that it may precede. -/
def insertInOrder (le : α → α → Bool) (a : α) : List α → List α
  | [] => [a]
  | b :: bs => if le a b then a :: b :: bs else b :: insertInOrder le a bs

/-- The items of a list in order, where `le a b` tells that `a` may stand before `b`. -/
def inOrder (le : α → α → Bool) : List α → List α
  | [] => []
  | a :: as => insertInOrder le a (inOrder le as)

end ImportOrder
