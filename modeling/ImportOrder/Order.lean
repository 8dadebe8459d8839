import ImportOrder.Settings.Basic
import ImportOrder.StableSort
import ImportOrder.Statement
import ImportOrder.Text.Lowercase

/-!
# The order of imports

Bindings are ordered by kind, name, local name and type mark; the statements of a group by their
specifier or first name, and at last by their place in the source. Where capitals do not matter,
they still decide between texts that are otherwise equal.

## Main definitions

* `compareText`: the order of texts
* `Binding.compare`, `sortBindings`: the order of bindings
* `Statement.compare`, `sortStatements`: the order of statements
-/

namespace ImportOrder

/-- The order of texts, by code point; or by lower case first. -/
def compareText (caseSensitive : Bool) (a b : Text) : Ordering :=
  if caseSensitive then compare a b else (compare a.lower b.lower).then (compare a b)

namespace BindingKind

/-- Default bindings come first, then namespaces, then named bindings. -/
def rank : BindingKind → Nat
  | defaultExport => 0
  | namespaceObject => 1
  | namedExport => 2

end BindingKind

namespace Binding

/-- The imported name without quotes. -/
def nameText (b : Binding) : Text := ((stringName? b.name).map (·.2)).getD b.name

/-- The order of bindings. -/
def compare (caseSensitive : Bool) (a b : Binding) : Ordering :=
  (Ord.compare a.kind.rank b.kind.rank).then <|
    (compareText caseSensitive a.nameText b.nameText).then <|
      (compareText caseSensitive a.localName b.localName).then <|
        Ord.compare a.typeOnly b.typeOnly

/-- Whether one binding may stand before another under some settings. -/
def mayPrecede (s : Settings) (a b : Binding) : Bool :=
  if s.sortNames then (compare s.caseSensitive a b).isLE else a.kind.rank ≤ b.kind.rank

end Binding

/-- Bindings in order; without sorting of names, in order of their kinds only. -/
def sortBindings (s : Settings) (bs : List Binding) : List Binding :=
  inOrder (Binding.mayPrecede s) bs

namespace Statement

/-- The text by which a statement is sorted first. -/
def sortText (s : Settings) (st : Statement) : Text :=
  match (sortBindings s st.bindings).head? with
  | some b => if s.sortBy = "name" then b.localName else st.specifier
  | none => st.specifier

/-- Type-only statements come after others of the same module, if they are to come last. -/
def typeRank (s : Settings) (st : Statement) : Nat := if st.typeOnly && s.typeOnlyLast then 1 else 0

/-- The order of the statements of a group. -/
def compare (s : Settings) (a b : Statement) : Ordering :=
  (compareText s.caseSensitive (a.sortText s) (b.sortText s)).then <|
    (compareText s.caseSensitive a.specifier b.specifier).then <|
      (Ord.compare (a.typeRank s) (b.typeRank s)).then <| Ord.compare a.index b.index

/-- Whether one statement may stand before another. -/
def mayPrecede (s : Settings) (a b : Statement) : Bool := (compare s a b).isLE

end Statement

/-- The statements of a group in order. -/
def sortStatements (s : Settings) (sts : List Statement) : List Statement :=
  inOrder (Statement.mayPrecede s) sts

end ImportOrder
