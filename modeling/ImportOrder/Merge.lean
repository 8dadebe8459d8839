import ImportOrder.Failure
import ImportOrder.Journal
import ImportOrder.Statement

/-!
# Merging imports of one module

Statements with the same module, type mark and attributes are combined: their bindings are united,
and so are their comments. Bindings that exclude each other are a conflict. A namespace cannot stand
beside a list, and a type-only statement has one kind of binding, so that the result may be up to
three statements.

## Main definitions

* `MergeKey`: what statements must share to be combined
* `Union`, `Union.add`: bindings put together one by one
* `Statement.combine`: the statements that replace those of one key
* `mergeDuplicates`: a list of statements with each key combined
-/

namespace ImportOrder

/-- **What statements must share** to be combined: module, type mark and attributes. -/
structure MergeKey where
  specifier : Text
  typeOnly : Bool
  attributes : Option Text
deriving Repr, DecidableEq, Inhabited

namespace Statement

/-- The key of a statement. -/
def mergeKey (s : Statement) : MergeKey := ⟨s.specifier, s.typeOnly, s.attributes⟩

end Statement

/-- **Bindings of one module put together**: at most one default and one namespace binding, and
named bindings with different pairs of imported and local name. -/
structure Union where
  defaultHead : Option Binding := none
  namespaceHead : Option Binding := none
  named : List Binding := []
deriving Repr, DecidableEq, Inhabited

namespace Union

/-- All bindings, the heads first. -/
def bindings (u : Union) : List Binding :=
  u.defaultHead.toList ++ u.namespaceHead.toList ++ u.named

/-- The heads. -/
def heads (u : Union) : List Binding := u.defaultHead.toList ++ u.namespaceHead.toList

/-- Whether a local name is already bound. -/
def binds (u : Union) (name : Text) : Bool := u.bindings.any (·.localName == name)

/-- Whether two named bindings import the same name under the same local name. -/
def sameNamed (a b : Binding) : Bool := a.name == b.name && a.localName == b.localName

/-- Adds a named binding. A second one for the same pair of names replaces the first if it is the
first that imports a value. -/
def addNamed (u : Union) (b : Binding) : Except Clash Union :=
  if u.named.any (sameNamed b) then
    .ok { u with named := u.named.map fun a =>
      if sameNamed b a && a.typeOnly && !b.typeOnly then b else a }
  else if u.binds b.localName then .error (.sameLocalName b.localName)
  else .ok { u with named := u.named ++ [b] }

/-- The head for a default or namespace binding after one more: the first one stays. -/
def addHead (u : Union) (head : Option Binding) (b : Binding) : Except Clash (Option Binding) :=
  match head with
  | some a =>
    if a.localName = b.localName then .ok head
    else .error (.differentHeads b.kind a.localName b.localName)
  | none => if u.binds b.localName then .error (.sameLocalName b.localName) else .ok (some b)

/-- Adds a binding. -/
def add (u : Union) (b : Binding) : Except Clash Union :=
  match b.kind with
  | .namedExport => u.addNamed b
  | .defaultExport => do return { u with defaultHead := ← u.addHead u.defaultHead b }
  | .namespaceObject => do return { u with namespaceHead := ← u.addHead u.namespaceHead b }

/-- Adds bindings one by one. -/
def addAll (u : Union) : List Binding → Except Clash Union
  | [] => .ok u
  | b :: bs => do (← u.add b).addAll bs

/-- The bindings of the statements that replace merged ones. A type-only statement has one head or
a list, and a namespace never stands beside a list. -/
def shapes (u : Union) (typeOnly : Bool) : List (List Binding) :=
  let list := if u.named.isEmpty then [] else [u.named]
  let parts :=
    if typeOnly then u.heads.map ([·]) ++ list
    else if u.namespaceHead.isSome && !u.named.isEmpty then [u.heads, u.named]
    else [u.heads ++ u.named]
  match parts.filter (!·.isEmpty) with
  | [] => [[]]
  | shapes => shapes

end Union

namespace Statement

/-- The comment lines above merged statements: all that led one of them, and every trailing comment
but the first. -/
def mergedLeading : (trailingTaken : Bool) → List Statement → List Text
  | _, [] => []
  | taken, s :: ss =>
    s.leadingComments ++ (if taken then s.trailingComment.toList else []) ++
      mergedLeading (taken || s.trailingComment.isSome) ss

/-- The shapes of the statements that replace those of one key. Bindings that are types only are
erased, so that a statement for the side effect is kept beside them. -/
def mergedShapes (typeOnly : Bool) (group : List Statement) (u : Union) : List (List Binding) :=
  let shapes := u.shapes typeOnly
  if !typeOnly && shapes ≠ [[]] && group.any isSideEffect && u.bindings.all (·.typeOnly) then
    [] :: shapes
  else shapes

/-- The first of merged statements, which carries the comments, or a further one. -/
def withShape (first : Statement) (group : List Statement) (index : Nat) (bs : List Binding) :
    Statement :=
  { first with
    bindings := bs
    leadingComments := if index = 0 then mergedLeading false group else []
    trailingComment := if index = 0 then group.findSome? (·.trailingComment) else none
    start := group.foldl (fun n s => min n s.start) first.start
    stop := group.foldl (fun n s => max n s.stop) first.stop
    raw := none }

/-- The statements that replace those of one key, of which `first` is the first. -/
def combine (first : Statement) (others : List Statement) : Except Failure (List Statement) :=
  let group := first :: others
  if group.any (·.innerComments) then .error (.unsupported (.mergeAcrossComments first.specifier))
  else
    match ({} : Union).addAll (group.flatMap (·.bindings)) with
    | .error clash => .error (.conflict ⟨first.specifier, clash⟩)
    | .ok u => .ok ((mergedShapes first.typeOnly group u).mapIdx (withShape first group))

end Statement

/-- The statements of each key, in the order of the keys' first appearance. -/
def classesByKey : List Statement → List (List Statement)
  | [] => []
  | s :: ss =>
    let rest := classesByKey ss
    let same := ss.filter (·.mergeKey = s.mergeKey)
    (s :: same) :: rest.filter fun c => c.all (·.mergeKey ≠ s.mergeKey)

/-- The statements that replace a class of statements with one key. -/
def mergeClass (c : List Statement) : Journaled Failure (List Statement) :=
  match c with
  | [] => pure []
  | [s] => pure [s]
  | s :: ss => do
    let merged ← Journaled.ofExcept (s.combine ss)
    Journaled.debug
      s!"Merged {c.length} imports of {s.specifier.quoted} into {merged.length}"
    return merged

/-- Statements with each key combined, in the order of the keys' first appearance. -/
def mergeDuplicates (ss : List Statement) : Journaled Failure (List Statement) := do
  return (← Journaled.forEach mergeClass (classesByKey ss)).flatten

end ImportOrder
