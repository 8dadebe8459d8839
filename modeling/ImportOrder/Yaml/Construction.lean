import ImportOrder.Yaml.Node
import ImportOrder.Yaml.Value

/-!
# Going through a YAML document

The nodes of a document are gone through from the root, level by level: a scalar gets its value at
once, and a collection waits until those found before it are done. Each node is gone through once.
The order decides which of several faults is found. A mapping may merge others into itself; then
their entries are put before its own.

## Main definitions

* `Yaml.Mark`: what is known of a node
* `Yaml.visit`, `Yaml.explore`: finding a node, and going through what a collection is made of
* `Yaml.flatten`: puts merged entries into a mapping
* `Yaml.construct`: goes through a whole document
-/

namespace ImportOrder

namespace Yaml

/-- **What is known of a node** while a document is gone through. -/
inductive Mark where
  | unseen
  | scalar (value : Scalar)
  | collection
deriving Repr, Inhabited

/-- **A document that is gone through**: its nodes, what is known of each, and the collections that
wait. -/
structure Construction where
  nodes : Array Node
  marks : Array Mark
  waiting : List Nat := []
deriving Repr, Inhabited

/-- Going through a document, which may fail. -/
abbrev Construct := StateT Construction (Except Rejection)

namespace Construction

/-- A node by its number. -/
def node (c : Construction) (id : Nat) : Node := c.nodes.getD id .empty

/-- The entries of a mapping. -/
def entries (c : Construction) (id : Nat) : List (Nat × Nat) :=
  match (c.node id).body with
  | .mapping entries => entries
  | _ => []

/-- Puts other entries into a mapping. -/
def setEntries (c : Construction) (id : Nat) (entries : List (Nat × Nat)) : Construction :=
  { c with nodes := c.nodes.setIfInBounds id { c.node id with body := .mapping entries } }

/-- Notes what is known of a node. -/
def mark (c : Construction) (id : Nat) (m : Mark) : Construction :=
  { c with marks := c.marks.setIfInBounds id m }

/-- The text of a scalar. In a mapping, the value of the key `=` stands for the whole. -/
def text (c : Construction) : (fuel : Nat) → (id : Nat) → Except Rejection WideText
  | 0, _ => .error (.broken .tooDeep)
  | fuel + 1, id =>
    match (c.node id).body with
    | .scalar t => .ok t
    | .mapping entries =>
      match entries.find? fun e => (c.node e.1).kind = .equals with
      | some e => c.text fuel e.2
      | none => .error .malformed
    | .sequence _ => .error .malformed

/-- The value of a node of a kind of scalars. -/
def value (c : Construction) (id : Nat) : Except Rejection Scalar := do
  let text ← c.text (c.nodes.size + 1) id
  match (c.node id).kind, (c.node id).body with
  | .timestamp, .mapping _ => .error (.broken .timestampOfMapping)
  | kind, _ => kind.read text

end Construction

/-- Finds a node. -/
def visit (id : Nat) : Construct Unit := do
  let c ← get
  match c.marks.getD id .unseen with
  | .unseen =>
    if (c.node id).kind.isCollection then
      set { c.mark id .collection with waiting := c.waiting ++ [id] }
    else
      let value ← c.value id
      set (c.mark id (.scalar value))
  | _ => return ()

/-- Finds the key and the value of an entry. A key must be a scalar. -/
def visitEntry (entry : Nat × Nat) : Construct Unit := do
  visit entry.1
  if (← get).marks.getD entry.1 .unseen matches .collection then throw .malformed
  visit entry.2

/-- Finds the key and the value of the one entry of a mapping. -/
def visitPair (id : Nat) : Construct Unit := do
  match ((← get).node id).body with
  | .mapping [(key, value)] => do
    visit key
    visit value
  | _ => throw .malformed

mutual

/-- Puts the entries that a mapping merges before its own. -/
def flatten : (fuel : Nat) → (id : Nat) → Construct Unit
  | 0, _ => throw .malformed
  | fuel + 1, id => do
    let merged ← takeMerged fuel id
    modify fun c =>
      let c := if merged.isEmpty then c else c.setEntries id (merged ++ c.entries id)
      -- a key `=` is an ordinary text from now on
      { c with
        nodes := (c.entries id).foldl (fun nodes e => nodes.modify e.1 fun n =>
          if n.kind = .equals then { n with kind := .str } else n) c.nodes }

/-- Takes the merging keys out of a mapping; gives the entries that they merge. -/
def takeMerged : (fuel : Nat) → (id : Nat) → Construct (List (Nat × Nat))
  | 0, _ => throw .malformed
  | fuel + 1, id => do
    let c ← get
    let isMerge (e : Nat × Nat) : Bool := (c.node e.1).kind = .merge
    match (c.entries id).find? isMerge with
    | none => return []
    | some e =>
      set (c.setEntries id ((c.entries id).eraseP isMerge))
      let new ← match (c.node e.2).body with
        | .mapping _ => mergedMapping fuel e.2
        | .sequence items => mergedItems fuel items
        | .scalar _ => throw .malformed
      return new ++ (← takeMerged fuel id)

/-- The entries of a mapping that is merged. -/
def mergedMapping : (fuel : Nat) → (id : Nat) → Construct (List (Nat × Nat))
  | 0, _ => throw .malformed
  | fuel + 1, id => do
    flatten fuel id
    return (← get).entries id

/-- The entries of mappings that are merged; those of later ones come first. -/
def mergedItems : (fuel : Nat) → List Nat → Construct (List (Nat × Nat))
  | 0, _ => throw .malformed
  | _ + 1, [] => return []
  | fuel + 1, id :: ids => do
    match ((← get).node id).body with
    | .mapping _ => do
      let new ← mergedMapping fuel id
      return (← mergedItems fuel ids) ++ new
    | _ => throw .malformed

end

/-- Room for merging: more than the mappings can merge each other. -/
def mergeRoom (nodes : Array Node) : Nat :=
  let parts (n : Node) : Nat :=
    match n.body with
    | .scalar _ => 0
    | .sequence items => items.length
    | .mapping entries => entries.length
  8 * (nodes.foldl (fun k n => k + parts n + 1) 1)

/-- Goes through what a collection is made of. -/
def explore (id : Nat) : Construct Unit := do
  let c ← get
  match (c.node id).kind, (c.node id).body with
  | .sequence, .sequence items => items.forM visit
  | .mapping, .mapping _ | .set, .mapping _ => do
    flatten (mergeRoom c.nodes) id
    ((← get).entries id).forM visitEntry
  | .orderedMapping, .sequence items | .pairs, .sequence items => items.forM visitPair
  | _, _ => throw .malformed

/-- Goes through the collections that wait, with room for `fuel` of them. -/
def exploreAll : (fuel : Nat) → Construct Unit
  | 0 => return ()
  | fuel + 1 => do
    match (← get).waiting with
    | [] => return ()
    | id :: rest => do
      modify fun c => { c with waiting := rest }
      explore id
      exploreAll fuel

/-- Goes through a whole document. -/
def construct (d : Document) : Except Rejection Construction := do
  let start : Construction := { nodes := d.nodes, marks := Array.replicate d.nodes.size .unseen }
  let all : Construct Unit := do
    visit d.root
    exploreAll d.nodes.size
  return (← all.run start).2

end Yaml

end ImportOrder
