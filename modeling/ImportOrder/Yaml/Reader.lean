import ImportOrder.Yaml.Construction

/-!
# Reading YAML

A YAML text as file data. Of equal keys the last value wins. A node that an alias puts inside itself
is unfolded as far as anybody looks.

## Main definitions

* `Yaml.Construction.data`: the data of the nodes of a document
* `Yaml.parse`: the data of a text
-/

namespace ImportOrder

namespace Yaml

namespace Construction

/-- The value of a node that is a scalar. -/
def scalar? (c : Construction) (id : Nat) : Option Scalar :=
  match c.marks.getD id .unseen with
  | .scalar value => some value
  | _ => none

/-- The data of a node, given the data of others by their numbers. -/
def nodeData (c : Construction) (others : Nat → Data) (id : Nat) : Data :=
  let entries (es : List (Nat × Nat)) : List (Scalar × Data) :=
    Data.updateKeys [] (es.filterMap fun e => (c.scalar? e.1).map fun key => (key, others e.2))
  let pair (item : Nat) : Data :=
    match c.entries item with
    | e :: _ => .pair (others e.1) (others e.2)
    | [] => .null
  match c.marks.getD id .unseen, (c.node id).kind, (c.node id).body with
  | .scalar value, _, _ => .scalar value
  | .collection, .sequence, .sequence items => .list (items.map others)
  | .collection, .orderedMapping, .sequence items | .collection, .pairs, .sequence items =>
    .list (items.map pair)
  | .collection, .mapping, .mapping es => .map (entries es)
  | .collection, .set, .mapping es => .set ((entries es).map (·.1))
  | _, _, _ => .null

/-- The data of all nodes, given what is known of it so far. The nodes are taken from the last to
the first, so that only references back to earlier nodes depend on what was known. -/
def sweep (c : Construction) (known : Array Data) : Array Data :=
  (List.range c.nodes.size).reverse.foldl (fun now id =>
    let others (other : Nat) : Data := (if id < other then now else known).getD other .null
    now.setIfInBounds id (c.nodeData others id)) known

/-- How often a node is unfolded inside itself: deeper than anybody looks into settings. -/
def unfolding : Nat := 8

/-- The data of all nodes. Each sweep gets the references right that need one step back more than
those before. -/
def data (c : Construction) (aliases : Nat) : Array Data :=
  (List.range (aliases + unfolding)).foldl (fun known _ => c.sweep known)
    (Array.replicate c.nodes.size .null)

end Construction

/-- The data of a text, if it is one well-formed document. -/
def parse [Platform] (t : Text) : Except Rejection Data := do
  let d ← Document.ofTokens (scan t)
  let c ← construct d
  return (c.data d.aliases).getD d.root .null

end Yaml

end ImportOrder
