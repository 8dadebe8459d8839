import ImportOrder.Platform.Basic
import ImportOrder.Yaml.Kind
import ImportOrder.Yaml.Stream

/-!
# YAML nodes

The nodes of a YAML document: scalars, sequences and mappings, each with its kind. An alias is the
node that its anchor names, which may be a node around it; so the nodes form a table, in which they
refer to each other by number. Nodes are numbered in the order in which they start.

## Main definitions

* `Yaml.Node`: the nodes
* `Yaml.Document`: a table of nodes with its root
* `Yaml.Document.ofTokens`: the one document of a token stream
-/

namespace ImportOrder

namespace Yaml

/-- **What a node is made of**: text, or the numbers of other nodes. -/
inductive NodeBody where
  | scalar (text : WideText)
  | sequence (items : List Nat)
  | mapping (entries : List (Nat × Nat))
deriving Repr, DecidableEq, Inhabited

/-- **A YAML node.** -/
structure Node where
  kind : NodeKind
  body : NodeBody
deriving Repr, DecidableEq, Inhabited

namespace Node

/-- The node where nothing is written. -/
def empty : Node := ⟨.null, .scalar []⟩

/-- A scalar. Without a tag, a `plain` one gets its kind from its text, and any other is a
string. -/
def ofScalar (tag : Option Text) (text : WideText) (plain : Bool) : Node :=
  let kind :=
    match tag, plain with
    | some tag, _ => NodeKind.ofTag tag
    | none, true => NodeKind.ofText text.chars
    | none, false => .str
  ⟨kind, .scalar text⟩

/-- A sequence. -/
def ofItems (tag : Option Text) (items : List Nat) : Node :=
  ⟨(tag.map NodeKind.ofTag).getD .sequence, .sequence items⟩

/-- A mapping. -/
def ofEntries (tag : Option Text) (entries : List (Nat × Nat)) : Node :=
  ⟨(tag.map NodeKind.ofTag).getD .mapping, .mapping entries⟩

end Node

/-- **A document**: a table of nodes, the root among them, and how many aliases it has. -/
structure Document where
  nodes : Array Node
  root : Nat
  aliases : Nat
deriving Repr, Inhabited

/-- **The state of reading nodes**: the tokens that remain and the fault after them, what each tag
handle stands for, the nodes so far, the number that each anchor names, and the number of
aliases. -/
structure NodeState where
  tokens : List Token
  fault : Option Rejection
  handles : List (Text × Text) := []
  nodes : Array Node := #[]
  anchors : List (Text × Nat) := []
  aliases : Nat := 0

/-- Reading nodes, which may fail. -/
abbrev Build := StateT NodeState (Except Rejection)

/-- Rejects the document. -/
def refuse {α : Type} : Build α := throw .malformed

/-- The next token; none at the end. -/
def nextToken : Build (Option Token) := do
  let s ← get
  match s.tokens.head?, s.fault with
  | none, some fault => throw fault
  | next, _ => return next

/-- Passes over a token. -/
def skipToken : Build Unit := modify fun s => { s with tokens := s.tokens.tail }

/-- Takes a given token if it is next. -/
def takeToken (t : Token) : Build Bool := do
  if (← nextToken) = some t then
    skipToken
    return true
  else return false

/-- Takes a token, which must be next. -/
def expectToken (t : Token) : Build Unit := do
  if !(← takeToken t) then refuse

/-- Adds a node to the table. -/
def addNode (n : Node) : Build Nat := do
  let s ← get
  set { s with nodes := s.nodes.push n }
  return s.nodes.size

/-- Puts a node in the place of one in the table. -/
def setNode (id : Nat) (n : Node) : Build Unit :=
  modify fun s => { s with nodes := s.nodes.setIfInBounds id n }

/-- The node that follows, or the empty one if a token follows that ends it. -/
def nodeBefore (ends : List Token) (node : Build Nat) : Build Nat := do
  match ← nextToken with
  | some t => if ends.contains t then addNode .empty else node
  | none => node

/-- Takes an anchor, if there is one. -/
def takeAnchor : Build (Option Text) := do
  match ← nextToken with
  | some (.anchor name) => do skipToken; return some name
  | _ => return none

/-- Takes a tag, if there is one, with its handle replaced by what it stands for. -/
def takeTag : Build (Option Text) := do
  match ← nextToken with
  | some (.tag none rest) => do skipToken; return some rest
  | some (.tag (some handle) rest) =>
    skipToken
    match (← get).handles.lookup handle with
    | some start => return some (start ++ rest)
    | none => refuse
  | _ => return none

/-- Takes the tag and the anchor of a node, in any order. -/
def takeProperties : Build (Option Text × Option Text) := do
  match ← takeAnchor with
  | some name => return (← takeTag, some name)
  | none =>
    let tag ← takeTag
    return (tag, ← if tag.isSome then takeAnchor else pure none)

/-- Notes the name of an anchor, which must be new, for a node. -/
def noteAnchor (name : Option Text) (id : Nat) : Build Unit :=
  match name with
  | none => return ()
  | some name => do
    let s ← get
    if s.anchors.any (·.1 == name) then refuse
    set { s with anchors := (name, id) :: s.anchors }

/-- Where a node stands: inside a flow collection, in a block, or as the key or value of a block
mapping, where the entries of a sequence need no indentation of their own. -/
inductive NodePlace where
  | flow
  | block
  | blockEntry
deriving Repr, DecidableEq, Inhabited

variable [Platform]

mutual

/-- Reads a node, `depth` collections deep. -/
def node : (fuel depth : Nat) → NodePlace → Build Nat
  | 0, _, _ => refuse
  | fuel + 1, depth, place => do
    match ← nextToken with
    | some (.reference name) =>
      skipToken
      match (← get).anchors.lookup name with
      | some target => do
        modify fun s => { s with aliases := s.aliases + 1 }
        return target
      | none => refuse
    | _ =>
      let (tag, name) ← takeProperties
      content fuel depth place tag name

/-- Reads what follows the tag and the anchor of a node. -/
def content : (fuel depth : Nat) → NodePlace → (tag anchor : Option Text) → Build Nat
  | 0, _, _, _, _ => refuse
  | fuel + 1, depth, place, tag, anchor => do
    if Platform.yamlDepth < depth then throw (.broken .tooDeep)
    let kind := tag.filter (· ≠ ['!'])
    let next ← nextToken
    match next with
    | some (.scalar text plain) =>
      skipToken
      let id ← addNode (.ofScalar kind text (plain || tag == some ['!']))
      noteAnchor anchor id
      return id
    | _ =>
      -- the collection gets its number, and its anchor a node, before what is in it
      let id ← addNode .empty
      noteAnchor anchor id
      if next = some .blockEntry ∧ place = .blockEntry then
        setNode id (.ofItems kind (← looseItems fuel (depth + 1)))
      else if next = some .flowSequenceStart then
        skipToken
        setNode id (.ofItems kind (← flowItems fuel (depth + 1) true))
      else if next = some .flowMappingStart then
        skipToken
        setNode id (.ofEntries kind (← flowEntries fuel (depth + 1) true))
      else if next = some .blockSequenceStart ∧ place ≠ .flow then
        skipToken
        setNode id (.ofItems kind (← blockItems fuel (depth + 1)))
      else if next = some .blockMappingStart ∧ place ≠ .flow then
        skipToken
        setNode id (.ofEntries kind (← blockEntries fuel (depth + 1)))
      else if tag.isSome || anchor.isSome then setNode id (.ofScalar kind [] true)
      else refuse
      return id

/-- Reads the items of a block sequence and its end. -/
def blockItems : (fuel depth : Nat) → Build (List Nat)
  | 0, _ => refuse
  | fuel + 1, depth => do
    if ← takeToken .blockEntry then
      let item ← nodeBefore [.blockEntry, .blockEnd] (node fuel depth .block)
      return item :: (← blockItems fuel depth)
    else
      expectToken .blockEnd
      return []

/-- Reads the items of a block sequence that is not indented. -/
def looseItems : (fuel depth : Nat) → Build (List Nat)
  | 0, _ => refuse
  | fuel + 1, depth => do
    if ← takeToken .blockEntry then
      let item ← nodeBefore [.blockEntry, .key, .value, .blockEnd] (node fuel depth .block)
      return item :: (← looseItems fuel depth)
    else return []

/-- Reads the entries of a block mapping and its end. -/
def blockEntries : (fuel depth : Nat) → Build (List (Nat × Nat))
  | 0, _ => refuse
  | fuel + 1, depth => do
    let ends : List Token := [.key, .value, .blockEnd]
    if ← takeToken .key then
      let key ← nodeBefore ends (node fuel depth .blockEntry)
      let value ← if ← takeToken .value then nodeBefore ends (node fuel depth .blockEntry)
        else addNode .empty
      return (key, value) :: (← blockEntries fuel depth)
    else
      expectToken .blockEnd
      return []

/-- Reads the items of a flow sequence and its end. An item with a key is a mapping of one entry. -/
def flowItems : (fuel depth : Nat) → (first : Bool) → Build (List Nat)
  | 0, _, _ => refuse
  | fuel + 1, depth, first => do
    if ← takeToken .flowSequenceEnd then return []
    if !first then expectToken .flowEntry
    if ← takeToken .flowSequenceEnd then return []
    if ← takeToken .key then
      let id ← addNode .empty
      let key ← nodeBefore [.value, .flowEntry, .flowSequenceEnd] (node fuel (depth + 1) .flow)
      let value ← if ← takeToken .value then
          nodeBefore [.flowEntry, .flowSequenceEnd] (node fuel (depth + 1) .flow)
        else addNode .empty
      setNode id (.ofEntries none [(key, value)])
      return id :: (← flowItems fuel depth false)
    else
      let item ← node fuel depth .flow
      return item :: (← flowItems fuel depth false)

/-- Reads the entries of a flow mapping and its end. -/
def flowEntries : (fuel depth : Nat) → (first : Bool) → Build (List (Nat × Nat))
  | 0, _, _ => refuse
  | fuel + 1, depth, first => do
    if ← takeToken .flowMappingEnd then return []
    if !first then expectToken .flowEntry
    if ← takeToken .flowMappingEnd then return []
    if ← takeToken .key then
      let key ← nodeBefore [.value, .flowEntry, .flowMappingEnd] (node fuel depth .flow)
      let value ← if ← takeToken .value then
          nodeBefore [.flowEntry, .flowMappingEnd] (node fuel depth .flow)
        else addNode .empty
      return (key, value) :: (← flowEntries fuel depth false)
    else
      let key ← node fuel depth .flow
      let value ← addNode .empty
      return (key, value) :: (← flowEntries fuel depth false)

end

/-- Takes the directives of a document. The version must be 1, and nothing may be said twice. -/
def takeDirectives : (versioned : Bool) → List Token → Build Unit
  | versioned, .directive name words :: rest => do
    skipToken
    match words with
    | [a, b] =>
      if name = "YAML".toList then
        if versioned || decimalNumber a != 1 then refuse
        takeDirectives true rest
      else
        let s ← get
        if s.handles.any (·.1 == a) then refuse
        set { s with handles := (a, b) :: s.handles }
        takeDirectives versioned rest
    | _ => takeDirectives versioned rest
  | _, _ => return ()

/-- Whether a token ends a document. -/
def endsDocument : Option Token → Bool
  | none | some .documentStart | some .documentEnd | some (.directive _ _) => true
  | _ => false

/-- The handles that every document has. -/
def standardHandles : List (Text × Text) := [(['!'], ['!']), (['!', '!'], standardStart)]

/-- Reads the one document of a stream; an empty stream has the empty node. -/
def document (fuel : Nat) : Build Nat := do
  let first ← nextToken
  if first.isNone then addNode .empty
  else
    let isExplicit := endsDocument first && first != some .documentEnd
    if isExplicit then
      takeDirectives false (← get).tokens
      expectToken .documentStart
    modify fun s => { s with handles := s.handles ++ standardHandles }
    let isEmpty := isExplicit && endsDocument (← nextToken)
    let root ← if isEmpty then addNode .empty else node fuel 0 .block
    let s ← get
    if s.tokens.any (· != .documentEnd) then refuse
    match s.fault with
    | some fault => throw fault
    | none => return root

/-- The one document of a token stream, if it is well-formed. -/
def Document.ofTokens (stream : TokenStream) : Except Rejection Document := do
  let start : NodeState := { tokens := stream.tokens, fault := stream.fault }
  let (root, s) ← (document (4 * stream.tokens.length + 4)).run start
  return { nodes := s.nodes, root, aliases := s.aliases }

end Yaml

end ImportOrder
