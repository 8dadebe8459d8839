import ImportOrder.Failure
import ImportOrder.Path
import ImportOrder.StableSort

/-!
# File trees

The files and directories that a run can see, by their absolute paths, and the view of them from a
current directory. A path with double dots is walked component by component, so every directory on
the way has to exist.

## Main definitions

* `FileTree`: the files and directories
* `Workspace`: a file tree with a current directory
* `Workspace.locate`: the place that a path leads to
* `Workspace.readSource`: the text of a file

## Main results

* `FileTree.get?_write_self`, `FileTree.get?_write_of_ne`: what writing a file changes
-/

namespace ImportOrder

/-- The place of a file or directory: its components from the root directory on. -/
abbrev Place := List String

/-- **What stands at a place.** -/
inductive FileNode where
  | file (content : ByteArray)
  | directory
deriving Inhabited

/-- Whether two nodes are the same. -/
def FileNode.sameAs : FileNode → FileNode → Bool
  | file a, file b => a.data == b.data
  | directory, directory => true
  | _, _ => false

/-- **A file tree.** The root directory is always there. -/
structure FileTree where
  entries : List (Place × FileNode) := []
deriving Inhabited

namespace FileTree

/-- What stands at a place. -/
def get? (t : FileTree) (place : Place) : Option FileNode :=
  if place = [] then some .directory else t.entries.lookup place

/-- Whether a file stands at a place. -/
def isFile (t : FileTree) (place : Place) : Bool :=
  match t.get? place with
  | some (.file _) => true
  | _ => false

/-- Whether a directory stands at a place. -/
def isDirectory (t : FileTree) (place : Place) : Bool := t.get? place matches some .directory

/-- Sets what stands at a place. -/
def set (t : FileTree) (place : Place) (node : FileNode) : FileTree :=
  if t.entries.any (·.1 == place) then
    ⟨t.entries.map fun e => if e.1 == place then (place, node) else e⟩
  else ⟨t.entries ++ [(place, node)]⟩

/-- Adds the directories on the way to a place that are missing. -/
def addParents (t : FileTree) (place : Place) : FileTree :=
  (List.range (place.length - 1)).foldl (fun t n =>
    let dir := place.take (n + 1)
    if (t.get? dir).isSome then t else t.set dir .directory) t

/-- Puts a node at a place, with the directories on the way. -/
def add (t : FileTree) (place : Place) (node : FileNode) : FileTree :=
  (t.addParents place).set place node

/-- Writes the content of a file. -/
def write (t : FileTree) (place : Place) (content : ByteArray) : FileTree :=
  t.set place (.file content)

/-- Removes what stands at a place and below. -/
def remove (t : FileTree) (place : Place) : FileTree :=
  ⟨t.entries.filter fun e => !place.isPrefixOf e.1⟩

/-- The files with a content that they do not have in another tree. -/
def changedSince (t : FileTree) (before : FileTree) : List (Place × ByteArray) :=
  t.entries.filterMap fun e =>
    match e.2 with
    | .file content => if (before.get? e.1).any e.2.sameAs then none else some (e.1, content)
    | .directory => none

/-- The places below a directory, as seen from there. -/
def below (t : FileTree) (dir : Place) : List Place :=
  t.entries.filterMap fun e =>
    if dir.isPrefixOf e.1 && dir.length < e.1.length then some (e.1.drop dir.length) else none

/-- Looking up a place after setting another one. -/
theorem lookup_map_of_ne {es : List (Place × FileNode)} {p q : Place} {node : FileNode}
    (h : q ≠ p) :
    (es.map fun e => if e.1 == p then (p, node) else e).lookup q = es.lookup q := by
  induction es with
  | nil => rfl
  | cons e es ih =>
    obtain ⟨k, v⟩ := e
    by_cases hk : k = p
    · subst hk
      have hq : (q == k) = false := by simpa using h
      simp only [List.map_cons, beq_self_eq_true, if_true, List.lookup_cons, hq, ih]
    · have hk' : (k == p) = false := by simpa using hk
      simp only [List.map_cons, hk', Bool.false_eq_true, if_false, List.lookup_cons, ih]

/-- Looking up a place after setting it. -/
theorem lookup_map_self {es : List (Place × FileNode)} {p : Place} {node : FileNode}
    (h : es.any (·.1 == p) = true) :
    (es.map fun e => if e.1 == p then (p, node) else e).lookup p = some node := by
  induction es with
  | nil => simp at h
  | cons e es ih =>
    obtain ⟨k, v⟩ := e
    by_cases hk : k = p
    · subst hk
      simp
    · have hk' : (k == p) = false := by simpa using hk
      have hk'' : (p == k) = false := by simpa using Ne.symm hk
      simp only [List.any_cons, hk', Bool.false_or] at h
      simp only [List.map_cons, hk', Bool.false_eq_true, if_false, List.lookup_cons, hk'', ih h]

/-- Looking up a place among entries that do not have it. -/
theorem lookup_append_self {es : List (Place × FileNode)} {p : Place} {node : FileNode}
    (h : es.any (·.1 == p) = false) : (es ++ [(p, node)]).lookup p = some node := by
  induction es with
  | nil => simp
  | cons e es ih =>
    obtain ⟨k, v⟩ := e
    simp only [List.any_cons, Bool.or_eq_false_iff] at h
    have hk : (p == k) = false := by
      have := h.1
      simp only [beq_eq_false_iff_ne, ne_eq] at this ⊢
      exact fun e => this e.symm
    simp only [List.cons_append, List.lookup_cons, hk, ih h.2]

/-- Looking up a place is not affected by an entry for another one at the end. -/
theorem lookup_append_of_ne {es : List (Place × FileNode)} {p q : Place} {node : FileNode}
    (h : q ≠ p) : (es ++ [(p, node)]).lookup q = es.lookup q := by
  induction es with
  | nil =>
    have hq : (q == p) = false := by simpa using h
    simp [List.lookup_cons, hq]
  | cons e es ih =>
    obtain ⟨k, v⟩ := e
    simp only [List.cons_append, List.lookup_cons, ih]

/-- Setting a place other than the root directory is seen there. -/
theorem get?_set_self (t : FileTree) {p : Place} (node : FileNode) (h : p ≠ []) :
    (t.set p node).get? p = some node := by
  unfold get? set
  rw [if_neg h]
  split
  · rename_i ha
    exact lookup_map_self ha
  · rename_i ha
    exact lookup_append_self (Bool.eq_false_iff.2 ha)

/-- Setting a place changes nothing elsewhere. -/
theorem get?_set_of_ne (t : FileTree) {p q : Place} (node : FileNode) (h : q ≠ p) :
    (t.set p node).get? q = t.get? q := by
  unfold get? set
  split
  · rfl
  · split
    · exact lookup_map_of_ne h
    · exact lookup_append_of_ne h

/-- A file that was written has its new content. -/
theorem get?_write_self (t : FileTree) {p : Place} (content : ByteArray) (h : p ≠ []) :
    (t.write p content).get? p = some (.file content) := get?_set_self t _ h

/-- Writing a file changes no other. -/
theorem get?_write_of_ne (t : FileTree) {p q : Place} (content : ByteArray) (h : q ≠ p) :
    (t.write p content).get? q = t.get? q := get?_set_of_ne t _ h

end FileTree

/-- **A workspace**: a file tree seen from a current directory. -/
structure Workspace where
  tree : FileTree := {}
  current : Place := []
deriving Inhabited

namespace Workspace

/-- Walks from a place along components; each place that is left has to be a directory. -/
def walk (t : FileTree) : Place → List String → Except ReadFault Place
  | here, [] => .ok here
  | here, c :: rest =>
    match t.get? here with
    | none => .error .notFound
    | some (.file _) => .error .notDirectory
    | some .directory => walk t (if c = ".." then here.dropLast else here ++ [c]) rest

/-- The place that a path leads to; nothing has to stand there. -/
def locate (w : Workspace) (p : Path) : Except ReadFault Place :=
  walk w.tree (if p.absolute then [] else w.current) p.parts

/-- What a path leads to. -/
def find (w : Workspace) (p : Path) : Except ReadFault (Place × FileNode) := do
  let place ← w.locate p
  match w.tree.get? place with
  | some node => return (place, node)
  | none => throw .notFound

/-- Whether a path leads to a file. -/
def isFile (w : Workspace) (p : Path) : Bool :=
  match w.find p with
  | .ok (_, .file _) => true
  | _ => false

/-- The place of a path, by its components alone. -/
def resolve (w : Workspace) (p : Path) : Place := p.resolve w.current

/-- The text of a file as it stands there. -/
def readSource (w : Workspace) (p : Path) : Except ReadFault Text := do
  match ← w.find p with
  | (_, .directory) => throw .isDirectory
  | (_, .file content) =>
    match String.fromUTF8? content with
    | some s => return s.toList
    | none => throw .undecodable

/-- The workspace after a text is written to the file that a path leads to. -/
def writeSource (w : Workspace) (p : Path) (text : Text) : Workspace :=
  match w.locate p with
  | .ok place => { w with tree := w.tree.write place (String.ofList text).toUTF8 }
  | .error _ => w

/-- A directory and those around it, the innermost first. -/
def enclosing (dir : Place) : List Place := outward dir.reverse
where
  /-- Directories from their components in reverse. -/
  outward : List String → List Place
    | [] => [[]]
    | c :: cs => (c :: cs).reverse :: outward cs

/-- The directories around a file, the innermost first. -/
def directoriesOf (w : Workspace) (file : Path) : List Place :=
  enclosing (w.resolve file).dropLast

end Workspace

end ImportOrder
