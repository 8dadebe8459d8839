import ImportOrder.Text.Basic

/-!
# Bindings and quotes

An import binds names: the default export of a module, its namespace, or single named exports.

## Main definitions

* `Binding`: one bound name
* `Binding.localName`: the name by which the importing file knows it
* `Quote`: the two quotes of string literals
-/

namespace ImportOrder

/-- **The quote** around a string literal. -/
inductive Quote where
  | single
  | double
deriving Repr, DecidableEq, Inhabited

namespace Quote

/-- The character of a quote. -/
def char : Quote → Char
  | single => '\x27'
  | double => '"'

/-- The quote that a character is. -/
def ofChar? (c : Char) : Option Quote :=
  if c = '\x27' then some single else if c = '"' then some double else none

@[simp] theorem ofChar?_char (q : Quote) : ofChar? q.char = some q := by cases q <;> rfl

end Quote

/-- What a binding imports: the default export, the whole namespace, or one named export. -/
inductive BindingKind where
  | defaultExport
  | namespaceObject
  | namedExport
deriving Repr, DecidableEq, Inhabited

/-- **One name bound by an import.** For a named binding `name` is the exported name, with its
quotes if it is a string, and `newName` the name it is renamed to. -/
structure Binding where
  kind : BindingKind
  name : Text
  newName : Option Text := none
  typeOnly : Bool := false
deriving Repr, DecidableEq, Inhabited

namespace Binding

/-- The new name of a renamed binding; an empty one does not count. -/
def rename? (b : Binding) : Option Text := b.newName.filter (!·.isEmpty)

/-- The name by which the importing file knows a binding. -/
def localName (b : Binding) : Text := b.rename?.getD b.name

end Binding

/-- The quote and the body of an exported name that is written as a string. -/
def stringName? (name : Text) : Option (Quote × Text) :=
  match name with
  | [] => none
  | c :: rest => (Quote.ofChar? c).map fun q => (q, rest.dropLast)

end ImportOrder
