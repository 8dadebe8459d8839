import ImportOrder.Binding

/-!
# Import statements

An import with the comments that move along with it.

## Main definitions

* `Statement`: an import statement
* `Statement.isSideEffect`: whether it binds nothing
-/

namespace ImportOrder

/-- **An import statement.** `raw` is the text it was read from; a statement made by merging has
none. `leadingComments` are lines above it, `trailingComment` stands behind it, and
`innerComments` tells that there are comments inside. -/
structure Statement where
  specifier : Text
  bindings : List Binding := []
  typeOnly : Bool := false
  leadingComments : List Text := []
  trailingComment : Option Text := none
  start : Nat := 0
  stop : Nat := 0
  raw : Option Text := none
  quote : Quote := .single
  attributes : Option Text := none
  hasSemicolon : Bool := true
  innerComments : Bool := false
  index : Nat := 0
deriving Repr, DecidableEq, Inhabited

namespace Statement

/-- Whether a statement binds nothing and only runs the module. -/
def isSideEffect (s : Statement) : Bool := s.bindings.isEmpty

end Statement

end ImportOrder
