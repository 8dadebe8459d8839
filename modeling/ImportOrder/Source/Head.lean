import ImportOrder.Binding
import ImportOrder.Path
import ImportOrder.Source.Token

/-!
# The head of a module

The part of a source file that matters here is its head: an optional first line that names an
interpreter, the directives, and the static imports. What follows is code.

## Main definitions

* `Dialect`, `Dialect.ofPath?`: the language of a file, by the ending of its name
* `ImportDecl`: an import declaration with its place in the source
* `Head`: the directives, imports and comments of a source, and where code starts
-/

namespace ImportOrder

/-- **The language of a source file.** -/
structure Dialect where
  typescript : Bool := false
  jsx : Bool := false
deriving Repr, DecidableEq, Inhabited

namespace Dialect

/-- Endings of files with type annotations. -/
def typescriptEndings : List String := [".ts", ".tsx", ".mts", ".cts"]

/-- Endings of files without type annotations. -/
def javascriptEndings : List String := [".js", ".jsx", ".mjs", ".cjs"]

/-- The language that the ending of a file name stands for; capitals do not matter. -/
def ofEnding? (ending : String) : Option Dialect :=
  let e := String.ofList (ending.toList.map Char.toLower)
  if e ∈ typescriptEndings ∨ e ∈ javascriptEndings then
    some ⟨e ∈ typescriptEndings, e = ".jsx" ∨ e = ".tsx"⟩
  else none

/-- The language of a file, by its name. -/
def ofPath? (p : Path) : Option Dialect := ofEnding? p.suffix

end Dialect

/-- **A stretch of source** between two offsets. -/
structure Span where
  start : Nat
  stop : Nat
deriving Repr, DecidableEq, Inhabited

/-- **An import declaration.** The specifier is the module string without its quotes; the span
includes the semicolon, if there is one. -/
structure ImportDecl where
  span : Span
  specifier : Text
  quote : Quote
  bindings : List Binding := []
  typeOnly : Bool := false
  attributes : Option Text := none
  hasSemicolon : Bool := false
deriving Repr, DecidableEq, Inhabited

/-- **The head of a source file.** -/
structure Head where
  source : Text
  dialect : Dialect
  shebangEnd : Nat
  directives : List Span
  imports : List ImportDecl
  comments : List Comment
  codeStart : Option Nat
deriving Repr, DecidableEq, Inhabited

/-- What a token was required to be. -/
inductive Wanted where
  | text (s : String)
  | name
  | string
deriving Repr, DecidableEq, Inhabited

/-- **Why the imports of a source cannot be read.** -/
inductive SyntaxError where
  | unterminated (offset : Nat)
  | expected (wanted : Wanted) (found : Token)
  | unexpectedInList (found : Token)
  | stringNeedsAlias (offset : Nat)
  | importEquals (offset : Nat)
  | unexpected (found : Token)
  | expectedClause (found : Token)
  | unterminatedAttributes (offset : Nat)
  | unexpectedAfterImport (found : Token)
deriving Repr, DecidableEq, Inhabited

end ImportOrder
