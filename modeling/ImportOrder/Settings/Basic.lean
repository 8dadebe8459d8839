import ImportOrder.Group
import ImportOrder.Text.LineBreak

/-!
# Settings

How imports are grouped, sorted and written. Settings are put together from layers: a layer may
leave any setting open, and what a more specific layer sets wins. Group rules are replaced as a
whole, unless the more specific layer asks to extend them.

## Main definitions

* `quoteMarks`, `lineEndings`: the tables that styles are looked up in
* `Layer`: settings of which any may be open
* `Layer.merge`: one layer on top of another
* `Settings`: complete settings
* `Settings.override`: a layer on top of complete settings
* `Settings.quote?`, `Settings.eol?`: the styles that settings name
* `Settings.breaks`, `Settings.indent`, `Settings.gap`: the sizes that they ask for
* `Settings.resolve`: layers on top of the defaults
-/

namespace ImportOrder

/-- The quotes that settings can name. -/
def quoteMarks : List (String × Quote) := [("single", .single), ("double", .double)]

/-- The line endings that settings can name. -/
def lineEndings : List (String × Eol) := [("LF", .lf), ("CRLF", .crlf)]

/-- **A layer of settings**, of which any may be left open. What it sets is not checked: a style can
be any text and a size any integer. -/
structure Layer where
  groups : Option (List GroupRule) := none
  extendGroups : Option Bool := none
  sortBy : Option String := none
  caseSensitive : Option Bool := none
  sortNames : Option Bool := none
  typeOnlyLast : Option Bool := none
  emptyLinesBetweenGroups : Option Int := none
  mergeDuplicates : Option Bool := none
  quoteMark : Option String := none
  semicolon : Option String := none
  bracketSpacing : Option Bool := none
  trailingComma : Option String := none
  maxLineLength : Option Int := none
  tabSize : Option Int := none
  eol : Option String := none
  fileCommentGap : Option Int := none
  ignoreLintRules : Option (List WideText) := none
  exclude : Option (List WideText) := none
deriving Repr, DecidableEq, Inhabited

/-- The groups by default. They are tried in this order and come out by position, so that the group
for everything else can stand in the middle. -/
def defaultGroups : List GroupRule := [
  ⟨"builtin", ["builtin"], some 0⟩,
  ⟨"alias", ["alias"], some 2⟩,
  ⟨"relative", ["relative"], some 3⟩,
  ⟨"external", ["*"], some 1⟩]

/-- **Complete settings.** Whether groups extend others is a mark of the layer that set the groups
last, and may be open. -/
structure Settings where
  groups : List GroupRule := defaultGroups
  extendGroups : Option Bool := some false
  sortBy : String := "specifier"
  caseSensitive : Bool := true
  sortNames : Bool := true
  typeOnlyLast : Bool := true
  emptyLinesBetweenGroups : Int := 1
  mergeDuplicates : Bool := true
  quoteMark : String := "single"
  semicolon : String := "always"
  bracketSpacing : Bool := false
  trailingComma : String := "multiline"
  maxLineLength : Int := 80
  tabSize : Int := 2
  eol : String := "auto"
  fileCommentGap : Int := 1
  ignoreLintRules : List WideText := []
  exclude : List WideText := ["node_modules/**"]
deriving Repr, DecidableEq, Inhabited

namespace Layer

/-- The group rules and the extension mark of one layer on top of another. -/
def mergeGroups (base top : Layer) : Option (List GroupRule) × Option Bool :=
  match top.groups with
  | none => (base.groups, base.extendGroups)
  | some rules =>
    if top.extendGroups = some true then (some (base.groups.getD [] ++ rules), base.extendGroups)
    else (some rules, top.extendGroups)

/-- One layer on top of another. -/
def merge (base top : Layer) : Layer where
  groups := (mergeGroups base top).1
  extendGroups := (mergeGroups base top).2
  sortBy := top.sortBy.or base.sortBy
  caseSensitive := top.caseSensitive.or base.caseSensitive
  sortNames := top.sortNames.or base.sortNames
  typeOnlyLast := top.typeOnlyLast.or base.typeOnlyLast
  emptyLinesBetweenGroups := top.emptyLinesBetweenGroups.or base.emptyLinesBetweenGroups
  mergeDuplicates := top.mergeDuplicates.or base.mergeDuplicates
  quoteMark := top.quoteMark.or base.quoteMark
  semicolon := top.semicolon.or base.semicolon
  bracketSpacing := top.bracketSpacing.or base.bracketSpacing
  trailingComma := top.trailingComma.or base.trailingComma
  maxLineLength := top.maxLineLength.or base.maxLineLength
  tabSize := top.tabSize.or base.tabSize
  eol := top.eol.or base.eol
  fileCommentGap := top.fileCommentGap.or base.fileCommentGap
  ignoreLintRules := top.ignoreLintRules.or base.ignoreLintRules
  exclude := top.exclude.or base.exclude

end Layer

namespace Settings

/-- Complete settings as a layer. -/
def toLayer (s : Settings) : Layer where
  groups := some s.groups
  extendGroups := s.extendGroups
  sortBy := some s.sortBy
  caseSensitive := some s.caseSensitive
  sortNames := some s.sortNames
  typeOnlyLast := some s.typeOnlyLast
  emptyLinesBetweenGroups := some s.emptyLinesBetweenGroups
  mergeDuplicates := some s.mergeDuplicates
  quoteMark := some s.quoteMark
  semicolon := some s.semicolon
  bracketSpacing := some s.bracketSpacing
  trailingComma := some s.trailingComma
  maxLineLength := some s.maxLineLength
  tabSize := some s.tabSize
  eol := some s.eol
  fileCommentGap := some s.fileCommentGap
  ignoreLintRules := some s.ignoreLintRules
  exclude := some s.exclude

/-- A layer on top of complete settings. -/
def override (s : Settings) (top : Layer) : Settings where
  groups := (Layer.mergeGroups s.toLayer top).1.getD s.groups
  extendGroups := (Layer.mergeGroups s.toLayer top).2
  sortBy := top.sortBy.getD s.sortBy
  caseSensitive := top.caseSensitive.getD s.caseSensitive
  sortNames := top.sortNames.getD s.sortNames
  typeOnlyLast := top.typeOnlyLast.getD s.typeOnlyLast
  emptyLinesBetweenGroups := top.emptyLinesBetweenGroups.getD s.emptyLinesBetweenGroups
  mergeDuplicates := top.mergeDuplicates.getD s.mergeDuplicates
  quoteMark := top.quoteMark.getD s.quoteMark
  semicolon := top.semicolon.getD s.semicolon
  bracketSpacing := top.bracketSpacing.getD s.bracketSpacing
  trailingComma := top.trailingComma.getD s.trailingComma
  maxLineLength := top.maxLineLength.getD s.maxLineLength
  tabSize := top.tabSize.getD s.tabSize
  eol := top.eol.getD s.eol
  fileCommentGap := top.fileCommentGap.getD s.fileCommentGap
  ignoreLintRules := top.ignoreLintRules.getD s.ignoreLintRules
  exclude := top.exclude.getD s.exclude

theorem some_getD_eq_or {α : Type} (x : Option α) (y : α) : some (x.getD y) = x.or (some y) := by
  cases x <;> rfl

theorem some_mergeGroups_getD (s : Settings) (top : Layer) :
    some ((Layer.mergeGroups s.toLayer top).1.getD s.groups) =
      (Layer.mergeGroups s.toLayer top).1 := by
  unfold Layer.mergeGroups
  split
  · rfl
  · split <;> rfl

/-- Seen as layers, overriding is merging. -/
theorem toLayer_override (s : Settings) (top : Layer) :
    (s.override top).toLayer = s.toLayer.merge top := by
  rw [toLayer, override, Layer.merge]
  rw [some_mergeGroups_getD]
  simp only [some_getD_eq_or]
  rfl

/-- The quote that settings name for all strings, if they name one. -/
def quote? (s : Settings) : Option Quote := quoteMarks.lookup s.quoteMark

/-- Whether the quotes that settings ask for are known. -/
def knowsQuote (s : Settings) : Bool := s.quoteMark = "preserve" || s.quote?.isSome

/-- The line ending that settings name for all files, if they name one. -/
def eol? (s : Settings) : Option Eol := lineEndings.lookup s.eol

/-- Whether the line ending that settings ask for is known. -/
def knowsEol (s : Settings) : Bool := s.eol = "auto" || s.eol?.isSome

/-- The number of line endings between two groups. -/
def breaks (s : Settings) : Nat := (s.emptyLinesBetweenGroups + 1).toNat

/-- The number of blanks before a name on a line of its own. -/
def indent (s : Settings) : Nat := s.tabSize.toNat

/-- The number of blank lines after which a comment is one about the whole file. -/
def gap (s : Settings) : Nat := s.fileCommentGap.toNat

/-- Layers on top of given settings, the least specific first. -/
def overrideAll (s : Settings) (layers : List Layer) : Settings := layers.foldl override s

/-- The groups of some settings. -/
def builtGroups [Platform] (s : Settings) : Except SettingsError (List Group) :=
  Group.build s.groups

/-- Layers on top of the defaults, the least specific first. The groups must be sound. -/
def resolve [Platform] (layers : List Layer) : Except SettingsError Settings :=
  let s := ({} : Settings).overrideAll layers
  s.builtGroups.map fun _ => s

end Settings

end ImportOrder
