import ImportOrder.Data.Display
import ImportOrder.Journal
import ImportOrder.Settings.Basic

/-!
# Settings from lint rules

Lint rules about style say how imports are to be written, too. A rule that is switched off says
nothing, and rules can be ignored one by one or all together.

## Main definitions

* `LintRules`: rules by name
* `LintRules.options?`: the options of a rule that is on
* `LintRules.overrides`: the layer of settings that the rules ask for
* `Layer.remarkLint`: what such a layer sets, for the journal
-/

namespace ImportOrder

/-- **Lint rules**, each with a severity or a list of a severity and options. -/
abbrev LintRules := List (Scalar × Data)

/-- Whether a severity switches a rule off. -/
def isOff : Data → Bool
  | .scalar (.str s) => s == WideText.ofString "off"
  | .scalar s => s.isZero
  | _ => false

/-- The options of a rule with the given value, unless it is off. -/
def ruleOptions? (value : Data) : Option (List Data) :=
  match value with
  | .list (severity :: options) => if isOff severity then none else some options
  | severity => if isOff severity then none else some []

namespace LintRules

/-- The options of a rule that is on and not ignored. -/
def options? (rules : LintRules) (ignored : List WideText) (name : String) : Option (List Data) :=
  if ignored.contains (.ofString "*") || ignored.contains (.ofString name) then none
  else (Data.lookup? rules name).bind ruleOptions?

/-- Whether a value is the given text. -/
def isText (d : Option Data) (s : String) : Bool := (d.bind Data.str?) == some s

/-- The quotes that a rule asks for. -/
def quoteMark? (options : List Data) : Option String :=
  if options.isEmpty || isText options.head? "double" then some "double"
  else if isText options.head? "single" then some "single"
  else none

/-- The semicolons that a rule asks for. -/
def semicolon (options : List Data) : String :=
  if isText options.head? "never" then "never" else "always"

/-- The trailing commas that a rule asks for. -/
def trailingComma (options : List Data) : String :=
  let setting := match options.head? with
    | some (.map entries) => Data.lookup? entries "imports"
    | other => other
  if ["always", "always-multiline", "only-multiline"].any (isText setting) then "multiline"
  else "none"

/-- The line length that a rule asks for. -/
def maxLineLength? (options : List Data) : Option Int :=
  match options.head? with
  | none => some 80
  | some (.map entries) => (Data.lookup? entries "code").bind Data.int?
  | some d => d.int?

/-- The indentation that a rule asks for. -/
def tabSize? (options : List Data) : Option Int :=
  (options.head?.bind Data.int?).filter (0 < ·)

/-- The line ending that a rule asks for. -/
def eol (options : List Data) : String :=
  if isText options.head? "windows" then "CRLF" else "LF"

/-- Whether a rule makes capitals matter. -/
def caseSensitive? (options : List Data) : Option Bool :=
  ((options.head?.bind (·.field? "ignoreCase")).bind Data.bool?).map (!·)

/-- The layer of settings that lint rules ask for. -/
def overrides (rules : LintRules) (ignored : List WideText) : Layer where
  quoteMark := (rules.options? ignored "quotes").bind quoteMark?
  semicolon := (rules.options? ignored "semi").map semicolon
  trailingComma := (rules.options? ignored "comma-dangle").map trailingComma
  bracketSpacing := (rules.options? ignored "object-curly-spacing").map
    fun options => isText options.head? "always"
  maxLineLength := (rules.options? ignored "max-len").bind maxLineLength?
  tabSize := (rules.options? ignored "indent").bind tabSize?
  eol := (rules.options? ignored "linebreak-style").map eol
  caseSensitive := (rules.options? ignored "sort-imports").bind caseSensitive?

end LintRules

namespace Layer

/-- What a layer from lint rules sets. -/
def lintEntries (l : Layer) : List (Scalar × Data) :=
  let entry (key : String) (value : Option Data) : Option (Scalar × Data) :=
    value.map fun v => (.str (.ofString key), v)
  [entry "quote_mark" (l.quoteMark.map fun q => .str (.ofString q)),
    entry "semicolon" (l.semicolon.map fun q => .str (.ofString q)),
    entry "trailing_comma" (l.trailingComma.map fun q => .str (.ofString q)),
    entry "bracket_spacing" (l.bracketSpacing.map Data.bool),
    entry "max_line_length" (l.maxLineLength.map Data.int),
    entry "tab_size" (l.tabSize.map Data.int),
    entry "eol" (l.eol.map fun e => .str (.ofString e)),
    entry "case_sensitive" (l.caseSensitive.map Data.bool)].filterMap id

/-- Remarks on what a layer from lint rules sets, if it sets anything that can be shown. -/
def remarkLint [Platform] (l : Layer) : Journaled SettingsError Unit :=
  let set := Data.map l.lintEntries
  if l.lintEntries.isEmpty then pure ()
  else match set.displayFault? Platform.displayDepth with
    | some cause => Journaled.fail (.broken cause)
    | none => Journaled.debug s!"ESLint overrides: {set.display}"

end Layer

end ImportOrder
