import ImportOrder.Failure
import ImportOrder.Order

/-!
# Writing imports

Statements are written anew from their parts, in the style that the settings ask for. A statement
with comments inside is kept as it is, and only if nothing about it would change.

## Main definitions

* `requote`: a string literal with other quotes
* `Text.times`: a text again and again
* `Statement.targetQuote`, `Statement.checkQuote`: the quote of strings, which is looked up
* `Statement.render`: the text of a statement
* `renderRegion`: the text of groups of statements with their comments
* `Text.splice`: a text with a stretch replaced
-/

namespace ImportOrder

/-- Texts beyond this length have no length that can be computed with. -/
def lengthLimit : Nat := 9223372036854775807

/-- The greatest length of a text that can be built. -/
def sizeLimit [Platform] : Nat := min lengthLimit Platform.memoryLimit

namespace Text

/-- A text `n` times. -/
def times (t : Text) (n : Nat) : Text := (List.replicate n t).flatten

/-- Makes sure that a text `n` times is not too long. -/
def checkTimes [Platform] (t : Text) (n : Nat) : Except Breakdown Unit :=
  if lengthLimit < t.length * n then .error .tooLarge
  else if Platform.memoryLimit < t.length * n then .error .outOfMemory
  else .ok ()

end Text

/-- The body of a string literal, made to fit another quote: the old quote loses its backslash
and the new quote gets one. Other escapes stay as they are. -/
def requoteBody (quote target : Char) : Text → Text
  | [] => []
  | '\\' :: c :: t =>
    if c = quote then c :: requoteBody quote target t else '\\' :: c :: requoteBody quote target t
  | c :: t =>
    if c = target then '\\' :: c :: requoteBody quote target t else c :: requoteBody quote target t

/-- The string literal with the given body, written between `quote`, now between `target`. -/
def requote (body : Text) (quote target : Quote) : Text :=
  let inner := if quote = target then body else requoteBody quote.char target.char body
  target.char :: inner ++ [target.char]

namespace Binding

/-- The text of a named binding. -/
def render (quote : Quote) (b : Binding) : Text :=
  let name := match stringName? b.name with
    | some (q, body) => requote body q quote
    | none => b.name
  let renamed := match b.rename? with
    | some new => name ++ " as ".toList ++ new
    | none => name
  if b.typeOnly then "type ".toList ++ renamed else renamed

end Binding

namespace Statement

/-- The quote of a statement's strings under some settings, which know it. -/
def targetQuote (s : Settings) (st : Statement) : Quote := s.quote?.getD st.quote

/-- Makes sure that settings know the quote of strings. -/
def checkQuote (s : Settings) : Except Breakdown Unit :=
  if s.knowsQuote then .ok () else .error .unknownStyle

/-- Whether a statement ends in a semicolon under some settings. -/
def endsInSemicolon (s : Settings) (st : Statement) : Bool :=
  s.semicolon = "always" || (s.semicolon = "preserve" && st.hasSemicolon)

/-- Whether the settings leave the quotes and the semicolon of a statement as they were read. -/
def keepsStyle (s : Settings) (st : Statement) : Bool :=
  targetQuote s st = st.quote && endsInSemicolon s st == st.hasSemicolon

/-- Whether the settings leave a statement as it was read. The quotes are looked up only if the
bindings stay in their order. -/
def isUnchanged (s : Settings) (st : Statement) : Except Breakdown Bool :=
  if sortBindings s st.bindings = st.bindings then do
    checkQuote s
    return keepsStyle s st
  else .ok false

/-- The words that open a statement. -/
def keyword (st : Statement) : Text :=
  if st.typeOnly then "import type".toList else "import".toList

/-- The module string, the attributes and the semicolon. -/
def source (s : Settings) (st : Statement) : Text :=
  let attributes := match st.attributes with
    | some (c :: t) => ' ' :: c :: t
    | _ => []
  requote st.specifier st.quote (targetQuote s st) ++ attributes ++
    (if endsInSemicolon s st then [';'] else [])

/-- The default and namespace bindings of a statement. -/
def renderHeads (s : Settings) (st : Statement) : List Text :=
  (sortBindings s st.bindings).filterMap fun b =>
    match b.kind with
    | .defaultExport => some b.name
    | .namespaceObject => some ("* as ".toList ++ b.name)
    | .namedExport => none

/-- The named bindings of a statement. -/
def renderNamed (s : Settings) (st : Statement) : List Text :=
  ((sortBindings s st.bindings).filter (·.kind = .namedExport)).map
    (Binding.render (targetQuote s st))

/-- A statement with the given list, if it is to have one. -/
def assemble (s : Settings) (st : Statement) (list : Option Text) : Text :=
  st.keyword ++ [' '] ++ Text.join ", ".toList (renderHeads s st ++ list.toList) ++
    " from ".toList ++ source s st

/-- An import list on one line. -/
def listOnLine (s : Settings) (names : List Text) : Text :=
  let space := if s.bracketSpacing then [' '] else []
  '\x7b' :: space ++ Text.join ", ".toList names ++ space ++ ['\x7d']

/-- An import list with one name on each line. -/
def listOverLines (s : Settings) (eol : Eol) (names : List Text) : Text :=
  let indent := Text.times [' '] s.indent
  let comma := if s.trailingComma = "multiline" then [','] else []
  '\x7b' :: eol.text ++ Text.join (',' :: eol.text) (names.map (indent ++ ·)) ++ comma ++
    eol.text ++ ['\x7d']

/-- A statement that binds something, on one line if it fits. -/
def renderBindings [Platform] (s : Settings) (eol : Eol) (st : Statement) : Except Breakdown Text :=
  let names := renderNamed s st
  if names.isEmpty then .ok (assemble s st none)
  else
    let line := assemble s st (some (listOnLine s names))
    if s.maxLineLength ≠ 0 ∧ s.maxLineLength < line.length then do
      Text.checkTimes [' '] s.indent
      return assemble s st (some (listOverLines s eol names))
    else .ok line

/-- A statement that binds nothing. -/
def renderBare (s : Settings) (st : Statement) : Text :=
  st.keyword ++ [' '] ++ (if st.typeOnly then "\x7b\x7d from ".toList else []) ++ source s st

/-- The text of a statement. -/
def render [Platform] (s : Settings) (eol : Eol) (st : Statement) : Except Failure Text :=
  if st.innerComments then
    match st.raw with
    | some raw => do
      if ← (isUnchanged s st).mapError .broken then return raw.withEol eol
      else throw (.unsupported (.changeAcrossComments st.specifier))
    | none => .error (.unsupported (.changeAcrossComments st.specifier))
  else do
    (checkQuote s).mapError .broken
    if st.isSideEffect then return renderBare s st
    else (renderBindings s eol st).mapError .broken

section

variable [Platform] {s : Settings} {st : Statement}

theorem render_of_unknown (hinner : st.innerComments = false) (hquote : s.knowsQuote = false)
    (eol : Eol) : st.render s eol = .error (.broken .unknownStyle) := by
  simp only [render, hinner, checkQuote, hquote, Bool.false_eq_true, if_false]
  rfl

theorem render_of_known (hinner : st.innerComments = false) (hquote : s.knowsQuote = true)
    (eol : Eol) : st.render s eol = if st.isSideEffect then .ok (renderBare s st)
      else (renderBindings s eol st).mapError .broken := by
  simp only [render, hinner, checkQuote, hquote, Bool.false_eq_true, if_false, if_true]
  rfl

theorem render_eq_ok (hinner : st.innerComments = false) {eol : Eol} {t : Text}
    (h : st.render s eol = .ok t) : s.knowsQuote = true ∧
      (if st.isSideEffect then .ok (renderBare s st)
        else (renderBindings s eol st).mapError Failure.broken) = .ok t := by
  cases hquote : s.knowsQuote with
  | false =>
    rw [render_of_unknown hinner hquote] at h
    cases h
  | true => exact ⟨rfl, render_of_known hinner hquote eol ▸ h⟩

omit [Platform] in
theorem isUnchanged_of_sorted (h : sortBindings s st.bindings = st.bindings) :
    isUnchanged s st = if s.knowsQuote then .ok (keepsStyle s st) else .error .unknownStyle := by
  rw [isUnchanged, if_pos h, checkQuote]
  cases s.knowsQuote <;> rfl

theorem render_of_inner (hinner : st.innerComments = true) {raw : Text} (hraw : st.raw = some raw)
    (eol : Eol) : st.render s eol = (do
      if ← (isUnchanged s st).mapError .broken then return raw.withEol eol
      else throw (.unsupported (.changeAcrossComments st.specifier))) := by
  rw [render, if_pos hinner, hraw]

/-- A statement with comments inside is written if the settings leave it as it was read. -/
theorem render_eq_ok_of_inner (hinner : st.innerComments = true) {eol : Eol} {t : Text}
    (h : st.render s eol = .ok t) : ∃ raw, st.raw = some raw ∧ t = raw.withEol eol ∧
      sortBindings s st.bindings = st.bindings ∧ keepsStyle s st = true := by
  cases hraw : st.raw with
  | none =>
    rw [render, if_pos hinner, hraw] at h
    cases h
  | some raw =>
    rw [render_of_inner hinner hraw] at h
    by_cases hsorted : sortBindings s st.bindings = st.bindings
    · rw [isUnchanged_of_sorted hsorted] at h
      cases hquote : s.knowsQuote with
      | false =>
        rw [hquote] at h
        cases h
      | true =>
        cases hkept : keepsStyle s st with
        | false =>
          rw [hquote, hkept] at h
          cases h
        | true =>
          rw [hquote, hkept] at h
          exact ⟨raw, rfl, (Except.ok.inj h).symm, hsorted, rfl⟩
    · rw [isUnchanged, if_neg hsorted] at h
      cases h

end

/-- The lines of a statement: its leading comments, and then the statement with its trailing
comment. -/
def renderLines [Platform] (s : Settings) (eol : Eol) (st : Statement) :
    Except Failure (List Text) := do
  let text ← render s eol st
  let trailing := match st.trailingComment with
    | some (c :: t) => ' ' :: Text.withEol eol (c :: t)
    | _ => []
  return st.leadingComments.map (Text.withEol eol) ++ [text ++ trailing]

end Statement

/-- The lines of a group of statements. -/
def renderGroup [Platform] (s : Settings) (eol : Eol) (group : List Statement) :
    Except Failure (List Text) := do
  return (← group.mapM (Statement.renderLines s eol)).flatten

/-- Blocks of lines with `n` line endings between them. Nothing is built where there is nothing to
separate. -/
def joinBlocks (eol : Eol) (n : Nat) : List Text → Text
  | [] => []
  | [block] => block
  | blocks => Text.join (eol.text.times n) blocks

@[simp] theorem joinBlocks_eq_join (eol : Eol) (n : Nat) (blocks : List Text) :
    joinBlocks eol n blocks = Text.join (eol.text.times n) blocks := by
  unfold joinBlocks
  split <;> simp

/-- The text of groups of statements, with blank lines between the groups. -/
def renderRegion [Platform] (s : Settings) (eol : Eol) (groups : List (List Statement)) :
    Except Failure Text := do
  let blocks ← groups.mapM (renderGroup s eol)
  (eol.text.checkTimes s.breaks).mapError .broken
  return joinBlocks eol s.breaks (blocks.map (Text.join eol.text))

namespace Text

/-- The text with a stretch replaced. -/
def splice (t : Text) (region : Span) (replacement : Text) : Text :=
  t.take region.start ++ replacement ++ t.drop region.stop

end Text

end ImportOrder
