import ImportOrder.Breakdown
import ImportOrder.Text.CodePoint
import ImportOrder.Text.WordChar

/-!
# YAML tokens

A YAML text is first cut into tokens. Indentation becomes explicit: a block collection has a token
where it starts and one where it ends. A key that is written without a mark is known as a key only
when its colon comes, and its token is put in then at the place where the key began.

## Main definitions

* `Yaml.Token`: the tokens
* `Yaml.ScanState`: the state of cutting a text into tokens
* `Yaml.noteKey`, `Yaml.dropKey`: the keys that may turn out to be keys
* `Yaml.openBlock`, `Yaml.unwind`: the start and end of blocks by indentation
-/

namespace ImportOrder

namespace Yaml

/-- **A YAML token.** -/
inductive Token where
  | directive (name : Text) (words : List Text)
  | documentStart
  | documentEnd
  | blockSequenceStart
  | blockMappingStart
  | blockEnd
  | flowSequenceStart
  | flowSequenceEnd
  | flowMappingStart
  | flowMappingEnd
  | key
  | value
  | blockEntry
  | flowEntry
  | reference (name : Text)
  | anchor (name : Text)
  | tag (handle : Option Text) (rest : Text)
  | scalar (text : WideText) (plain : Bool)
deriving Repr, DecidableEq, Inhabited

/-- **A possible key**: the place of its first token, and whether it must turn out to be one. -/
structure PossibleKey where
  tokenIndex : Nat
  isRequired : Bool
  offset : Nat
  line : Nat
  column : Nat
deriving Repr, DecidableEq, Inhabited

/-- **The state of scanning**: what remains and where it is, the indentation of the open blocks,
the depth of flow collections, the possible keys by that depth, and the tokens so far. -/
structure ScanState where
  rest : Text
  offset : Nat := 0
  line : Nat := 0
  column : Nat := 0
  flowDepth : Nat := 0
  indent : Int := -1
  indents : List Int := []
  keyAllowed : Bool := true
  possibleKeys : List (Nat × PossibleKey) := []
  tokens : Array Token := #[]
deriving Inhabited

/-- Scanning, which may fail; the tokens up to the failure are kept. -/
abbrev Scan := ExceptT Rejection (StateM ScanState)

/-- The characters that break a line. -/
def isBreak (c : Char) : Bool :=
  c == '\r' || c == '\n' || c == '\x85' || c == '\u2028' || c == '\u2029'

/-- Whether a place is the end of the text, a space, a tab or a line break. -/
def endsWord (c : Option Char) : Bool :=
  match c with
  | none => true
  | some c => c == ' ' || c == '\t' || isBreak c

/-- Whether a place is the end of the text, a space or a line break. -/
def endsField (c : Option Char) : Bool :=
  match c with
  | none => true
  | some c => c == ' ' || isBreak c

/-- Whether a place is the end of the text or a line break. -/
def endsLine (c : Option Char) : Bool :=
  match c with
  | none => true
  | some c => isBreak c

/-- The characters of names of anchors and handles. -/
def isNameChar (c : Char) : Bool := isAsciiLetter c || isAsciiDigit c || c == '-' || c == '_'

namespace ScanState

/-- The state after one character. -/
def advance (s : ScanState) : ScanState :=
  match s.rest with
  | [] => s
  | c :: rest =>
    let next := { s with rest, offset := s.offset + 1 }
    if (isBreak c && c != '\r') || (c == '\r' && rest.head? != some '\n') then
      { next with line := s.line + 1, column := 0 }
    else if c == '\ufeff' then next
    else { next with column := s.column + 1 }

/-- The state after `n` characters. -/
def advanceBy : (n : Nat) → ScanState → ScanState
  | 0, s => s
  | n + 1, s => advanceBy n s.advance

/-- Whether a document mark stands here: three given characters and the end of a word. -/
def atMark (s : ScanState) (mark : String) : Bool :=
  mark.toList.isPrefixOf s.rest && endsWord (s.rest.drop 3).head?

end ScanState

/-- Rejects the text. -/
def reject {α : Type} : Scan α := throw .malformed

/-- Rejects the text unless a condition holds. -/
def require (ok : Bool) : Scan Unit := if ok then pure () else reject

/-- The character `n` places ahead. -/
def peek (n : Nat) : Scan (Option Char) := do return ((← get).rest.drop n).head?

/-- Passes over `n` characters. -/
def forward (n : Nat) : Scan Unit := modify (ScanState.advanceBy n)

/-- Takes characters from a class as long as there are any. -/
def takeWhile (ok : Char → Bool) : Scan Text := do
  let taken := (← get).rest.takeWhile ok
  forward taken.length
  return taken

/-- Takes a line break, if there is one, as it counts in a scalar. -/
def lineBreak : Scan Text := do
  match (← get).rest with
  | '\r' :: '\n' :: _ => do forward 2; return ['\n']
  | c :: _ =>
    if c == '\u2028' || c == '\u2029' then do forward 1; return [c]
    else if isBreak c then do forward 1; return ['\n']
    else return []
  | [] => return []

/-- Adds a token. -/
def emit (t : Token) : Scan Unit := modify fun s => { s with tokens := s.tokens.push t }

/-- Room for every loop over the rest of the text. -/
def room : Scan Nat := do return (← get).rest.length + 1

/-- Passes over the rest of a line, which may hold a comment only. -/
def restOfLine : Scan Unit := do
  let _ ← takeWhile (· == ' ')
  if (← peek 0) = some '#' then
    let _ ← takeWhile (!isBreak ·)
  require (endsLine (← peek 0))
  let _ ← lineBreak

/-! ## Keys and indentation -/

/-- Passes over spaces, comments and line breaks. -/
def toNextToken : (fuel : Nat) → Scan Unit
  | 0 => return ()
  | fuel + 1 => do
    let _ ← takeWhile (· == ' ')
    if (← peek 0) = some '#' then
      let _ ← takeWhile (!isBreak ·)
    if (← lineBreak).isEmpty then return ()
    modify fun s => if s.flowDepth = 0 then { s with keyAllowed := true } else s
    toNextToken fuel

/-- Forgets possible keys that a line break or too much text separates from here; a required key
must not be among them. -/
def dropStaleKeys : Scan Unit := do
  let s ← get
  let isStale (k : PossibleKey) : Bool := k.line != s.line || 1024 < s.offset - k.offset
  require (s.possibleKeys.all fun e => !(isStale e.2 && e.2.isRequired))
  set { s with possibleKeys := s.possibleKeys.filter (!isStale ·.2) }

/-- Forgets the possible key at the present depth; it must not be required. -/
def dropKey : Scan Unit := do
  let s ← get
  require (s.possibleKeys.all fun e => !(e.1 == s.flowDepth && e.2.isRequired))
  set { s with possibleKeys := s.possibleKeys.filter (·.1 != s.flowDepth) }

/-- Notes that a key may start here. -/
def noteKey : Scan Unit := do
  let s ← get
  if s.keyAllowed then
    dropKey
    modify fun s =>
      let key : PossibleKey :=
        ⟨s.tokens.size, s.flowDepth == 0 && s.indent == s.column, s.offset, s.line, s.column⟩
      { s with possibleKeys := (s.flowDepth, key) :: s.possibleKeys }

/-- Closes the blocks that are indented deeper than a column. -/
def closeBlocks (s : ScanState) (column : Int) : List Int → ScanState
  | [] => s
  | outer :: indents =>
    if s.indent ≤ column then s
    else
      closeBlocks { s with indent := outer, indents, tokens := s.tokens.push .blockEnd } column
        indents

/-- Closes the blocks that are indented deeper than a column, outside flow collections. -/
def unwind (column : Int) : Scan Unit :=
  modify fun s => if s.flowDepth = 0 then closeBlocks s column s.indents else s

/-- Opens a block at a column if it is indented deeper than the open ones. -/
def openBlock (column : Nat) : Scan Bool := do
  let s ← get
  if s.indent < column then
    set { s with indents := s.indent :: s.indents, indent := (column : Int) }
    return true
  else return false

/-- Sets whether a key may start at the next token. -/
def allowKey (allowed : Bool) : Scan Unit := modify fun s => { s with keyAllowed := allowed }

end Yaml

end ImportOrder
