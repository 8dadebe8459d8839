import ImportOrder.Yaml.Scalar
import ImportOrder.Yaml.Tag

/-!
# YAML token streams

The tokens of a whole text. What a character starts depends on whether a flow collection is open
and on the character after it. A text that cannot be cut into tokens to its end still has the tokens
before the fault, and what is wrong with these is found first.

## Main definitions

* `Yaml.fetch`: the token that starts with a given character
* `Yaml.TokenStream`: tokens and the fault that ends them
* `Yaml.scan`: the tokens of a text
-/

namespace ImportOrder

namespace Yaml

/-- Takes a directive or a document mark, which end all blocks. -/
def atTopLevel (token : Scan Token) : Scan Unit := do
  unwind (-1)
  dropKey
  allowKey false
  emit (← token)

/-- Takes a document mark. -/
def mark (t : Token) : Scan Token := do forward 3; return t

/-- Takes a token that may be a key. -/
def possibleKey (token : Scan Token) : Scan Unit := do
  noteKey
  allowKey false
  emit (← token)

/-- Takes the opening bracket of a flow collection. -/
def flowStart (t : Token) : Scan Unit := do
  noteKey
  modify fun s => { s with flowDepth := s.flowDepth + 1, keyAllowed := true }
  forward 1
  emit t

/-- Takes the closing bracket of a flow collection, which must be open. -/
def flowEnd (t : Token) : Scan Unit := do
  dropKey
  require ((← get).flowDepth ≠ 0)
  modify fun s => { s with flowDepth := s.flowDepth - 1, keyAllowed := false }
  forward 1
  emit t

/-- Takes a comma. -/
def flowEntry : Scan Unit := do
  allowKey true
  dropKey
  forward 1
  emit .flowEntry

/-- Opens a block collection for a mark, outside flow collections. -/
def blockMark (start : Token) : Scan Unit := do
  let s ← get
  if s.flowDepth = 0 then
    require s.keyAllowed
    if ← openBlock s.column then emit start

/-- Takes the mark of a block sequence entry. -/
def blockEntry : Scan Unit := do
  blockMark .blockSequenceStart
  allowKey true
  dropKey
  forward 1
  emit .blockEntry

/-- Takes the mark of a key. -/
def keyMark : Scan Unit := do
  blockMark .blockMappingStart
  allowKey ((← get).flowDepth = 0)
  dropKey
  forward 1
  emit .key

/-- Puts a token in at an earlier place. -/
def emitAt (index : Nat) (t : Token) : Scan Unit :=
  modify fun s =>
    let ts := s.tokens.toList
    { s with tokens := (ts.take index ++ t :: ts.drop index).toArray }

/-- Takes the colon of a value. The possible key before it is a key now. -/
def valueMark : Scan Unit := do
  let s ← get
  match s.possibleKeys.lookup s.flowDepth with
  | some k =>
    set { s with possibleKeys := s.possibleKeys.filter (·.1 != s.flowDepth) }
    emitAt k.tokenIndex .key
    if s.flowDepth = 0 then
      if ← openBlock k.column then emitAt k.tokenIndex .blockMappingStart
    allowKey false
  | none =>
    blockMark .blockMappingStart
    allowKey ((← get).flowDepth = 0)
    dropKey
  forward 1
  emit .value

/-- Takes the token that starts with a given character. -/
def fetch (c : Char) : Scan Unit := do
  let s ← get
  let next := s.rest.tail.head?
  let inFlow := s.flowDepth != 0
  if c == '%' && s.column == 0 then atTopLevel directive
  else if s.column == 0 && s.atMark "---" then atTopLevel (mark .documentStart)
  else if s.column == 0 && s.atMark "..." then atTopLevel (mark .documentEnd)
  else if c == '[' then flowStart .flowSequenceStart
  else if c == '\x7b' then flowStart .flowMappingStart
  else if c == ']' then flowEnd .flowSequenceEnd
  else if c == '\x7d' then flowEnd .flowMappingEnd
  else if c == ',' then flowEntry
  else if c == '-' && endsWord next then blockEntry
  else if c == '?' && (inFlow || endsWord next) then keyMark
  else if c == ':' && (inFlow || endsWord next) then valueMark
  else if c == '*' then possibleKey do return .reference (← anchorName)
  else if c == '&' then possibleKey do return .anchor (← anchorName)
  else if c == '!' then possibleKey tag
  else if (c == '|' || c == '>') && !inFlow then
    allowKey true
    dropKey
    emit (← blockScalar (c == '>'))
  else if c == '\x27' || c == '"' then possibleKey (quotedScalar (c == '"'))
  else
    require (startsPlain inFlow c next)
    possibleKey plainScalar

/-- Takes all tokens. -/
def fetchAll : (fuel : Nat) → Scan Unit
  | 0 => reject
  | fuel + 1 => do
    toNextToken (← room)
    dropStaleKeys
    unwind ((← get).column : Int)
    match ← peek 0 with
    | none =>
      unwind (-1)
      dropKey
    | some c =>
      fetch c
      fetchAll fuel

/-- The characters that a YAML text may hold. -/
def isAllowed (c : Char) : Bool :=
  let n := c.toNat
  n == 0x09 || n == 0x0a || n == 0x0d || (0x20 ≤ n && n ≤ 0x7e) || n == 0x85 ||
    (0xa0 ≤ n && n ≤ 0xd7ff) || (0xe000 ≤ n && n ≤ 0xfffd) || 0x10000 ≤ n

/-- **Tokens**, and the fault that ends them if there is one. -/
structure TokenStream where
  tokens : List Token
  fault : Option Rejection := none
deriving Repr, Inhabited

/-- The tokens that are certain before a fault: those before the first that may still turn out to be
a key. -/
def ScanState.certainTokens (s : ScanState) : List Token :=
  match (s.possibleKeys.map (·.2.tokenIndex)).min? with
  | some index => s.tokens.toList.take index
  | none => s.tokens.toList

/-- The tokens of a text. A byte order mark at the start is passed over. -/
def scan (t : Text) : TokenStream :=
  if t.all isAllowed then
    let start : ScanState := { rest := t }
    let start := if t.head? = some '\ufeff' then start.advance else start
    match (fetchAll (t.length + 1)).run.run start with
    | (.ok _, s) => { tokens := s.tokens.toList }
    | (.error fault, s) => { tokens := s.certainTokens, fault := some fault }
  else { tokens := [], fault := some .malformed }

end Yaml

end ImportOrder
