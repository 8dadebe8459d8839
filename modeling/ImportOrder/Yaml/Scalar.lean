import ImportOrder.Number.Numeral
import ImportOrder.Yaml.Token

/-!
# YAML scalars

The three ways to write a scalar: as an indented block, between quotes, or plain. Line breaks inside
a scalar are folded: one is a space, and more are one less.

## Main definitions

* `Yaml.blockScalar`, `Yaml.quotedScalar`, `Yaml.plainScalar`: each of them, read from its mark on
-/

namespace ImportOrder

namespace Yaml

/-- The blank lines at the start of a block scalar and its indentation. -/
def blockIndentation : (fuel : Nat) → (deepest : Nat) → Scan (Text × Nat)
  | 0, deepest => return ([], deepest)
  | fuel + 1, deepest => do
    if (← peek 0) = some ' ' then
      forward 1
      blockIndentation fuel (max deepest (← get).column)
    else
      match ← lineBreak with
      | [] => return ([], deepest)
      | b =>
        let (breaks, deepest) ← blockIndentation fuel deepest
        return (b ++ breaks, deepest)

/-- Passes over the indentation of a line, up to a column. -/
def toColumn (column : Nat) : Scan Unit := do
  let s ← get
  forward (min (column - s.column) (s.rest.takeWhile (· == ' ')).length)

/-- The blank lines inside a block scalar. -/
def blockBreaks (column : Nat) : (fuel : Nat) → Scan Text
  | 0 => return []
  | fuel + 1 => do
    toColumn column
    match ← lineBreak with
    | [] => return []
    | b => return b ++ (← blockBreaks column fuel)

/-- What a block scalar keeps of its last line breaks. -/
inductive Chomping where
  | strip
  | clip
  | keep
deriving Repr, DecidableEq, Inhabited

/-- The lines of a block scalar from here on; `breaks` are the blank lines before. -/
def blockLines (folded : Bool) (chomping : Chomping) (column : Nat) :
    (fuel : Nat) → (breaks : Text) → Scan Text
  | 0, _ => return []
  | fuel + 1, breaks => do
    let here ← peek 0
    if (← get).column = column ∧ here.isSome then
      let isText (c : Option Char) : Bool := c != some ' ' && c != some '\t'
      let line ← takeWhile (!isBreak ·)
      let ending ← lineBreak
      let more ← blockBreaks column (← room)
      let next ← peek 0
      if (← get).column = column ∧ next.isSome then
        let joint :=
          if folded && ending == ['\n'] && isText here && isText next then
            if more.isEmpty then [' '] else []
          else ending
        return breaks ++ line ++ joint ++ (← blockLines folded chomping column fuel more)
      else
        let tail := match chomping with
          | .strip => []
          | .clip => ending
          | .keep => ending ++ more
        return breaks ++ line ++ tail
    else
      return if chomping = .keep then breaks else []

/-- Takes the sign that says what to keep of the last line breaks. -/
def chompingSign : Scan (Option Chomping) := do
  match ← peek 0 with
  | some '+' => do forward 1; return some .keep
  | some '-' => do forward 1; return some .strip
  | _ => return none

/-- Takes the digit that gives the indentation of a block scalar. -/
def indentationDigit : Scan (Option Nat) := do
  match ← peek 0 with
  | some c =>
    if isAsciiDigit c then
      require (c ≠ '0')
      forward 1
      return some (c.toNat - 48)
    else return none
  | none => return none

/-- Takes a block scalar. -/
def blockScalar (folded : Bool) : Scan Token := do
  forward 1
  let before ← chompingSign
  let increment ← indentationDigit
  let after ← if before.isSome then pure none else chompingSign
  require (endsField (← peek 0))
  restOfLine
  let chomping := (before.or after).getD .clip
  let least := max 1 ((← get).indent + 1).toNat
  let (breaks, column) ← match increment with
    | some n => do
      let column := least + n - 1
      pure (← blockBreaks column (← room), column)
    | none => do
      let (breaks, deepest) ← blockIndentation (← room) 0
      pure (breaks, max least deepest)
  return .scalar (← blockLines folded chomping column (← room) breaks).widen false

/-- The blank lines inside a quoted scalar; a document mark must not stand there. -/
def quotedBreaks : (fuel : Nat) → Scan Text
  | 0 => return []
  | fuel + 1 => do
    let s ← get
    require (!(s.atMark "---" || s.atMark "..."))
    let _ ← takeWhile fun c => c == ' ' || c == '\t'
    match ← lineBreak with
    | [] => return []
    | b => return b ++ (← quotedBreaks fuel)

/-- Takes spaces and line breaks inside a quoted scalar; one line break is a space, and more are
one less. -/
def quotedSpaces : Scan Text := do
  let blanks ← takeWhile fun c => c == ' ' || c == '\t'
  require (← peek 0).isSome
  match ← lineBreak with
  | [] => return blanks
  | b =>
    let breaks ← quotedBreaks (← room)
    return (if b != ['\n'] then b else if breaks.isEmpty then [' '] else []) ++ breaks

/-- The characters with an escape of one letter. -/
def escapedChar? : Char → Option Char
  | '0' => some '\x00'
  | 'a' => some '\x07'
  | 'b' => some '\x08'
  | 't' => some '\t'
  | '\t' => some '\t'
  | 'n' => some '\n'
  | 'v' => some '\x0b'
  | 'f' => some '\x0c'
  | 'r' => some '\r'
  | 'e' => some '\x1b'
  | ' ' => some ' '
  | '"' => some '"'
  | '\\' => some '\\'
  | '/' => some '/'
  | 'N' => some '\x85'
  | '_' => some '\xa0'
  | 'L' => some '\u2028'
  | 'P' => some '\u2029'
  | _ => none

/-- The number of hexadecimal digits of an escape by code point. -/
def escapeWidth? : Char → Option Nat
  | 'x' => some 2
  | 'u' => some 4
  | 'U' => some 8
  | _ => none

/-- The code point that an escape writes by its number. -/
def escapedPoint (n : Nat) : Scan CodePoint := do
  match CodePoint.ofNat? n with
  | some point => return point
  | none => throw (.broken (if n < 0x80000000 then .badCodePoint else .tooLarge))

/-- Takes an escape after its backslash. -/
def quotedEscape : Scan WideText := do
  match ← peek 0 with
  | none => reject
  | some c =>
    match escapedChar? c, escapeWidth? c with
    | some d, _ => do forward 1; return [.char d]
    | _, some width => do
      forward 1
      let ds := (← get).rest.take width
      require (ds.length = width)
      match hexNumber? ds with
      | none => reject
      | some n =>
        let point ← escapedPoint n
        forward width
        return [point]
    | _, _ =>
      require (isBreak c)
      let _ ← lineBreak
      return (← quotedBreaks (← room)).widen

/-- Takes a quoted scalar after its opening quote. -/
def quotedBody (double : Bool) : (fuel : Nat) → Scan WideText
  | 0 => reject
  | fuel + 1 => do
    match ← peek 0 with
    | none => reject
    | some c =>
      if c == ' ' || c == '\t' || isBreak c then
        let spaces ← quotedSpaces
        return spaces.widen ++ (← quotedBody double fuel)
      else if !double && c == '\x27' && (← peek 1) = some '\x27' then
        forward 2
        return .char c :: (← quotedBody double fuel)
      else if c == (if double then '"' else '\x27') then
        forward 1
        return []
      else if double && c == '\\' then
        forward 1
        let escape ← quotedEscape
        return escape ++ (← quotedBody double fuel)
      else
        forward 1
        return .char c :: (← quotedBody double fuel)

/-- Takes a quoted scalar. -/
def quotedScalar (double : Bool) : Scan Token := do
  forward 1
  return .scalar (← quotedBody double (← room)) false

/-- The length of the part of a plain scalar that starts here. -/
def plainLength (inFlow : Bool) : Text → Nat
  | [] => 0
  | c :: t =>
    let isFlowMark (d : Char) : Bool := ",[]\x7b\x7d".toList.contains d
    if c == ' ' || c == '\t' || isBreak c then 0
    else if c == ':' && (endsWord t.head? || (inFlow && (t.head?.map isFlowMark).getD false)) then 0
    else if inFlow && (isFlowMark c || c == '?') then 0
    else plainLength inFlow t + 1

/-- The blank lines inside a plain scalar; nothing if a document mark ends it. -/
def plainBreaks : (fuel : Nat) → Scan (Option Text)
  | 0 => return some []
  | fuel + 1 => do
    if (← peek 0) = some ' ' then
      forward 1
      plainBreaks fuel
    else
      match ← lineBreak with
      | [] => return some []
      | b =>
        let s ← get
        if s.atMark "---" || s.atMark "..." then return none
        return (← plainBreaks fuel).map (b ++ ·)

/-- Takes spaces and line breaks after a part of a plain scalar; nothing if the scalar ends. -/
def plainSpaces : Scan Text := do
  let blanks ← takeWhile (· == ' ')
  match ← lineBreak with
  | [] => return blanks
  | b =>
    allowKey true
    let s ← get
    if s.atMark "---" || s.atMark "..." then return []
    match ← plainBreaks (← room) with
    | none => return []
    | some breaks =>
      return (if b != ['\n'] then b else if breaks.isEmpty then [' '] else []) ++ breaks

/-- Takes the parts of a plain scalar; `spaces` stand before the next part. -/
def plainParts : (fuel : Nat) → (spaces : Text) → Scan Text
  | 0, _ => return []
  | fuel + 1, spaces => do
    let s ← get
    let n := if s.rest.head? = some '#' then 0 else plainLength (s.flowDepth != 0) s.rest
    if n = 0 then return []
    allowKey false
    let part := s.rest.take n
    forward n
    let after ← plainSpaces
    let t ← get
    if after.isEmpty || t.rest.head? = some '#' ||
        (t.flowDepth == 0 && (t.column : Int) < t.indent + 1) then
      return spaces ++ part
    return spaces ++ part ++ (← plainParts fuel after)

/-- Takes a plain scalar. -/
def plainScalar : Scan Token := do return .scalar (← plainParts (← room) []).widen true

/-- Whether a plain scalar may start with a character. -/
def startsPlain (inFlow : Bool) (c : Char) (next : Option Char) : Bool :=
  !(c == ' ' || c == '\t' || isBreak c ||
      "-?:,[]\x7b\x7d#&*!|>'\"%@\x60".toList.contains c) ||
    (!endsWord next && (c == '-' || (!inFlow && (c == '?' || c == ':'))))

end Yaml

end ImportOrder
