import ImportOrder.Breakdown
import ImportOrder.Number.Numeral
import ImportOrder.Platform.Basic
import ImportOrder.Regex.Basic
import ImportOrder.Text.CodePoint
import ImportOrder.Text.Identifier

/-!
# Reading regular expressions

The written form of an expression is first cut into characters and escaped characters, and then read
by recursive descent. An expression that breaks a rule of the notation is rejected as a whole: an
unbalanced parenthesis, a repetition of nothing or of a repetition, an unknown escape or option, a
reference to a group that is not there yet, a range the wrong way round, a look back of no fixed
length. Numbers beyond all bounds and options that exclude each other are breakdowns; the first
fault in the order of reading is the one that counts.

## Main definitions

* `Regex.parse`: the expression that a text writes
-/

namespace ImportOrder

/-- A character of the written form of an expression, alone or behind a backslash. A half of a
surrogate pair stands for itself either way. A backslash at the end escapes nothing. -/
inductive RegexToken where
  | plain (c : Char)
  | escaped (c : Char)
  | half (escaped : Bool) (unit : Fin 0x800)
  | dangling
deriving Repr, DecidableEq, Inhabited

namespace RegexToken

/-- The tokens of a text. -/
def scan : WideText → List RegexToken
  | [] => []
  | .char '\\' :: [] => [dangling]
  | .char '\\' :: .char c :: t => escaped c :: scan t
  | .char '\\' :: .half unit :: t => half true unit :: scan t
  | .char c :: t => plain c :: scan t
  | .half unit :: t => half false unit :: scan t

/-- The characters of a token, if they are characters. -/
def text? : RegexToken → Option Text
  | plain c => some [c]
  | escaped c => some ['\\', c]
  | half _ _ | dangling => none

end RegexToken

/-- **The state of reading an expression**: the tokens that remain, the options in force, the
groups so far with their widths once they are closed, the conditions on groups by number, and what
is wrong with the expression as a whole. -/
structure RegexReadState where
  tokens : List RegexToken
  flags : RegexFlags := {}
  unicodeAsked : Bool := false
  repeatsForbidden : Bool := false
  depth : Nat := 0
  groupCount : Nat := 1
  names : List (Text × Nat) := []
  closed : List (Nat × MatchWidth) := []
  lookBehindFrom : Option Nat := none
  conditions : List Nat := []
  unfixedLookBehind : Bool := false
  hasRepeats : Bool := false
deriving Inhabited

/-- Reading an expression, which may fail. -/
abbrev RegexReader := StateT RegexReadState (Except Rejection)

namespace RegexReader

variable [Platform]

/-- Rejects the expression. -/
def reject {α : Type} : RegexReader α := throw .malformed

/-- Rejects the expression unless a condition holds. -/
def require (ok : Bool) : RegexReader Unit := if ok then pure () else reject

/-- Gives up reading the expression. -/
def breakDown {α : Type} (cause : Breakdown) : RegexReader α := throw (.broken cause)

/-- The next token, which stays. -/
def peek : RegexReader (Option RegexToken) := do return (← get).tokens.head?

/-- Goes on with the given tokens. No backslash may dangle where reading goes on. -/
def goTo (tokens : List RegexToken) : RegexReader Unit := do
  require (tokens.head? ≠ some .dangling)
  modify fun s => { s with tokens }

/-- The next token, which is taken. -/
def take : RegexReader (Option RegexToken) := do
  let tokens := (← get).tokens
  goTo tokens.tail
  return tokens.head?

/-- Takes a character if it comes next. -/
def accept (c : Char) : RegexReader Bool := do
  if (← peek) = some (.plain c) then
    let _ ← take
    return true
  else return false

/-- Takes characters from a class, as many as there are and at most `limit`. -/
def takeWhile (ok : Char → Bool) : (limit : Nat) → RegexReader Text
  | 0 => return []
  | limit + 1 => do
    match ← peek with
    | some (.plain c) =>
      if ok c then
        let _ ← take
        return c :: (← takeWhile ok limit)
      else return []
    | _ => return []

/-- Takes all tokens up to a character that must come, and the character; there must be some, and
they must be characters. -/
def takeUntil (stop : Char) : RegexReader Text := do
  let tokens := (← get).tokens
  let name := tokens.takeWhile (· ≠ .plain stop)
  match tokens.drop name.length with
  | [] => reject
  | _ :: rest =>
    require (!name.isEmpty)
    goTo rest
    match name.mapM RegexToken.text? with
    | some parts => return parts.flatten
    | none => reject

/-- The set of one character under the options in force. -/
def literal (n : Nat) : RegexReader Regex := do
  let f := (← get).flags
  return .set ⟨false, [.range n n], f.ignoreCase, f.ascii⟩

/-- The set of a category under the options in force. -/
def category (k : CharCategory) (negated : Bool) : RegexReader Regex := do
  let f := (← get).flags
  return .set ⟨false, [.category k negated], f.ignoreCase, f.ascii⟩

/-- Octal digits. -/
def isOctal (c : Char) : Bool := '0' ≤ c && c ≤ '7'

/-- The number that octal digits write. -/
def octalNumber (ds : Text) : Nat := ds.foldl (fun acc c => 8 * acc + (c.toNat - 48)) 0

/-- The control characters with an escape of one letter. -/
def controlEscape? : Char → Option Nat
  | 'a' => some 7
  | 'b' => some 8
  | 'f' => some 12
  | 'n' => some 10
  | 'r' => some 13
  | 't' => some 9
  | 'v' => some 11
  | '\\' => some 92
  | _ => none

/-- The categories with an escape of one letter. -/
def categoryEscape? : Char → Option (CharCategory × Bool)
  | 'd' => some (.digit, false)
  | 'D' => some (.digit, true)
  | 's' => some (.space, false)
  | 'S' => some (.space, true)
  | 'w' => some (.word, false)
  | 'W' => some (.word, true)
  | _ => none

/-- Numbers from here on are too large for the code of a character, and break reading down. -/
def codeLimit : Nat := 0x80000000

/-- Reads the hexadecimal digits of an escape that names a code point. -/
def codePoint (digits : Nat) : RegexReader Nat := do
  let ds ← takeWhile (hexValue? · |>.isSome) digits
  require (ds.length == digits)
  let n := (hexNumber? ds).getD 0
  if codeLimit ≤ n then breakDown .tooLarge
  require (n ≤ 0x10ffff)
  return n

/-- Reads the name of a character between braces. -/
def namedCharacter : RegexReader Nat := do
  require (← accept '\x7b')
  match Platform.characterNamed? (← takeUntil '\x7d') with
  | some n => return n
  | none => reject

/-- Reads the rest of an escape that stands for a character, in a set and outside. -/
def characterEscape (c : Char) : RegexReader Nat := do
  if c = 'x' then codePoint 2
  else if c = 'u' then codePoint 4
  else if c = 'U' then codePoint 8
  else if c = 'N' then namedCharacter
  else
    require (!isAsciiLetter c && !isAsciiDigit c)
    return c.toNat

/-- Whether a group is closed, so that it can be referred to. -/
def isClosed (s : RegexReadState) (i : Nat) : Bool := s.closed.any (·.1 == i)

/-- Checks a reference to a group from inside a look back: the group must be closed and lie
outside. -/
def checkLookBehind (i : Nat) : RegexReader Unit := do
  let s ← get
  match s.lookBehindFrom with
  | none => return ()
  | some n => require (isClosed s i && i < n)

/-- A reference to a closed group. -/
def reference (i : Nat) : RegexReader Regex := do
  let s ← get
  require (i < s.groupCount && isClosed s i)
  checkLookBehind i
  return .backreference i s.flags.ignoreCase s.flags.ascii

/-- Reads the rest of an escape that starts with a digit other than zero: three octal digits are a
character, and anything else is the number of a group. -/
def numericEscape (c : Char) : RegexReader Regex := do
  match ← takeWhile isAsciiDigit 1 with
  | [d] =>
    let third ← if isOctal c && isOctal d then takeWhile isOctal 1 else pure []
    match third with
    | [e] =>
      let n := octalNumber [c, d, e]
      require (n ≤ 0o377)
      literal n
    | _ => reference (decimalNumber [c, d])
  | _ => reference (decimalNumber [c])

/-- Reads the rest of an escape outside a set. -/
def escape (c : Char) : RegexReader Regex := do
  let ascii := (← get).flags.ascii
  match categoryEscape? c with
  | some (k, negated) => category k negated
  | none =>
    match c with
    | 'A' => return .anchor .textStart
    | 'Z' => return .anchor .textEnd
    | 'b' => return .anchor (.wordBoundary ascii)
    | 'B' => return .anchor (.insideWord ascii)
    | '0' => do literal (octalNumber (← takeWhile isOctal 2))
    | c =>
      match controlEscape? c with
      | some n => literal n
      | none =>
        if isAsciiDigit c then numericEscape c
        else do literal (← characterEscape c)

/-- Reads the rest of an escape inside a set. -/
def setEscape (c : Char) : RegexReader CharSetItem := do
  match controlEscape? c, categoryEscape? c with
  | some n, _ => return .range n n
  | _, some (k, negated) => return .category k negated
  | none, none =>
    if isOctal c then
      let n := octalNumber (c :: (← takeWhile isOctal 2))
      require (n ≤ 0o377)
      return .range n n
    else
      let n ← characterEscape c
      return .range n n

/-- Reads one end of a range, or a whole member of a set. -/
def setMember : RegexToken → RegexReader CharSetItem
  | .plain c => return .range c.toNat c.toNat
  | .escaped c => setEscape c
  | .half _ unit => return .range (CodePoint.half unit).toNat (CodePoint.half unit).toNat
  | .dangling => reject

/-- Reads the members of a set up to the closing bracket, with room for `fuel` members. A bracket
at the start is a member. -/
def setItems : (fuel : Nat) → List CharSetItem → RegexReader (List CharSetItem)
  | 0, _ => reject
  | fuel + 1, seen => do
    match ← take with
    | none => reject
    | some t =>
      if t = .plain ']' ∧ seen ≠ [] then return seen.reverse
      let item ← setMember t
      if ← accept '-' then
        match ← take with
        | none => reject
        | some (.plain ']') => return (CharSetItem.range 45 45 :: item :: seen).reverse
        | some u =>
          match item, ← setMember u with
          | .range low _, .range high _ =>
            require (low ≤ high)
            setItems fuel (.range low high :: seen)
          | _, _ => reject
      else setItems fuel (item :: seen)

/-- Reads a set after its opening bracket. -/
def characterSet : RegexReader Regex := do
  let negated ← accept '^'
  let items ← setItems ((← get).tokens.length + 1) []
  let f := (← get).flags
  return .set ⟨negated, items, f.ignoreCase, f.ascii⟩

/-- Counts from here on are too large for a repetition, and break reading down. -/
def countLimit : Nat := 4294967295

/-- The number that the digits of a count write; no digits are no count. -/
def count? (digits : Text) : RegexReader (Option Nat) := do
  if digits.isEmpty then return none
  if digitLimit < digits.length then breakDown .tooManyDigits
  let n := decimalNumber digits
  if countLimit ≤ n then breakDown .tooLarge
  return some n

/-- Reads the bounds of a repetition after its opening brace; nothing is taken, and there is no
result, if the brace is an ordinary character. -/
def bounds? : RegexReader (Option (Nat × Option Nat)) := do
  let saved ← get
  if (← peek) = some (.plain '\x7d') then return none
  let size := saved.tokens.length
  let low ← takeWhile isAsciiDigit size
  let high ← if ← accept ',' then takeWhile isAsciiDigit size else pure low
  if ← accept '\x7d' then
    let least := (← count? low).getD 0
    let most ← count? high
    require ((most.map fun n => decide (least ≤ n)).getD true)
    return some (least, most)
  else
    set saved
    return none

/-- Applies a repetition to the item before it. -/
def repeatItem (low : Nat) (high : Option Nat) (item : Option Regex) : RegexReader Regex := do
  match item with
  | none | some (.anchor _) | some (.repetition _ _ _ _) => reject
  | some r =>
    modify fun s => { s with hasRepeats := true }
    if ← accept '?' then return .repetition low high .reluctant r
    if ← accept '+' then return .repetition low high .possessive r
    return .repetition low high .greedy r

/-- Whether a name may be the name of a group. -/
def isGroupName : Text → Bool
  | [] => false
  | c :: t => isGroupNameStart c && t.all isGroupNamePart

/-- Opens a group, with a name that is not taken yet if it has one. -/
def openGroup (name : Option Text) : RegexReader Nat := do
  let s ← get
  let i := s.groupCount
  match name with
  | none => set { s with groupCount := i + 1 }
  | some n =>
    require (isGroupName n && !s.names.any (·.1 == n))
    set { s with groupCount := i + 1, names := (n, i) :: s.names }
  return i

/-- The width of a closed group. -/
def closedWidth (s : RegexReadState) (i : Nat) : MatchWidth :=
  ((s.closed.find? (·.1 == i)).map (·.2)).getD (0, some 0)

/-- Closes a group. -/
def closeGroup (i : Nat) (r : Regex) : RegexReader Unit :=
  modify fun s => { s with closed := (i, r.width (closedWidth s)) :: s.closed }

/-- The letters of options. The letter `t` forbids repetitions, for the whole expression only. -/
def flagLetters : List Char := ['i', 'm', 's', 'x', 'a', 'u', 't']

/-- The options with one letter switched on or off. -/
def withFlag (f : RegexFlags) (on : Bool) : Char → RegexFlags
  | 'i' => { f with ignoreCase := on }
  | 'm' => { f with multiline := on }
  | 's' => { f with dotAll := on }
  | 'x' => { f with verbose := on }
  | 'a' => { f with ascii := on }
  | 'u' => { f with ascii := !on }
  | _ => f

/-- Reads the options of a group, from a given first letter: the letters to switch on and off, and
whether they are for the group only. -/
def options (first : Char) : RegexReader (Text × Text × Bool) := do
  let isFlag (c : Char) : Bool := flagLetters.contains c
  let size := (← get).tokens.length
  let on ← if first = '-' then pure [] else do pure (first :: (← takeWhile isFlag size))
  require (!(on.contains 'a' && on.contains 'u'))
  if first ≠ '-' then
    if ← accept ')' then return (on, [], false)
    require (!on.contains 't')
    if ← accept ':' then return (on, [], true)
    require (← accept '-')
  let off ← takeWhile isFlag size
  require (!off.isEmpty && !off.any ['a', 'u', 't'].contains)
  require (!on.any off.contains)
  require (← accept ':')
  return (on, off, true)

/-- The options with some letters switched on and others off. -/
def changeFlags (f : RegexFlags) (on off : Text) : RegexFlags :=
  off.foldl (withFlag · false ·) (on.foldl (withFlag · true ·) f)

/-- Switches options on for the whole expression. -/
def setGlobal (on : Text) : RegexReader Unit :=
  modify fun s =>
    { s with
      unicodeAsked := s.unicodeAsked || on.contains 'u'
      repeatsForbidden := s.repeatsForbidden || on.contains 't'
      flags := on.foldl (fun f c => if c = 'u' then f else withFlag f true c) s.flags }

/-- Items one after another. -/
def inSequence (items : List Regex) : Regex :=
  match items with
  | [] => .empty
  | r :: rs => rs.foldl .seq r

/-- The most groups that an expression may have. -/
def groupLimit : Nat := 1073741823

/-- The number of the group that a condition names. -/
def conditionGroup (name : Text) : RegexReader Nat := do
  let s ← get
  if isGroupName name then
    match s.names.find? (·.1 == name) with
    | some (_, i) => return i
    | none => reject
  else
    match readInteger? 10 name with
    | some (.ofNat i) =>
      require (0 < i && i < groupLimit)
      set { s with conditions := i :: s.conditions }
      return i
    | _ => reject

mutual

/-- Reads alternatives, with room for `fuel` steps; `top` tells that no group is open. -/
def alternatives : (fuel : Nat) → (top first : Bool) → RegexReader Regex
  | 0, _, _ => reject
  | fuel + 1, top, first => do
    let r ← sequence fuel first []
    if ← accept '|' then return .alt r (← alternatives fuel top false)
    else return r

/-- Reads items up to the end, a bar or a closing parenthesis; `seen` are the items so far, the
last first. Options for the whole expression may stand at its very start only. -/
def sequence : (fuel : Nat) → (first : Bool) → (seen : List Regex) → RegexReader Regex
  | 0, _, _ => reject
  | fuel + 1, first, seen => do
    let next ← peek
    if next = none ∨ next = some (.plain '|') ∨ next = some (.plain ')') then
      return inSequence seen.reverse
    let _ ← take
    let f := (← get).flags
    match next with
    | none => reject
    | some .dangling => reject
    | some (.escaped c) => do sequence fuel first ((← escape c) :: seen)
    | some (.half _ unit) => do
      sequence fuel first ((← literal (CodePoint.half unit).toNat) :: seen)
    | some (.plain c) =>
      if f.verbose && (c = ' ' || (0x09 ≤ c.toNat && c.toNat ≤ 0x0d)) then
        sequence fuel first seen
      else if f.verbose && c = '#' then
        let rest := (← get).tokens.dropWhile fun t => t ≠ .plain '\n' ∧ t ≠ .dangling
        goTo rest
        goTo rest.tail
        sequence fuel first seen
      else
        match c with
        | '[' => do sequence fuel first ((← characterSet) :: seen)
        | '.' => do
          let set : CharSet := ⟨true, if f.dotAll then [] else [.range 10 10], false, false⟩
          sequence fuel first (.set set :: seen)
        | '^' =>
          sequence fuel first (.anchor (if f.multiline then .lineStart else .textStart) :: seen)
        | '$' =>
          sequence fuel first (.anchor (if f.multiline then .lineEnd else .lastLineEnd) :: seen)
        | '*' => do sequence fuel first ((← repeatItem 0 none seen.head?) :: seen.tail)
        | '+' => do sequence fuel first ((← repeatItem 1 none seen.head?) :: seen.tail)
        | '?' => do sequence fuel first ((← repeatItem 0 (some 1) seen.head?) :: seen.tail)
        | '\x7b' => do
          match ← bounds? with
          | some (low, high) =>
            sequence fuel first ((← repeatItem low high seen.head?) :: seen.tail)
          | none => sequence fuel first ((← literal c.toNat) :: seen)
        | '(' => do
          match ← parenthesis fuel (first && seen.isEmpty) with
          | some r => sequence fuel first (r :: seen)
          | none => sequence fuel first seen
        | c => do sequence fuel first ((← literal c.toNat) :: seen)

/-- Reads what follows an opening parenthesis; comments and options for the whole expression are
no items. -/
def parenthesis : (fuel : Nat) → (atStart : Bool) → RegexReader (Option Regex)
  | 0, _ => reject
  | fuel + 1, atStart => do
    if !(← accept '?') then
      let i ← openGroup none
      return some (← capture fuel i)
    match ← take with
    | some (.plain 'P') =>
      if ← accept '<' then
        let i ← openGroup (some (← takeUntil '>'))
        return some (← capture fuel i)
      else
        require (← accept '=')
        let name ← takeUntil ')'
        require (isGroupName name)
        match (← get).names.find? (·.1 == name) with
        | some (_, i) => return some (← reference i)
        | none => reject
    | some (.plain ':') => return some (.group none (← body fuel))
    | some (.plain '>') => return some (.atomic (← body fuel))
    | some (.plain '=') => return some (.look none false (← body fuel))
    | some (.plain '!') => return some (.look none true (← body fuel))
    | some (.plain '<') =>
      let negated := (← peek) = some (.plain '!')
      require (negated || (← peek) = some (.plain '='))
      let _ ← take
      return some (← lookBehind fuel negated)
    | some (.plain '#') =>
      match (← get).tokens.dropWhile (· ≠ .plain ')') with
      | [] => reject
      | _ :: rest =>
        goTo rest
        return none
    | some (.plain '(') =>
      let i ← conditionGroup (← takeUntil ')')
      checkLookBehind i
      let yes ← sequence fuel false []
      let no ← if ← accept '|' then sequence fuel false [] else pure .empty
      require (← accept ')')
      return some (.condition i yes no)
    | some (.plain c) =>
      require (c == '-' || flagLetters.contains c)
      let (on, off, forGroup) ← options c
      if forGroup then
        let saved := (← get).flags
        modify fun s => { s with flags := changeFlags saved on off }
        let r ← body fuel
        modify fun s => { s with flags := saved }
        return some (.group none r)
      else
        require atStart
        setGlobal on
        return none
    | _ => reject

/-- Reads the alternatives of a group and its closing parenthesis. -/
def body : (fuel : Nat) → RegexReader Regex
  | 0 => reject
  | fuel + 1 => do
    let depth := (← get).depth
    if Platform.regexDepth ≤ depth then breakDown .tooDeep
    modify fun s => { s with depth := depth + 1 }
    let r ← alternatives fuel false false
    modify fun s => { s with depth }
    require (← accept ')')
    return r

/-- Reads the rest of a group that captures. -/
def capture : (fuel : Nat) → (index : Nat) → RegexReader Regex
  | 0, _ => reject
  | fuel + 1, i => do
    let r ← body fuel
    closeGroup i r
    return .group (some i) r

/-- Reads the rest of a look back. Whether it has a fixed length, which it must have, is noted. -/
def lookBehind : (fuel : Nat) → (negated : Bool) → RegexReader Regex
  | 0, _ => reject
  | fuel + 1, negated => do
    let outer := (← get).lookBehindFrom
    modify fun s => { s with lookBehindFrom := outer.or (some s.groupCount) }
    let r ← body fuel
    modify fun s => { s with lookBehindFrom := outer }
    let (low, high) := r.width (closedWidth (← get))
    unless high == some low && low ≤ countLimit do
      modify fun s => { s with unfixedLookBehind := true }
    return .look (some low) negated r

end

end RegexReader

namespace Regex

/-- The expression that a text writes. Options that exclude each other come to light after all of
the text has been read, and before what is wrong with the expression as a whole. -/
def parse [Platform] (t : WideText) : Except Rejection Regex := do
  let tokens := RegexToken.scan t
  let read : RegexReader Regex := do
    RegexReader.goTo tokens
    RegexReader.alternatives (8 * tokens.length + 8) true true
  let (r, s) ← read.run { tokens }
  if s.unicodeAsked && s.flags.ascii then throw (.broken .clashingOptions)
  let sound := s.tokens.isEmpty && s.conditions.all (· < s.groupCount) && !s.unfixedLookBehind &&
    !(s.repeatsForbidden && s.hasRepeats)
  if sound then return r else throw .malformed

end Regex

end ImportOrder
