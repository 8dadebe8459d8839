import ImportOrder.Regex.Basic

/-!
# Matching

An expression matches at a place of a text if some way through its choices leads to the end; the
ways are tried in a fixed order, and the first that is found sets the groups.

## Main definitions

* `Regex.run`: the first way through an expression from which the rest can be matched
* `Regex.search`: whether an expression matches somewhere in a text
-/

namespace ImportOrder

/-- **A place in a text** while matching: what precedes it, last character first, what follows it,
and the texts of the groups so far. -/
structure MatchState where
  before : Text
  rest : Text
  groups : List (Nat × Text)
deriving Repr, DecidableEq, Inhabited

namespace MatchState

/-- The offset of the place. -/
def position (s : MatchState) : Nat := s.before.length

/-- The place one character further on. -/
def advance? (s : MatchState) : Option (Char × MatchState) :=
  match s.rest with
  | [] => none
  | c :: rest => some (c, { s with before := c :: s.before, rest })

/-- The place `n` characters back. -/
def back? (s : MatchState) (n : Nat) : Option MatchState :=
  if n ≤ s.before.length then
    some { s with before := s.before.drop n, rest := (s.before.take n).reverse ++ s.rest }
  else none

/-- The text of a group. -/
def group? (s : MatchState) (i : Nat) : Option Text := (s.groups.find? (·.1 == i)).map (·.2)

/-- Sets the text of a group to what lies between an earlier place and this one. -/
def close (s : MatchState) (i : Nat) (opened : MatchState) : MatchState :=
  let taken := (s.before.take (s.position - opened.position)).reverse
  { s with groups := (i, taken) :: s.groups.filter (·.1 != i) }

/-- Whether a word starts or ends at the place. -/
def atWordBoundary (ascii : Bool) (s : MatchState) : Bool :=
  let isWord (c : Option Char) : Bool := (c.map (CharCategory.word.accepts ascii)).getD false
  isWord s.before.head? != isWord s.rest.head?

/-- Whether an anchor holds at the place. -/
def meets (s : MatchState) : Anchor → Bool
  | .textStart => s.before.isEmpty
  | .lineStart => s.before.isEmpty || s.before.head? == some '\n'
  | .lastLineEnd => s.rest.isEmpty || s.rest == ['\n']
  | .lineEnd => s.rest.isEmpty || s.rest.head? == some '\n'
  | .textEnd => s.rest.isEmpty
  | .wordBoundary ascii => s.atWordBoundary ascii
  | .insideWord ascii => !(s.before.isEmpty && s.rest.isEmpty) && !s.atWordBoundary ascii

/-- Takes a given text, if it follows. -/
def take? (ignoreCase ascii : Bool) : Text → MatchState → Option MatchState
  | [], s => some s
  | c :: t, s =>
    match s.advance? with
    | none => none
    | some (d, next) =>
      if (if ignoreCase then (caseVariants ascii c).contains d.toNat else c == d) then
        take? ignoreCase ascii t next
      else none

end MatchState

namespace Regex

/-- A matcher finds the first way from a place to a place that the rest of the match accepts. -/
abbrev Matcher := MatchState → (MatchState → Option MatchState) → Option MatchState

/-- Whether one more round of a repetition may be tried after `count` rounds. -/
def mayRepeat (high : Option Nat) (count : Nat) : Bool :=
  match high with
  | some n => count < n
  | none => true

/-- Repeats as often as possible. A round that starts where the round before started is not
tried. -/
def greedyLoop (body : Matcher) (low : Nat) (high : Option Nat) :
    (fuel count : Nat) → (last : Option Nat) → Matcher
  | 0, _, _, s, k => k s
  | fuel + 1, count, last, s, k =>
    if count < low then body s fun next => greedyLoop body low high fuel (count + 1) last next k
    else if mayRepeat high count && last != some s.position then
      (body s fun next =>
        greedyLoop body low high fuel (count + 1) (some s.position) next k).or (k s)
    else k s

/-- Repeats as seldom as possible. -/
def reluctantLoop (body : Matcher) (low : Nat) (high : Option Nat) :
    (fuel count : Nat) → (last : Option Nat) → Matcher
  | 0, _, _, s, k => k s
  | fuel + 1, count, last, s, k =>
    if count < low then body s fun next => reluctantLoop body low high fuel (count + 1) last next k
    else
      (k s).or <|
        if mayRepeat high count && last != some s.position then
          body s fun next =>
            reluctantLoop body low high fuel (count + 1) (some s.position) next k
        else none

/-- Repeats as often as possible and keeps the first way of each round. -/
def possessiveLoop (body : Matcher) (low : Nat) (high : Option Nat) :
    (fuel count : Nat) → (last : Option Nat) → MatchState → Option MatchState
  | 0, _, _, s => some s
  | fuel + 1, count, last, s =>
    if count < low then
      (body s some).bind (possessiveLoop body low high fuel (count + 1) last)
    else if mayRepeat high count && last != some s.position then
      match body s some with
      | some next => possessiveLoop body low high fuel (count + 1) (some s.position) next
      | none => some s
    else some s

/-- The first way through an expression from which the rest of the match can be completed. -/
def run : Regex → Matcher
  | empty, s, k => k s
  | set cs, s, k =>
    match s.advance? with
    | some (c, next) => if cs.accepts c then k next else none
    | none => none
  | anchor a, s, k => if s.meets a then k s else none
  | seq a b, s, k => run a s fun next => run b next k
  | alt a b, s, k => (run a s k).or (run b s k)
  | group none r, s, k => run r s k
  | group (some i) r, s, k => run r s fun next => k (next.close i s)
  | repetition low high greed r, s, k =>
    let fuel := low + s.rest.length + 2
    match greed with
    | .greedy => greedyLoop (run r) low high fuel 0 none s k
    | .reluctant => reluctantLoop (run r) low high fuel 0 none s k
    | .possessive => (possessiveLoop (run r) low high fuel 0 none s).bind k
  | atomic r, s, k => (run r s some).bind k
  | look behind negated r, s, k =>
    let found := (s.back? (behind.getD 0)).bind fun start => run r start some
    if negated then (if found.isSome then none else k s)
    else found.bind fun next => k { s with groups := next.groups }
  | backreference i ignoreCase ascii, s, k =>
    match s.group? i with
    | some t => (s.take? ignoreCase ascii t).bind k
    | none => none
  | condition i yes no, s, k => if (s.group? i).isSome then run yes s k else run no s k

/-- Whether an expression matches at some place of a text, from a given place on. -/
def searchFrom (r : Regex) (before : Text) : Text → Bool
  | [] => (run r ⟨before, [], []⟩ some).isSome
  | c :: rest =>
    (run r ⟨before, c :: rest, []⟩ some).isSome || searchFrom r (c :: before) rest

/-- Whether an expression matches somewhere in a text. -/
def search (r : Regex) (t : Text) : Bool := searchFrom r [] t

end Regex

end ImportOrder
