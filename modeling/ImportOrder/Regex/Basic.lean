import ImportOrder.Regex.CaseVariant
import ImportOrder.Text.WordChar

/-!
# Regular expressions

The expressions that group patterns may use: characters and sets, anchors, groups, alternatives,
repetition in its three modes, assertions, references and conditions.

## Main definitions

* `Regex`: an expression
* `Regex.width`: the least and the greatest length of what it matches
* `CharSet.accepts`: whether a set of characters holds one
-/

namespace ImportOrder

/-- **The options** under which an expression is read. -/
structure RegexFlags where
  ignoreCase : Bool := false
  multiline : Bool := false
  dotAll : Bool := false
  verbose : Bool := false
  ascii : Bool := false
deriving Repr, DecidableEq, Inhabited

/-- Classes of characters with a name of their own. -/
inductive CharCategory where
  | digit
  | space
  | word
deriving Repr, DecidableEq, Inhabited

/-- One member of a set of characters. -/
inductive CharSetItem where
  | range (low high : Nat)
  | category (c : CharCategory) (negated : Bool)
deriving Repr, DecidableEq, Inhabited

/-- **A set of characters.** -/
structure CharSet where
  negated : Bool
  items : List CharSetItem
  ignoreCase : Bool
  ascii : Bool
deriving Repr, DecidableEq, Inhabited

/-- **Places in a text** that match without taking a character. -/
inductive Anchor where
  | textStart
  | lineStart
  | lastLineEnd
  | lineEnd
  | textEnd
  | wordBoundary (ascii : Bool)
  | insideWord (ascii : Bool)
deriving Repr, DecidableEq, Inhabited

/-- How often a repetition tries to repeat: as often as it can, as seldom as it can, or as often as
it can without ever giving back. -/
inductive Greed where
  | greedy
  | reluctant
  | possessive
deriving Repr, DecidableEq, Inhabited

/-- **A regular expression.** -/
inductive Regex where
  | empty
  | set (s : CharSet)
  | anchor (a : Anchor)
  | seq (a b : Regex)
  | alt (a b : Regex)
  | group (index : Option Nat) (r : Regex)
  | repetition (low : Nat) (high : Option Nat) (greed : Greed) (r : Regex)
  | atomic (r : Regex)
  | look (behind : Option Nat) (negated : Bool) (r : Regex)
  | backreference (index : Nat) (ignoreCase ascii : Bool)
  | condition (index : Nat) (yes no : Regex)
deriving Repr, Inhabited

namespace CharCategory

/-- Whether a character belongs to a category, within ASCII or over all of Unicode. -/
def accepts (ascii : Bool) (c : Char) : CharCategory → Bool
  | digit => isDecimalDigit c && (!ascii || c.toNat < 0x80)
  | space =>
    if ascii then c == ' ' || (0x09 ≤ c.toNat && c.toNat ≤ 0x0d) else isBlank c
  | word => isWordChar c && (!ascii || c.toNat < 0x80)

end CharCategory

namespace CharSet

/-- Whether a member of a set holds a character. -/
def itemAccepts (s : CharSet) (c : Char) : CharSetItem → Bool
  | .range low high =>
    let inRange (n : Nat) : Bool := low ≤ n && n ≤ high
    if s.ignoreCase then (caseVariants s.ascii c).any inRange else inRange c.toNat
  | .category k negated => k.accepts s.ascii c != negated

/-- Whether a set holds a character. -/
def accepts (s : CharSet) (c : Char) : Bool := s.items.any (s.itemAccepts c) != s.negated

end CharSet

/-- The least and the greatest length of a match; no greatest length if it is not bounded. -/
abbrev MatchWidth := Nat × Option Nat

namespace MatchWidth

/-- The width of one match after another. -/
def add (a b : MatchWidth) : MatchWidth := (a.1 + b.1, do return (← a.2) + (← b.2))

/-- The width of one match or another. -/
def union (a b : MatchWidth) : MatchWidth := (min a.1 b.1, do return max (← a.2) (← b.2))

/-- The width of a repeated match. -/
def times (low : Nat) (high : Option Nat) (a : MatchWidth) : MatchWidth :=
  (low * a.1,
    match a.2, high with
    | some n, some m => some (n * m)
    | some 0, none => some 0
    | none, some 0 => some 0
    | _, _ => none)

end MatchWidth

namespace Regex

/-- The width of an expression, given the widths of the groups it refers to. -/
def width (groups : Nat → MatchWidth) : Regex → MatchWidth
  | empty | anchor _ | look _ _ _ => (0, some 0)
  | set _ => (1, some 1)
  | seq a b => (a.width groups).add (b.width groups)
  | alt a b => (a.width groups).union (b.width groups)
  | group _ r | atomic r => r.width groups
  | repetition low high _ r => (r.width groups).times low high
  | backreference i _ _ => groups i
  | condition _ yes no => (yes.width groups).union (no.width groups)

end Regex

end ImportOrder
