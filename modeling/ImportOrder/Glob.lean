import ImportOrder.Text.Basic
import ImportOrder.Text.CodePoint

/-!
# Glob patterns

Patterns for whole paths: a star stands for any text, slashes included, a question mark for one
character, and brackets for one character of a set. A bracket that is never closed stands for
itself.

## Main definitions

* `Glob.Piece`: a part of a pattern
* `Glob.parse`: the parts of a pattern
* `Glob.covers`: whether parts match a whole text
-/

namespace ImportOrder

namespace Glob

/-- **An item of a set** of characters: one character, or all between two. -/
inductive SetItem where
  | single (c : CodePoint)
  | range (low high : CodePoint)
deriving Repr, DecidableEq, Inhabited

/-- Whether an item holds a character. -/
def SetItem.holds (c : Char) : SetItem → Bool
  | single d => d == .char c
  | range low high => low.toNat ≤ c.toNat && c.toNat ≤ high.toNat

/-- **A part of a pattern.** -/
inductive Piece where
  | anyText
  | anyChar
  | single (c : CodePoint)
  | set (negated : Bool) (items : List SetItem)
deriving Repr, DecidableEq, Inhabited

/-- Whether a part matches one character. -/
def Piece.accepts (c : Char) : Piece → Bool
  | anyText => false
  | anyChar => true
  | single d => d == .char c
  | set negated items => items.any (SetItem.holds c) != negated

/-! ## Sets -/

/-- A character of a set as it is written, or the hyphen between the ends of a range. -/
inductive SetMark where
  | single (c : CodePoint)
  | hyphen
deriving Repr, DecidableEq, Inhabited

/-- The text between brackets, cut at the hyphens of its ranges. `held` holds the characters of the
present part, the last one first; the next `guard` characters cannot be a range's hyphen. -/
def chunks (held : WideText) : (guard : Nat) → WideText → List WideText
  | _, [] => [held.reverse]
  | 0, .char '-' :: t => held.reverse :: chunks [] 2 t
  | 0, c :: t => chunks (c :: held) 0 t
  | guard + 1, c :: t => chunks (c :: held) guard t

/-- Parts of a set where a hyphen at the very end stands for itself. -/
def closeLast : List WideText → List WideText
  | [] => []
  | [a, []] => [a ++ [.char '-']]
  | a :: rest => a :: closeLast rest

/-- Puts a part before others; a range whose ends are in the wrong order is taken out with its
ends. -/
def consChunk (a : WideText) : List WideText → List WideText
  | [] => [a]
  | b :: rest =>
    match a.getLast?, b.head? with
    | some low, some high =>
      if high.toNat < low.toNat then (a.dropLast ++ b.tail) :: rest else a :: b :: rest
    | _, _ => a :: b :: rest

/-- The marks of the parts of a set. -/
def setMarks (parts : List WideText) : List SetMark :=
  (parts.map fun p => p.map SetMark.single).intersperse [SetMark.hyphen] |>.flatten

/-- The items that marks write. -/
def setItems : List SetMark → List SetItem
  | [] => []
  | .single a :: .hyphen :: .single b :: rest => .range a b :: setItems rest
  | .single a :: rest => .single a :: setItems rest
  | .hyphen :: rest => .single (.char '-') :: setItems rest

/-- The part of a pattern that the text between brackets stands for. An exclamation mark at the
start takes the characters outside the set. -/
def setPiece (t : WideText) : Piece :=
  let guard := if t.head? = some (.char '!') then 2 else 1
  let parts := (closeLast (chunks [] guard t)).foldr consChunk []
  match setMarks parts with
  | .single (.char '!') :: marks => .set true (setItems marks)
  | marks => .set false (setItems marks)

/-! ## Patterns -/

/-- The text between brackets and what follows, after the opening bracket. The first character of
the set, also after an exclamation mark, cannot close it. -/
def bracketed? (t : WideText) : Option (WideText × WideText) :=
  let lead := match t with
    | .char '!' :: .char ']' :: _ => 2
    | .char '!' :: _ => 1
    | .char ']' :: _ => 1
    | _ => 0
  let body := (t.drop lead).takeWhile (· ≠ .char ']')
  match (t.drop lead).drop body.length with
  | [] => none
  | _ :: rest => some (t.take lead ++ body, rest)

/-- What follows a set is shorter than the set with it. -/
theorem length_bracketed {t body rest : WideText} (h : bracketed? t = some (body, rest)) :
    rest.length < t.length := by
  simp only [bracketed?] at h
  split at h
  · simp at h
  · rename_i lead c u hdrop
    simp only [Option.some.injEq, Prod.mk.injEq] at h
    obtain ⟨-, rfl⟩ := h
    have := congrArg List.length hdrop
    simp only [List.length_drop, List.length_cons] at this
    omega

/-- The parts of a pattern; stars side by side are one. -/
def parse : WideText → List Piece
  | [] => []
  | .char '*' :: .char '*' :: t => parse (.char '*' :: t)
  | .char '*' :: t => .anyText :: parse t
  | .char '?' :: t => .anyChar :: parse t
  | c :: t =>
    if c = .char '[' then
      match h : bracketed? t with
      | some (body, rest) =>
        have : rest.length < t.length := length_bracketed h
        setPiece body :: parse rest
      | none => .single c :: parse t
    else .single c :: parse t
termination_by t => t.length

/-- Whether parts match a whole text. -/
def covers : List Piece → Text → Bool
  | [], t => t.isEmpty
  | .anyText :: ps, t => (Text.suffixes t).any (covers ps)
  | p :: ps, c :: t => p.accepts c && covers ps t
  | _ :: _, [] => false

end Glob

end ImportOrder
