import ImportOrder.Text.Basic

/-!
# Code points

The escapes of a data file can write any code point, also one half of a surrogate pair, which is no
character. A text from a data file is therefore a list of code points. A source file has characters
only, so that a half never agrees with anything in it.

## Main definitions

* `CodePoint`: a character or a half
* `WideText`: a text that may have halves
* `Text.widen`, `WideText.text?`: from and to texts of characters
* `WideText.shown`: a string that shows a text

## Main results

* `WideText.text?_widen`: a text of characters is one after widening
-/

namespace ImportOrder

/-- **A code point**: a character, or one half of a surrogate pair that stands alone. -/
inductive CodePoint where
  | char (c : Char)
  | half (unit : Fin 0x800)
deriving Repr, DecidableEq, Inhabited

namespace CodePoint

/-- The number of a code point. -/
def toNat : CodePoint → Nat
  | char c => c.toNat
  | half unit => 0xd800 + unit

/-- The code point with a number, if there is one. -/
def ofNat? (n : Nat) : Option CodePoint :=
  if n < 0xd800 ∨ (0xdfff < n ∧ n < 0x110000) then some (char (Char.ofNat n))
  else if h : n - 0xd800 < 0x800 then some (half ⟨n - 0xd800, h⟩)
  else none

/-- The character that a code point is. -/
def char? : CodePoint → Option Char
  | char c => some c
  | half _ => none

/-- The character that stands for a code point where there are characters only. -/
def toChar : CodePoint → Char
  | char c => c
  | half _ => '\ufffd'

end CodePoint

/-- **A text that may have halves** of surrogate pairs. -/
abbrev WideText := List CodePoint

namespace Text

/-- A text of characters as a text that may have halves. -/
def widen (t : Text) : WideText := t.map .char

end Text

namespace WideText

/-- The text of a string. -/
def ofString (s : String) : WideText := Text.widen s.toList

instance : Coe String WideText := ⟨ofString⟩

/-- The text of characters that a text is, if it has no halves. -/
def text? (t : WideText) : Option Text := t.mapM CodePoint.char?

/-- The string that a text is, if it has no halves. -/
def string? (t : WideText) : Option String := t.text?.map String.ofList

/-- The text with the replacement character in the place of each half. -/
def chars (t : WideText) : Text := t.map CodePoint.toChar

/-- The text with the character that two halves make in their place. -/
def joinPairs : WideText → WideText
  | .half a :: .half b :: t =>
    if a < 0x400 ∧ 0x400 ≤ b then
      .char (Char.ofNat (0x10000 + 0x400 * a.toNat + (b.toNat - 0x400))) :: joinPairs t
    else .half a :: joinPairs (.half b :: t)
  | c :: t => c :: joinPairs t
  | [] => []

/-- The string that shows a text: halves that make a character are shown as this character, and
others as the replacement character. -/
def shown (t : WideText) : String := String.ofList t.joinPairs.chars

/-- The order of texts by the numbers of their code points: `a` is not after `b`. -/
def le (a b : WideText) : Bool :=
  !(decide (b.map CodePoint.toNat < a.map CodePoint.toNat))

@[simp] theorem text?_widen (t : Text) : text? t.widen = some t := by
  induction t with
  | nil => rfl
  | cons c t ih =>
    simp only [text?, Text.widen, List.map_cons, List.mapM_cons] at ih ⊢
    simp [ih, CodePoint.char?]

end WideText

end ImportOrder
