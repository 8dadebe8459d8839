import ImportOrder.Text.CodePoint
import ImportOrder.Text.Printable

/-!
# Quoted texts in messages

A message shows a text between single quotes, or between double quotes if the text has single
quotes and no double ones. The quote in use and the backslash are escaped, tab and the two ordinary
line ends have their short escapes, and any other code point that cannot be printed is shown by its
number.

## Main definitions

* `WideText.quoted`, `Text.quoted`: the text as a message shows it
-/

namespace ImportOrder

/-- The lower-case hexadecimal digit of a number below sixteen. -/
def hexDigit (n : Nat) : Char := Char.ofNat (if n < 10 then 48 + n else 87 + n)

/-- The last `width` hexadecimal digits of a number. -/
def hexDigits : (width : Nat) → Nat → Text
  | 0, _ => []
  | width + 1, n => hexDigits width (n / 16) ++ [hexDigit (n % 16)]

/-- A code point by its number, with as many digits as its size needs. -/
def codePointEscape (n : Nat) : Text :=
  if n < 0x100 then '\\' :: 'x' :: hexDigits 2 n
  else if n < 0x10000 then '\\' :: 'u' :: hexDigits 4 n
  else '\\' :: 'U' :: hexDigits 8 n

/-- A character as it stands in a text quoted with `quote`. -/
def quotedChar (quote c : Char) : Text :=
  if c == quote || c == '\\' then ['\\', c]
  else if c == '\n' then ['\\', 'n']
  else if c == '\r' then ['\\', 'r']
  else if c == '\t' then ['\\', 't']
  else if isPrintable c then [c]
  else codePointEscape c.toNat

/-- A code point as it stands in a text quoted with `quote`. -/
def quotedPoint (quote : Char) : CodePoint → Text
  | .char c => quotedChar quote c
  | .half unit => codePointEscape (CodePoint.half unit).toNat

namespace WideText

/-- The quote that a message puts around a text. -/
def messageQuote (t : WideText) : Char :=
  if t.contains (.char '\x27') && !t.contains (.char '"') then '"' else '\x27'

/-- The text as a message shows it. -/
def quoted (t : WideText) : String :=
  let quote := messageQuote t
  String.ofList (quote :: t.flatMap (quotedPoint quote) ++ [quote])

end WideText

namespace Text

/-- The text as a message shows it. -/
def quoted (t : Text) : String := t.widen.quoted

end Text

end ImportOrder
