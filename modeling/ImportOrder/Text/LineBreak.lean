import ImportOrder.Text.Basic

/-!
# Line breaks

A source text breaks its lines at carriage returns, line feeds, their pair, and the two Unicode
separators. Text that is written uses one of two endings throughout.

## Main definitions

* `Text.lineBreaks`: the number of line breaks of a text
* `Eol`: the two endings that output may use
* `Text.withEol`: a text with every ordinary line break replaced by one ending
* `Text.dominantEol`: the ending that a text uses most
* `Text.lineAt`: the number of the line at an offset
-/

namespace ImportOrder

/-- The characters that end a line. -/
def isLineTerminator (c : Char) : Bool :=
  c == '\n' || c == '\r' || c == '\u2028' || c == '\u2029'

/-- **The ending of a line** in output. -/
inductive Eol where
  | lf
  | crlf
deriving Repr, DecidableEq, Inhabited

namespace Eol

/-- The characters of a line ending. -/
def text : Eol → Text
  | lf => ['\n']
  | crlf => ['\r', '\n']

end Eol

namespace Text

/-- The number of line breaks of a text; a carriage return and the line feed after it are one. -/
def lineBreaks : Text → Nat
  | [] => 0
  | '\r' :: '\n' :: t => lineBreaks t + 1
  | c :: t => if isLineTerminator c then lineBreaks t + 1 else lineBreaks t

/-- The number of blank lines that a gap between two parts of a source spans. -/
def blankLines (t : Text) : Nat := lineBreaks t - 1

/-- The text with every carriage return, line feed and pair of the two replaced by `eol`. -/
def withEol (eol : Eol) : Text → Text
  | [] => []
  | '\r' :: '\n' :: t => eol.text ++ withEol eol t
  | c :: t => if c = '\r' ∨ c = '\n' then eol.text ++ withEol eol t else c :: withEol eol t

/-- The number of pairs of a carriage return and a line feed. -/
def crlfCount : Text → Nat
  | [] => 0
  | '\r' :: '\n' :: t => crlfCount t + 1
  | _ :: t => crlfCount t

/-- The ending that a text uses most; the line feed if neither prevails. -/
def dominantEol (t : Text) : Eol :=
  if t.count '\n' - crlfCount t < crlfCount t then .crlf else .lf

/-- The number, from 1, of the line at an offset, where lines end at line feeds only. -/
def lineAt (t : Text) (offset : Nat) : Nat := (t.take offset).count '\n' + 1

end Text

end ImportOrder
