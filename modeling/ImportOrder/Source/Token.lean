import ImportOrder.Source.Piece

/-!
# Tokens and comments

Strings, names and single characters are the tokens of a source text; comments are kept apart, and
line breaks are remembered at the token that follows them.

## Main definitions

* `Token.ofPieces`, `Comment.ofPieces`: the tokens and the comments among the pieces of a text
* `Token.peek`: the token some places ahead, the end of the text if there is none
-/

namespace ImportOrder

/-- **The kinds of tokens.** The end of the text counts as a token where one looks ahead. -/
inductive TokenKind where
  | string
  | bad
  | name
  | punct
  | eof
deriving Repr, DecidableEq, Inhabited

/-- **A token**, the offset where it starts, and whether a line ended between it and the token
before. -/
structure Token where
  kind : TokenKind
  text : Text
  start : Nat
  newlineBefore : Bool
deriving Repr, DecidableEq, Inhabited

/-- **A comment** with the offset where it starts. -/
structure Comment where
  text : Text
  start : Nat
deriving Repr, DecidableEq, Inhabited

namespace PieceKind

/-- The kind of token that a piece is, if it is one. -/
def token? : PieceKind → Option TokenKind
  | string => some .string
  | bad => some .bad
  | name => some .name
  | punct => some .punct
  | newline | space | lineComment | blockComment => none

/-- Whether a piece is a comment. -/
def isComment : PieceKind → Bool
  | lineComment | blockComment => true
  | _ => false

end PieceKind

namespace Piece

/-- Whether a line ends in a piece between two tokens: a line break, or a block comment with a
carriage return or line feed in it. -/
def endsLine (p : Piece) : Bool :=
  match p.kind with
  | .newline => true
  | .blockComment => p.text.contains '\n' || p.text.contains '\r'
  | _ => false

end Piece

namespace Token

/-- The offset where a token ends. -/
def stop (t : Token) : Nat := t.start + t.text.length

/-- Whether a token is written exactly so. -/
def is (t : Token) (s : String) : Bool := t.text == s.toList

/-- Whether a token is the given name. -/
def isName (t : Token) (s : String) : Bool := t.kind == .name && t.is s

/-- The end of a text of the given length. -/
def eof (size : Nat) : Token := ⟨.eof, [], size, false⟩

/-- The tokens among pieces that start at an offset; `newline` tells whether a line ended since the
last token. -/
def ofPieces (offset : Nat) (newline : Bool) : List Piece → List Token
  | [] => []
  | p :: ps =>
    match p.kind.token? with
    | some kind => ⟨kind, p.text, offset, newline⟩ :: ofPieces (offset + p.text.length) false ps
    | none => ofPieces (offset + p.text.length) (newline || p.endsLine) ps

/-- The token `ahead` places on in a text of length `size`. -/
def peek (size : Nat) (ts : List Token) (ahead : Nat) : Token := ts.getD ahead (eof size)

end Token

namespace Comment

/-- The offset where a comment ends. -/
def stop (c : Comment) : Nat := c.start + c.text.length

/-- Whether a comment is written between `/*` and `*/`. -/
def isBlock (c : Comment) : Bool := "/*".toList.isPrefixOf c.text

/-- The comments among pieces that start at an offset. -/
def ofPieces (offset : Nat) : List Piece → List Comment
  | [] => []
  | p :: ps =>
    let rest := ofPieces (offset + p.text.length) ps
    if p.kind.isComment then ⟨p.text, offset⟩ :: rest else rest

end Comment

end ImportOrder
