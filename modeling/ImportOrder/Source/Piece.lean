import ImportOrder.Text.LineBreak
import ImportOrder.Text.WordChar

/-!
# Pieces of a source text

A source text is cut into pieces, from left to right and without gaps: line breaks, spaces,
comments, strings, names, and single characters. Nothing is dropped, so the pieces put together
give the text back.

## Main definitions

* `Piece`: a piece with its kind
* `Piece.first`: the piece at the start of a text
* `Piece.scan`: the pieces of a text

## Main results

* `Piece.flatMap_scan`: the pieces of a text put together are the text
-/

namespace ImportOrder

/-- **The kinds of pieces.** A `bad` piece is the start of a string or comment that never ends. -/
inductive PieceKind where
  | newline
  | space
  | lineComment
  | blockComment
  | string
  | bad
  | name
  | punct
deriving Repr, DecidableEq, Inhabited

/-- **A piece of a source text.** -/
structure Piece where
  kind : PieceKind
  text : Text
deriving Repr, DecidableEq, Inhabited

/-- The spaces inside a line of source. -/
def isSpace (c : Char) : Bool :=
  c == ' ' || c == '\t' || c == '\x0c' || c == '\x0b' || c == '\ufeff' || c == '\xa0'

/-- Characters beyond ASCII in the basic plane all count as characters of names. -/
def isBasicPlaneNonAscii (c : Char) : Bool := 0x80 ≤ c.toNat && c.toNat ≤ 0xffff

/-- The characters that start a name. -/
def isNameStart (c : Char) : Bool :=
  isAsciiLetter c || c == '_' || c == '$' || isBasicPlaneNonAscii c

/-- The characters that continue a name. -/
def isNamePart (c : Char) : Bool := isWordChar c || c == '$' || isBasicPlaneNonAscii c

/-- The text up to and with the end of a block comment, if the comment ends. -/
def closeBlockComment? : Text → Option Text
  | [] => none
  | '*' :: '/' :: _ => some ['*', '/']
  | c :: t => (closeBlockComment? t).map (c :: ·)

/-- The text up to and with the quote that closes a string, if the string ends on its line. A
backslash takes the character after it along, whatever it is. -/
def closeString? (quote : Char) : Text → Option Text
  | [] => none
  | c :: t =>
    if c = quote then some [c]
    else if c = '\\' then
      match t with
      | [] => none
      | d :: u => (closeString? quote u).map (c :: d :: ·)
    else if c = '\r' ∨ c = '\n' then none
    else (closeString? quote t).map (c :: ·)

namespace Piece

/-- A piece that starts with a slash: a comment, the start of one that never ends, or the slash. -/
def ofSlash : Text → Piece
  | '/' :: t => ⟨.lineComment, '/' :: '/' :: t.takeWhile (!isLineTerminator ·)⟩
  | '*' :: t =>
    match closeBlockComment? t with
    | some body => ⟨.blockComment, '/' :: '*' :: body⟩
    | none => ⟨.bad, ['/', '*']⟩
  | _ => ⟨.punct, ['/']⟩

/-- A piece that starts with a quote. -/
def ofQuote (quote : Char) (t : Text) : Piece :=
  match closeString? quote t with
  | some body => ⟨.string, quote :: body⟩
  | none => ⟨.bad, [quote]⟩

/-- The piece at the start of `c :: t`. -/
def first (c : Char) (t : Text) : Piece :=
  if c = '\r' ∧ t.head? = some '\n' then ⟨.newline, ['\r', '\n']⟩
  else if isLineTerminator c then ⟨.newline, [c]⟩
  else if isSpace c then ⟨.space, c :: t.takeWhile isSpace⟩
  else if c = '/' then ofSlash t
  else if c = '\x27' ∨ c = '"' then ofQuote c t
  else if isNameStart c then ⟨.name, c :: t.takeWhile isNamePart⟩
  else ⟨.punct, [c]⟩

/-- The pieces of what follows the first `skip` characters of a text. -/
def scanFrom : (skip : Nat) → Text → List Piece
  | _, [] => []
  | skip + 1, _ :: t => scanFrom skip t
  | 0, c :: t =>
    let p := first c t
    p :: scanFrom (p.text.length - 1) t

/-- The pieces of a text. -/
def scan (t : Text) : List Piece := scanFrom 0 t

theorem closeBlockComment?_prefix {t body : Text} (h : closeBlockComment? t = some body) :
    body <+: t := by
  fun_induction closeBlockComment? t generalizing body with
  | case1 => simp at h
  | case2 r => obtain rfl := Option.some.inj h; exact ⟨r, rfl⟩
  | case3 c r hc ih =>
    obtain ⟨u, hu, rfl⟩ := Option.map_eq_some_iff.1 h
    exact List.cons_prefix_cons.2 ⟨rfl, ih hu⟩

theorem closeString?_prefix {quote : Char} {t body : Text} (h : closeString? quote t = some body) :
    body <+: t := by
  fun_induction closeString? quote t generalizing body with
  | case1 => simp at h
  | case2 t => obtain rfl := Option.some.inj h; exact ⟨t, rfl⟩
  | case3 => simp at h
  | case4 hc d u ih =>
    obtain ⟨v, hv, rfl⟩ := Option.map_eq_some_iff.1 h
    exact List.cons_prefix_cons.2 ⟨rfl, List.cons_prefix_cons.2 ⟨rfl, ih hv⟩⟩
  | case5 => simp at h
  | case6 c t hq hb hn ih =>
    obtain ⟨u, hu, rfl⟩ := Option.map_eq_some_iff.1 h
    exact List.cons_prefix_cons.2 ⟨rfl, ih hu⟩

theorem ofSlash_prefix (t : Text) : ∃ u, (ofSlash t).text = '/' :: u ∧ u <+: t := by
  unfold ofSlash
  split
  · exact ⟨_, rfl, List.cons_prefix_cons.2 ⟨rfl, List.takeWhile_prefix _⟩⟩
  · split
    · rename_i h
      exact ⟨_, rfl, List.cons_prefix_cons.2 ⟨rfl, closeBlockComment?_prefix h⟩⟩
    · exact ⟨_, rfl, List.cons_prefix_cons.2 ⟨rfl, List.nil_prefix⟩⟩
  · exact ⟨_, rfl, List.nil_prefix⟩

theorem ofQuote_prefix (c : Char) (t : Text) : ∃ u, (ofQuote c t).text = c :: u ∧ u <+: t := by
  unfold ofQuote
  split
  · rename_i h
    exact ⟨_, rfl, closeString?_prefix h⟩
  · exact ⟨_, rfl, List.nil_prefix⟩

/-- The first piece is a non-empty start of the text. -/
theorem first_prefix (c : Char) (t : Text) : ∃ u, (first c t).text = c :: u ∧ u <+: t := by
  -- Each test of `first` takes the character it looked at, and a start of what follows.
  unfold first
  split
  · rename_i h
    obtain ⟨rfl, ht⟩ := h
    cases t with
    | nil => simp at ht
    | cons d t =>
      obtain rfl : d = '\n' := by simpa using ht
      exact ⟨_, rfl, List.cons_prefix_cons.2 ⟨rfl, List.nil_prefix⟩⟩
  split
  · exact ⟨_, rfl, List.nil_prefix⟩
  split
  · exact ⟨_, rfl, List.takeWhile_prefix _⟩
  split
  · rename_i h
    subst h
    exact ofSlash_prefix t
  split
  · exact ofQuote_prefix c t
  split
  · exact ⟨_, rfl, List.takeWhile_prefix _⟩
  · exact ⟨_, rfl, List.nil_prefix⟩

theorem scanFrom_eq_scan_drop (skip : Nat) (t : Text) : scanFrom skip t = scan (t.drop skip) := by
  induction t generalizing skip with
  | nil => cases skip <;> rfl
  | cons c t ih =>
    cases skip with
    | zero => rfl
    | succ skip => simpa [scanFrom] using ih skip

/-- The first piece of a text, and then the pieces of the rest. -/
theorem scan_cons (c : Char) (t : Text) :
    scan (c :: t) = first c t :: scan ((c :: t).drop (first c t).text.length) := by
  obtain ⟨u, hu, -⟩ := first_prefix c t
  rw [scan, scanFrom, scanFrom_eq_scan_drop, hu]
  rfl

/-- The pieces of a text put together are the text. -/
theorem flatMap_scan (t : Text) : (scan t).flatMap Piece.text = t := by
  -- The rest behind the first piece is shorter but no tail of the text, hence the strong induction.
  induction h : t.length using Nat.strongRecOn generalizing t with
  | _ n ih =>
    cases t with
    | nil => rfl
    | cons c t =>
      obtain ⟨u, hu, v, rfl⟩ := first_prefix c t
      rw [scan_cons, List.flatMap_cons, hu]
      simp only [List.length_cons, List.drop_succ_cons, List.drop_left]
      rw [ih v.length (by simp at h; omega) v rfl]
      rfl

end Piece

end ImportOrder
