import ImportOrder.Proofs.Source.CommentLines

/-!
# Text with other line endings

Replacing the line endings of a text by one ending replaces them in each of its pieces, and the
pieces stay what they are: line breaks, and the comments and strings that line endings stand in. A
string can only hold a line ending behind a backslash, and the backslash takes one character along,
so that the ending of two characters breaks such a string.

## Main definitions

* `Piece.withEol`: a piece with other line endings
* `IsCommentLine`: a line of comments

## Main results

* `Piece.chained_withEol`: the pieces of a text with other line endings
* `IsCommentLine.withEol`: a line of comments stays one
* `Comment.isPragma_withEol`: whether a comment concerns the whole file does not change
-/

namespace ImportOrder

/-- The character that stands for another one at the start of a text with other line endings. -/
def Eol.head (eol : Eol) (c : Char) : Char :=
  if c = '\r' ∨ c = '\n' then
    match eol with
    | .lf => '\n'
    | .crlf => '\r'
  else c

namespace Text

variable {eol : Eol}

theorem withEol_plain {c : Char} (hr : c ≠ '\r') (hn : c ≠ '\n') (t : Text) :
    withEol eol (c :: t) = c :: withEol eol t := by
  rw [withEol]
  · simp [hr, hn]
  · intro u hc
    exact absurd hc hr

theorem withEol_break {c : Char} {t : Text} (hc : c = '\r' ∨ c = '\n')
    (h : c = '\r' → t.head? ≠ some '\n') : withEol eol (c :: t) = eol.text ++ withEol eol t := by
  rw [withEol]
  · simp [hc]
  · rintro u rfl rfl
    exact h rfl rfl

/-- A text without line endings, by a look at its characters. -/
theorem plain_of_all {t : Text} (h : (t.all fun c => c != '\r' && c != '\n') = true) :
    ∀ c ∈ t, c ≠ '\r' ∧ c ≠ '\n' := by
  simpa using h

theorem withEol_of_plain {t : Text} (h : ∀ c ∈ t, c ≠ '\r' ∧ c ≠ '\n') : withEol eol t = t := by
  induction t with
  | nil => rfl
  | cons c t ih =>
    obtain ⟨hr, hn⟩ := h c (by simp)
    rw [withEol_plain hr hn, ih fun d hd => h d (by simp [hd])]

theorem head?_text_append (t : Text) :
    (eol.text ++ t).head? = some (eol.head '\n') := by
  cases eol <;> rfl

theorem head?_withEol (t : Text) : (withEol eol t).head? = t.head?.map eol.head := by
  fun_induction withEol eol t with
  | case1 => rfl
  | case2 t ih =>
    rw [head?_text_append]
    cases eol <;> rfl
  | case3 c t _ hc ih =>
    rw [head?_text_append]
    simp [Eol.head, hc]
  | case4 c t _ hc ih => simp [Eol.head, hc]

/-- A carriage return has no line feed behind it in a longer text either, if no part of it ends
inside a line ending. -/
theorem head?_append_ne_lf {c : Char} {t u : Text} (hcr : ∀ v, c = '\r' → t = '\n' :: v → False)
    (h : (c :: t).getLast? = some '\r' → u.head? ≠ some '\n') :
    c = '\r' → (t ++ u).head? ≠ some '\n' := by
  rintro rfl
  cases t with
  | nil => exact h rfl
  | cons d t =>
    intro hd
    obtain rfl : d = '\n' := by simpa using hd
    exact hcr t rfl rfl

/-- Line endings are replaced in each part of a text that does not end inside one. -/
theorem withEol_append {t u : Text} (h : t.getLast? = some '\r' → u.head? ≠ some '\n') :
    withEol eol (t ++ u) = withEol eol t ++ withEol eol u := by
  fun_induction withEol eol t with
  | case1 => rfl
  | case2 t ih =>
    have hrest := ih fun hlast => h (by simp [List.getLast?_cons, hlast])
    simp [withEol, hrest]
  | case3 c t hcr hc ih =>
    have hrest := ih fun hlast => h (by simp [List.getLast?_cons, hlast])
    rw [List.cons_append, withEol_break hc, hrest, List.append_assoc]
    exact head?_append_ne_lf hcr h
  | case4 c t hcr hc ih =>
    obtain ⟨hr, hn⟩ := not_or.1 hc
    have hrest := ih fun hlast => h (by simp [List.getLast?_cons, hlast])
    rw [List.cons_append, withEol_plain hr hn, hrest, List.cons_append]

end Text

/-! ## Comments and strings -/

theorem closeBlockComment?_cons {c : Char} {t : Text} (h : c = '*' → t.head? ≠ some '/') :
    closeBlockComment? (c :: t) = (closeBlockComment? t).map (c :: ·) := by
  rw [closeBlockComment?]
  rintro u rfl rfl
  exact h rfl rfl

theorem closeBlockComment?_withEol {eol : Eol} {t : Text} (h : closeBlockComment? t = some t) :
    closeBlockComment? (t.withEol eol) = some (t.withEol eol) := by
  have hadd : ∀ {u : Text}, closeBlockComment? u = some u →
      closeBlockComment? (eol.text ++ u) = some (eol.text ++ u) := by
    intro u hu
    cases eol
    · simp [Eol.text, closeBlockComment?_cons, hu]
    · show closeBlockComment? ('\r' :: '\n' :: u) = _
      rw [closeBlockComment?_cons (by simp), closeBlockComment?_cons (by simp), hu]
      rfl
  fun_induction Text.withEol eol t with
  | case1 => exact h
  | case2 t ih =>
    rw [closeBlockComment?_cons (by simp), closeBlockComment?_cons (by simp)] at h
    exact hadd (ih (by simpa using h))
  | case3 c t _ hc ih =>
    have hstar : c ≠ '*' := by rcases hc with rfl | rfl <;> decide
    rw [closeBlockComment?_cons fun h => absurd h hstar] at h
    exact hadd (ih (by simpa using h))
  | case4 c t _ hc ih =>
    by_cases hclose : c = '*' ∧ t.head? = some '/'
    · obtain ⟨rfl, ht⟩ := hclose
      obtain ⟨u, rfl⟩ := List.head?_eq_some_iff.1 ht
      obtain rfl : u = [] := by simpa [closeBlockComment?] using h
      rfl
    · -- No line ending becomes a slash, so that a star closes what it closed before.
      have hhead : ∀ e ∈ t.head?, eol.head e = '/' → e = '/' := by
        intro e _ he
        by_cases hbreak : e = '\r' ∨ e = '\n'
        · cases eol <;> simp [Eol.head, hbreak] at he
        · simpa [Eol.head, hbreak] using he
      rw [closeBlockComment?_cons fun hc ht => hclose ⟨hc, ht⟩] at h
      rw [closeBlockComment?_cons, ih (by simpa using h)]
      · rfl
      · intro hc ht
        rw [Text.head?_withEol, Option.map_eq_some_iff] at ht
        obtain ⟨e, he, heq⟩ := ht
        exact hclose ⟨hc, by rw [he, hhead e he heq]⟩

/-- The line endings of a string, each behind a backslash, may all become line feeds. -/
theorem closeString?_withEol {q : Char} (hq : q = '\x27' ∨ q = '"') {t : Text}
    (h : closeString? q t = some t) : closeString? q (t.withEol .lf) = some (t.withEol .lf) := by
  have hplain : q ≠ '\r' ∧ q ≠ '\n' ∧ q ≠ '\\' := by rcases hq with rfl | rfl <;> decide
  -- The recursion is that of the reader: the quote that ends the string, a backslash with the
  -- character it takes, or any other character.
  fun_induction closeString? q t with
  | case1 => simp at h
  | case2 t =>
    obtain rfl : t = [] := by simpa using h.symm
    rw [Text.withEol_plain hplain.1 hplain.2.1]
    exact Piece.closeString?_quote q []
  | case3 => simp at h
  | case4 d t hbq ih =>
    have ht : closeString? q t = some t := by simpa using h
    have hesc : ∀ e, closeString? q ('\\' :: e :: Text.withEol .lf t) =
        some ('\\' :: e :: Text.withEol .lf t) := by
      intro e
      rw [Piece.closeString?_escape hplain.2.2, ih ht]
      rfl
    rw [Text.withEol_plain (by decide) (by decide)]
    by_cases hd : d = '\r' ∨ d = '\n'
    · have hnext : d = '\r' → t.head? ≠ some '\n' := by
        rintro - hhead
        obtain ⟨u, rfl⟩ := List.head?_eq_some_iff.1 hhead
        rw [closeString?.eq_def] at ht
        simp [Ne.symm hplain.2.1] at ht
      rw [Text.withEol_break hd hnext]
      exact hesc '\n'
    · obtain ⟨hr, hn⟩ := not_or.1 hd
      rw [Text.withEol_plain hr hn]
      exact hesc d
  | case5 => simp at h
  | case6 c t hcq hb hline ih =>
    obtain ⟨hr, hn⟩ := not_or.1 hline
    rw [Text.withEol_plain hr hn, Piece.closeString?_plain hcq hb hr hn, ih (by simpa using h)]
    rfl

/-! ## Pieces -/

namespace Piece

/-- **A piece with other line endings.** -/
def withEol (eol : Eol) (p : Piece) : Piece := ⟨p.kind, p.text.withEol eol⟩

/-- Whether a piece stays whole with other line endings: it is no string with a line ending that
would become two characters. -/
def Endures (eol : Eol) (p : Piece) : Prop :=
  p.kind = .string → eol = .crlf → ∀ c ∈ p.text, c ≠ '\r' ∧ c ≠ '\n'

theorem plain_of_not_terminator {c : Char} (h : isLineTerminator c = false) :
    c ≠ '\r' ∧ c ≠ '\n' := by
  constructor <;> rintro rfl <;> cases h

theorem plain_of_isNamePart {c : Char} (h : isNamePart c = true) : c ≠ '\r' ∧ c ≠ '\n' := by
  constructor <;> rintro rfl <;> cases h

theorem plain_of_isSpace {c : Char} (h : isSpace c = true) : c ≠ '\r' ∧ c ≠ '\n' :=
  plain_of_not_terminator (not_terminator_of_isSpace h)

theorem shape_eol (eol : Eol) : Shape ⟨.newline, eol.text⟩ := by
  cases eol
  · exact .newline rfl
  · exact .crlf

/-- Only line breaks, block comments and strings have line endings in them. -/
theorem Shape.plain {p : Piece} (h : Shape p) (hbreak : p.isBreak = false)
    (hblock : p.kind ≠ .blockComment) (hstring : p.kind ≠ .string) :
    ∀ c ∈ p.text, c ≠ '\r' ∧ c ≠ '\n' := by
  cases h with
  | newline | crlf => cases hbreak
  | space _ hall => exact fun c hc => plain_of_isSpace (hall c hc)
  | lineComment hall => simpa using fun c hc => plain_of_not_terminator (hall c hc)
  | blockComment => exact absurd rfl hblock
  | string => exact absurd rfl hstring
  | @bad t ht =>
    have hopenings : ∀ t ∈ openings, (t.all fun c => c != '\r' && c != '\n') = true := by decide
    exact Text.plain_of_all (hopenings t ht)
  | name hterm _ _ hall =>
    simp only [List.forall_mem_cons]
    exact ⟨plain_of_not_terminator hterm, fun d hd => plain_of_isNamePart (hall d hd)⟩
  | punct hterm _ _ _ => simpa using plain_of_not_terminator hterm

theorem withEol_of_plain {eol : Eol} {p : Piece} (h : ∀ c ∈ p.text, c ≠ '\r' ∧ c ≠ '\n') :
    p.withEol eol = p := by
  rw [Piece.withEol, Text.withEol_of_plain h]

/-- A piece keeps its shape with other line endings. -/
theorem Shape.withEol {eol : Eol} {p : Piece} (h : Shape p) (hp : p.Endures eol) :
    Shape (p.withEol eol) := by
  have hself : ∀ {q : Piece}, Shape q → q.isBreak = false → q.kind ≠ .blockComment →
      q.kind ≠ .string → Shape (q.withEol eol) := by
    intro q hq hbreak hblock hstring
    rwa [withEol_of_plain (hq.plain hbreak hblock hstring)]
  cases h with
  | @newline c hc =>
    by_cases hbreak : c = '\r' ∨ c = '\n'
    · have hshape := shape_eol eol
      rw [Piece.withEol, Text.withEol_break hbreak (by simp)]
      simpa [Text.withEol] using hshape
    · rw [withEol_of_plain (by simpa using not_or.1 hbreak)]
      exact .newline hc
  | crlf =>
    have hshape := shape_eol eol
    simpa [Piece.withEol, Text.withEol] using hshape
  | space hne hall => exact hself (.space hne hall) rfl (by simp) (by simp)
  | lineComment hall => exact hself (.lineComment hall) rfl (by simp) (by simp)
  | blockComment hclose =>
    rw [Piece.withEol, Text.withEol_plain (by decide) (by decide),
      Text.withEol_plain (by decide) (by decide)]
    exact .blockComment (closeBlockComment?_withEol hclose)
  | @string q t hq hclose =>
    -- A string may hold line endings behind backslashes, which only line feeds can replace.
    cases eol with
    | lf =>
      have hplain : q ≠ '\r' ∧ q ≠ '\n' := by rcases hq with rfl | rfl <;> decide
      rw [Piece.withEol, Text.withEol_plain hplain.1 hplain.2]
      exact .string hq (closeString?_withEol hq hclose)
    | crlf =>
      rw [withEol_of_plain (hp rfl rfl)]
      exact .string hq hclose
  | bad ht => exact hself (.bad ht) rfl (by simp) (by simp)
  | name hterm hs hc hall => exact hself (.name hterm hs hc hall) rfl (by simp) (by simp)
  | punct hterm hs hq hn => exact hself (.punct hterm hs hq hn) rfl (by simp) (by simp)

/-- The next character is of the same sort with other line endings. -/
theorem any_head {f : Char → Bool} (hf : f '\r' = f '\n') (eol : Eol) (next : Option Char) :
    (next.map eol.head).any f = next.any f := by
  cases next with
  | none => rfl
  | some c =>
    show f (eol.head c) = f c
    unfold Eol.head
    split
    · rename_i hc
      cases eol <;> rcases hc with rfl | rfl <;> simp [hf]
    · rfl

/-- What a piece can end before does not depend on the line endings. -/
theorem endsBefore_withEol {eol : Eol} {p : Piece} (hshape : Shape p) {next : Option Char}
    (h : p.endsBefore next = true) : (p.withEol eol).endsBefore (next.map eol.head) = true := by
  cases hshape with
  | @newline c hc =>
    -- No line break becomes a carriage return alone, which could not end before a line feed.
    have hne : (Text.withEol eol [c] == ['\r']) = false := by
      by_cases hbreak : c = '\r' ∨ c = '\n'
      · rw [Text.withEol_break hbreak (by simp)]
        cases eol <;> rfl
      · obtain ⟨hr, hn⟩ := not_or.1 hbreak
        rw [Text.withEol_plain hr hn]
        simpa [Text.withEol] using hr
    simp [endsBefore, withEol, hne]
  | crlf => cases eol <;> rfl
  | space _ _ => simpa [endsBefore, withEol, any_head (f := isSpace) rfl] using h
  | lineComment _ =>
    have hall : ∀ o : Option Char, o.all isLineTerminator = !o.any (!isLineTerminator ·) := by
      intro o
      cases o <;> simp
    simp only [endsBefore, withEol, hall] at h ⊢
    rwa [any_head rfl]
  | blockComment _ => rfl
  | string _ _ => rfl
  | bad _ => rfl
  | name _ _ _ _ => simpa [endsBefore, withEol, any_head (f := isNamePart) rfl] using h
  | @punct c hterm _ _ _ =>
    have hany : ∀ (o : Option Char) (d : Char), (o == some d) = o.any (· == d) := by
      intro o d
      cases o <;> simp
    have hself : Text.withEol eol [c] = [c] :=
      Text.withEol_of_plain (by simpa using plain_of_not_terminator hterm)
    simp only [endsBefore, withEol, hany, hself] at h ⊢
    rwa [any_head (f := (· == '/')) rfl, any_head (f := (· == '*')) rfl]

/-- Only a line break ends with a carriage return. -/
theorem getLast?_of_shape {p : Piece} (hshape : Shape p) {next : Option Char}
    (h : p.endsBefore next = true) : p.text.getLast? = some '\r' → next ≠ some '\n' := by
  intro hlast
  have hplain := hshape.plain
  cases hshape with
  | @newline c _ =>
    obtain rfl : c = '\r' := by simpa using hlast
    simpa [endsBefore] using h
  | crlf => simp at hlast
  | @blockComment t hclose =>
    obtain ⟨inner, rfl⟩ := exists_body_of_closeBlockComment? hclose
    simp [List.getLast?_cons] at hlast
  | @string q t hq hclose =>
    obtain ⟨inner, rfl⟩ := exists_body_of_closeString? hclose
    rcases hq with rfl | rfl <;> simp [List.getLast?_cons] at hlast
  | space | lineComment | bad | name | punct =>
    exact absurd rfl (hplain rfl (by simp) (by simp) _ (List.mem_of_getLast? hlast)).1

/-- The text of chained pieces with other line endings. -/
theorem textOf_withEol {eol : Eol} {ps : List Piece} {next : Option Char} (h : Chained ps next) :
    textOf (ps.map (withEol eol)) = (textOf ps).withEol eol := by
  induction ps with
  | nil => rfl
  | cons p ps ih =>
    obtain ⟨-, halone, hend, hps⟩ := h
    have hsplit : p.text.getLast? = some '\r' → (textOf ps).head? ≠ some '\n' := by
      intro hlast hhead
      refine getLast?_of_shape halone.shape hend hlast ?_
      rw [hhead]
      rfl
    rw [List.map_cons, textOf_cons, textOf_cons, Text.withEol_append hsplit, ih hps]
    rfl

/-- Chained pieces stay chained with other line endings. -/
theorem chained_withEol {eol : Eol} {ps : List Piece} {next : Option Char} (h : Chained ps next)
    (hs : ∀ p ∈ ps, p.Endures eol) : Chained (ps.map (withEol eol)) (next.map eol.head) := by
  induction ps with
  | nil => trivial
  | cons p ps ih =>
    obtain ⟨hk, halone, hend, hps⟩ := h
    refine ⟨hk, (halone.shape.withEol (hs p (by simp))).standsBefore, ?_,
      ih hps fun q hq => hs q (by simp [hq])⟩
    have hnext : (textOf (ps.map (withEol eol))).head?.or (next.map eol.head) =
        ((textOf ps).head?.or next).map eol.head := by
      rw [textOf_withEol hps, Text.head?_withEol]
      cases (textOf ps).head? <;> rfl
    rw [hnext]
    exact endsBefore_withEol halone.shape hend

end Piece

/-- Of all words, only strings have line endings in them. -/
theorem Word.Whole.plain {w : Word} (h : w.Whole) (hkind : w.kind ≠ .string) :
    ∀ c ∈ w.text, c ≠ '\r' ∧ c ≠ '\n' := by
  obtain ⟨k, hk, hs⟩ := h
  refine hs.shape.plain ?_ ?_ ?_
  · cases k <;> first | rfl | cases hk
  · rintro rfl
    cases hk
  · rintro rfl
    exact hkind (Option.some.inj hk).symm

/-! ## Lines of comments -/

/-- **A line of comments**: comments with spaces between them, and no line break outside. -/
def IsCommentLine (t : Text) : Prop :=
  ∃ ps, Piece.textOf ps = t ∧ Piece.IsStretch ps ∧
    (∀ p ∈ ps, p.isGap = true ∧ p.isBreak = false) ∧ Piece.Chained ps none

theorem Piece.IsStretch.withEol {eol : Eol} {ps : List Piece} (h : Piece.IsStretch ps) :
    Piece.IsStretch (ps.map (Piece.withEol eol)) := by
  constructor
  · obtain ⟨p, qs, rfl, hp⟩ := h.first
    exact ⟨_, _, rfl, hp⟩
  · obtain ⟨qs, p, rfl, hp⟩ := h.last
    exact ⟨_, _, List.map_append, hp⟩

/-- A line of comments is one with other line endings. -/
theorem IsCommentLine.withEol {t : Text} (h : IsCommentLine t) (eol : Eol) :
    IsCommentLine (t.withEol eol) := by
  obtain ⟨ps, rfl, hstretch, hps, hchain⟩ := h
  refine ⟨ps.map (Piece.withEol eol), Piece.textOf_withEol hchain, hstretch.withEol, ?_, ?_⟩
  · intro p hp
    obtain ⟨q, hq, rfl⟩ := List.mem_map.1 hp
    exact hps q hq
  · refine Piece.chained_withEol hchain ?_
    intro p hp hstring
    have hgap := (hps p hp).1
    simp [Piece.isGap, hstring, PieceKind.token?] at hgap

/-! ## Pragma comments -/

namespace Text

variable {eol : Eol}

theorem after?_cons_cons (c : Char) (head : Text) (d : Char) (t : Text) :
    after? (c :: head) (d :: t) = if c = d then after? head t else none := by
  by_cases h : c = d <;> simp [after?, h]

theorem after?_break {head t : Text} {c : Char} (hne : head ≠ [])
    (hh : ∀ d ∈ head, d ≠ '\r' ∧ d ≠ '\n') (hc : c = '\r' ∨ c = '\n') :
    after? head (c :: t) = none := by
  obtain ⟨d, head, rfl⟩ := List.exists_cons_of_ne_nil hne
  have hd := hh d (by simp)
  rw [after?_cons_cons, if_neg]
  rintro rfl
  rcases hc with hc | hc
  · exact hd.1 hc
  · exact hd.2 hc

theorem after?_withEol {head : Text} (hh : ∀ c ∈ head, c ≠ '\r' ∧ c ≠ '\n') (t : Text) :
    after? head (withEol eol t) = (after? head t).map (withEol eol) := by
  induction head generalizing t with
  | nil => simp [after?]
  | cons c head ih =>
    cases t with
    | nil => simp [after?, withEol]
    | cons d t =>
      by_cases hd : d = '\r' ∨ d = '\n'
      · have hhead : ∃ e u, withEol eol (d :: t) = e :: u ∧ (e = '\r' ∨ e = '\n') := by
          have hfirst := @head?_withEol eol (d :: t)
          obtain ⟨u, hu⟩ := List.head?_eq_some_iff.1 hfirst
          refine ⟨_, u, hu, ?_⟩
          cases eol <;> simp [Eol.head, hd]
        obtain ⟨e, u, heq, he⟩ := hhead
        rw [heq, after?_break (by simp) hh he, after?_break (by simp) hh hd]
        rfl
      · obtain ⟨hr, hn⟩ := not_or.1 hd
        rw [withEol_plain hr hn, after?_cons_cons, after?_cons_cons]
        split
        · exact ih (fun e he => hh e (by simp [he])) t
        · rfl

theorem trimLeft_withEol (t : Text) : trimLeft (withEol eol t) = withEol eol (trimLeft t) := by
  have hadd : ∀ u, trimLeft (eol.text ++ u) = trimLeft u := by
    intro u
    cases eol <;> rfl
  fun_induction withEol eol t with
  | case1 => rfl
  | case2 t ih =>
    rw [hadd, ih]
    rfl
  | case3 c t _ hc ih =>
    rw [hadd, ih]
    rcases hc with rfl | rfl <;> rfl
  | case4 c t _ hc ih =>
    obtain ⟨hr, hn⟩ := not_or.1 hc
    unfold trimLeft at ih ⊢
    by_cases hblank : isBlank c = true
    · simp [hblank, ih]
    · simp [hblank, withEol_plain hr hn]

theorem startsOutsideWord_withEol (t : Text) :
    startsOutsideWord (withEol eol t) = startsOutsideWord t := by
  have hword : ∀ o : Option Char, (o.map isWordChar).getD false = o.any isWordChar := by
    intro o
    cases o <;> rfl
  rw [startsOutsideWord, startsOutsideWord, head?_withEol, hword, hword,
    Piece.any_head (f := isWordChar) rfl]

theorem any_suffixes_withEol {f : Text → Bool}
    (hbreak : ∀ c t, c = '\r' ∨ c = '\n' → f (c :: t) = false)
    (hf : ∀ t, f (withEol eol t) = f t) (t : Text) :
    (suffixes (withEol eol t)).any f = (suffixes t).any f := by
  have hadd : ∀ u, (suffixes (eol.text ++ u)).any f = (suffixes u).any f := by
    intro u
    cases eol <;> simp [Eol.text, suffixes, hbreak]
  fun_induction withEol eol t with
  | case1 => rfl
  | case2 t ih =>
    rw [hadd, ih]
    simp [suffixes, hbreak]
  | case3 c t _ hc ih =>
    rw [hadd, ih]
    simp [suffixes, hbreak c t hc]
  | case4 c t _ hc ih =>
    obtain ⟨hr, hn⟩ := not_or.1 hc
    have hself := hf (c :: t)
    rw [withEol_plain hr hn] at hself
    simp [suffixes, ih, hself]

theorem hasFollowedBy_withEol {needle : String} (hne : needle.toList ≠ [])
    (hneedle : ∀ c ∈ needle.toList, c ≠ '\r' ∧ c ≠ '\n') {ok : Text → Bool}
    (hok : ∀ t, ok (withEol eol t) = ok t) (t : Text) :
    hasFollowedBy needle ok (withEol eol t) = hasFollowedBy needle ok t := by
  refine any_suffixes_withEol ?_ ?_ t
  · intro c t hc
    rw [after?_break hne hneedle hc]
    rfl
  · intro t
    rw [after?_withEol hneedle]
    cases after? needle.toList t <;> simp [hok]

theorem hasSwitch_withEol {ok : Text → Bool} (hok : ∀ t, ok (withEol eol t) = ok t) (t : Text) :
    hasSwitch ok (withEol eol t) = hasSwitch ok t := by
  refine hasFollowedBy_withEol (by decide) (plain_of_all rfl) ?_ t
  intro t
  rw [trimLeft_withEol, after?_withEol (plain_of_all rfl)]
  cases after? "disable".toList (trimLeft t) <;> simp [hok]

theorem isLintSwitch_withEol (t : Text) : isLintSwitch (withEol eol t) = isLintSwitch t := by
  unfold isLintSwitch
  rw [after?_withEol (plain_of_all rfl)]
  cases after? "/*".toList t with
  | none => rfl
  | some u =>
    simp only [Option.map_some, Option.bind_some, trimLeft_withEol]
    rw [after?_withEol (plain_of_all rfl)]
    cases after? "eslint-disable".toList (trimLeft u) with
    | none => rfl
    | some rest =>
      have hdash : ∀ o : Option Char, decide (o ≠ some '-') = !o.any (· == '-') := by
        intro o
        cases o <;> simp [beq_eq_decide]
      simp only [Option.map_some, startsOutsideWord_withEol, hdash, head?_withEol]
      rw [Piece.any_head (f := (· == '-')) rfl]

theorem isReferenceDirective_withEol (t : Text) :
    isReferenceDirective (withEol eol t) = isReferenceDirective t := by
  unfold isReferenceDirective
  rw [after?_withEol (plain_of_all rfl)]
  cases after? "///".toList t with
  | none => rfl
  | some rest =>
    have hless : ∀ o : Option Char, decide (o = some '<') = o.any (· == '<') := by
      intro o
      cases o <;> simp [beq_eq_decide]
    simp only [Option.map_some, trimLeft_withEol, hless, head?_withEol]
    rw [Piece.any_head (f := (· == '<')) rfl]

end Text

/-- Whether a comment concerns the whole file does not depend on line endings. -/
theorem Comment.isPragma_withEol (eol : Eol) (t : Text) (i j : Nat) :
    Comment.isPragma ⟨t.withEol eol, i⟩ = Comment.isPragma ⟨t, j⟩ := by
  have hnotice : "/*!".toList.isPrefixOf (t.withEol eol) = "/*!".toList.isPrefixOf t := by
    have hsome : ∀ u : Text, "/*!".toList.isPrefixOf u = (Text.after? "/*!".toList u).isSome := by
      intro u
      unfold Text.after?
      cases "/*!".toList.isPrefixOf u <;> rfl
    rw [hsome, hsome, Text.after?_withEol (Text.plain_of_all rfl), Option.isSome_map]
  have htag : ∀ needle ∈ ["@flow", "@license", "@preserve", "@ts-nocheck"],
      (t.withEol eol).hasFollowedBy needle Text.startsOutsideWord =
        t.hasFollowedBy needle Text.startsOutsideWord := by
    intro needle hmem
    simp only [List.mem_cons, List.not_mem_nil, or_false] at hmem
    rcases hmem with rfl | rfl | rfl | rfl <;>
      exact Text.hasFollowedBy_withEol (by decide) (Text.plain_of_all rfl)
        Text.startsOutsideWord_withEol t
  have hjsx : (t.withEol eol).hasFollowedBy "@jsx" (fun _ => true) =
      t.hasFollowedBy "@jsx" (fun _ => true) :=
    Text.hasFollowedBy_withEol (by decide) (Text.plain_of_all rfl) (fun _ => rfl) t
  have hswitch : (t.withEol eol).hasSwitch (fun _ => true) = t.hasSwitch (fun _ => true) :=
    Text.hasSwitch_withEol (fun _ => rfl) t
  simp only [isPragma, List.any_cons, List.any_nil, Text.isReferenceDirective_withEol,
    hnotice, hjsx, Text.isLintSwitch_withEol, hswitch, htag "@flow" (by simp),
    htag "@license" (by simp), htag "@preserve" (by simp), htag "@ts-nocheck" (by simp)]

end ImportOrder
