import ImportOrder.Proofs.Source.Frame

/-!
# Line numbers

Lines end at any line break, or at line feeds only. The second count is coarser: what is on one
line by the first is on one line by the second, and a line break adds one to the second exactly if
it has a line feed. Both counts add up over stretches that do not divide a carriage return from its
line feed, and no comment or declaration does.

## Main definitions

* `Text.lineNumber`: the number of the line at an offset, where lines end at any line break
* `Text.DividesBreak`: whether an offset is between a carriage return and its line feed

## Main results

* `Text.lineNumber_eq_add`, `Text.lineAt_eq_add`: line numbers add up
* `Text.lineAt_le_of_lineNumber_le`, `Text.lineAt_eq_succ_iff`: the coarser count
-/

namespace ImportOrder

open Piece (textOf)

namespace Text

/-- The number, from 1, of the line at an offset, where lines end at any line break. -/
def lineNumber (t : Text) (offset : Nat) : Nat := lineBreaks (t.take offset) + 1

/-- Whether an offset is between a carriage return and its line feed. -/
def DividesBreak (t : Text) (offset : Nat) : Prop :=
  (t.take offset).getLast? = some '\r' ∧ (t.drop offset).head? = some '\n'

theorem lineBreaks_cons {c : Char} {t : Text} (h : c = '\r' → t.head? ≠ some '\n') :
    lineBreaks (c :: t) = lineBreaks t + if isLineTerminator c then 1 else 0 := by
  rw [lineBreaks.eq_def]
  split
  · rename_i heq
    cases heq
  · rename_i heq
    obtain ⟨rfl, rfl⟩ := List.cons.inj heq
    exact absurd rfl (h rfl)
  · rename_i heq
    obtain ⟨rfl, rfl⟩ := List.cons.inj heq
    split <;> rfl

/-- The line breaks of texts that do not meet in the middle of one. -/
theorem lineBreaks_append {t u : Text} (h : t.getLast? = some '\r' → u.head? ≠ some '\n') :
    lineBreaks (t ++ u) = lineBreaks t + lineBreaks u := by
  induction t using lineBreaks.induct with
  | case1 => simp [lineBreaks]
  | case2 t ih =>
    have hrest : t.getLast? = some '\r' → u.head? ≠ some '\n' := fun hlast =>
      h (by simp [List.getLast?_cons, hlast])
    rw [List.cons_append, List.cons_append, lineBreaks, lineBreaks, ih hrest]
    omega
  | case3 c t hpair _ ih | case4 c t hpair _ ih =>
    have hrest : t.getLast? = some '\r' → u.head? ≠ some '\n' := fun hlast =>
      h (by simp [List.getLast?_cons, hlast])
    have halone : c = '\r' → t.head? ≠ some '\n' := by
      intro hc hhead
      obtain ⟨t', rfl⟩ := List.head?_eq_some_iff.1 hhead
      exact hpair t' hc rfl
    have happend : c = '\r' → (t ++ u).head? ≠ some '\n' := by
      intro hc
      cases t with
      | nil => exact h (by simp [hc])
      | cons d t => exact halone hc
    rw [List.cons_append, lineBreaks_cons happend, lineBreaks_cons halone, ih hrest]
    omega

/-- A line feed ends a line. -/
theorem count_le_lineBreaks (t : Text) : t.count '\n' ≤ lineBreaks t := by
  fun_induction lineBreaks t with
  | case1 => simp
  | case2 t ih => simpa using ih
  | case3 c t _ _ ih =>
    rw [List.count_cons]
    split <;> omega
  | case4 c t _ hc ih =>
    have hne : c ≠ '\n' := by
      rintro rfl
      exact hc rfl
    rw [List.count_cons_of_ne hne]
    exact ih

variable {t : Text} {a b : Nat}

theorem take_eq_append_slice (hab : a ≤ b) : t.take b = t.take a ++ t.slice a b := by
  have h := @slice_append_slice t 0 a b (Nat.zero_le a) hab
  simpa [slice] using h.symm

/-- Line numbers add up. -/
theorem lineNumber_eq_add (ha : ¬t.DividesBreak a) (hab : a ≤ b) :
    t.lineNumber b = t.lineNumber a + lineBreaks (t.slice a b) := by
  have hcut : (t.take a).getLast? = some '\r' → (t.slice a b).head? ≠ some '\n' := by
    intro hlast hhead
    rw [slice, List.drop_take, List.head?_take] at hhead
    split at hhead
    · cases hhead
    · exact ha ⟨hlast, hhead⟩
  rw [lineNumber, lineNumber, take_eq_append_slice hab, lineBreaks_append hcut]
  omega

theorem lineAt_eq_add (hab : a ≤ b) : t.lineAt b = t.lineAt a + (t.slice a b).count '\n' := by
  rw [lineAt, lineAt, take_eq_append_slice hab, List.count_append]
  omega

theorem lineAt_mono (hab : a ≤ b) : t.lineAt a ≤ t.lineAt b := by
  rw [lineAt_eq_add hab]
  exact Nat.le_add_right _ _

/-- What comes later by all line breaks comes later by line feeds. -/
theorem lineAt_le_of_lineNumber_le (hb : ¬t.DividesBreak b)
    (h : t.lineNumber a ≤ t.lineNumber b) : t.lineAt a ≤ t.lineAt b := by
  rcases Nat.le_total a b with hab | hba
  · exact lineAt_mono hab
  · rw [lineNumber_eq_add hb hba] at h
    have hcount := count_le_lineBreaks (t.slice b a)
    rw [lineAt_eq_add hba]
    omega

theorem lineAt_eq_of_lineNumber_eq (ha : ¬t.DividesBreak a) (hb : ¬t.DividesBreak b)
    (h : t.lineNumber a = t.lineNumber b) : t.lineAt a = t.lineAt b :=
  Nat.le_antisymm (lineAt_le_of_lineNumber_le hb (Nat.le_of_eq h))
    (lineAt_le_of_lineNumber_le ha (Nat.le_of_eq h.symm))

/-- The next line by all line breaks is the next one by line feeds if there is one in between. -/
theorem lineAt_eq_succ_iff (ha : ¬t.DividesBreak a) (hb : ¬t.DividesBreak b)
    (h : t.lineNumber b = t.lineNumber a + 1) :
    t.lineAt b = t.lineAt a + 1 ↔ '\n' ∈ t.slice a b := by
  have hab : a ≤ b := by
    by_contra hlt
    have := lineNumber_eq_add hb (Nat.le_of_lt (Nat.not_le.1 hlt))
    omega
  rw [lineNumber_eq_add ha hab] at h
  have hcount := count_le_lineBreaks (t.slice a b)
  rw [lineAt_eq_add hab, ← List.count_pos_iff]
  omega

end Text

/-! ## Comments and declarations -/

theorem Piece.getLast?_of_isComment {p : Piece} (h : StandsBefore p []) (hc : p.isComment = true) :
    p.text.getLast? ≠ some '\r' := by
  have hshape := h.shape
  cases hshape <;> simp [isComment, PieceKind.isComment] at hc
  case lineComment t hline =>
    intro hlast
    have hmem := List.mem_of_getLast? hlast
    simp only [List.mem_cons, Char.reduceEq, false_or] at hmem
    have := hline '\r' hmem
    cases this
  case blockComment t hclose =>
    obtain ⟨inner, rfl⟩ := exists_body_of_closeBlockComment? hclose
    simp [List.getLast?_cons]

/-- The piece of a comment. -/
theorem Comment.exists_piece {offset : Nat} {ps : List Piece} {c : Comment}
    (h : c ∈ ofPieces offset ps) : ∃ us p vs, ps = us ++ p :: vs ∧ p.isComment = true ∧
      c = ⟨p.text, offset + (textOf us).length⟩ := by
  induction ps generalizing offset with
  | nil => cases h
  | cons p ps ih =>
    rw [ofPieces] at h
    have hrest : c ∈ ofPieces (offset + p.text.length) ps → ∃ us q vs, p :: ps = us ++ q :: vs ∧
        q.isComment = true ∧ c = ⟨q.text, offset + (textOf us).length⟩ := by
      intro hc
      obtain ⟨us, q, vs, rfl, hq, rfl⟩ := ih hc
      exact ⟨p :: us, q, vs, rfl, hq, by simp [Nat.add_assoc]⟩
    split at h
    · rename_i hp
      rcases List.mem_cons.1 h with rfl | h
      · exact ⟨[], p, ps, rfl, hp, rfl⟩
      · exact hrest h
    · exact hrest h

/-- The sentence of a declaration. -/
theorem Segment.exists_sentence {d : Dialect} {offset : Nat} {gs : List Segment}
    {tail : List Piece} {decl : ImportDecl} (hgs : AreValid d gs tail)
    (h : decl ∈ decls offset gs) :
    ∃ (us : List Piece) (s : Sentence) (vs : List Piece), row gs = us ++ (s.pieces ++ vs) ∧
      s.IsValid d ∧ decl = s.decl (offset + (textOf us).length) := by
  induction gs generalizing offset with
  | nil => cases h
  | cons g gs ih =>
    obtain ⟨-, hs, -, hgs⟩ := hgs
    rw [row_cons]
    rcases List.mem_cons.1 h with rfl | h
    · exact ⟨g.gap, g.sentence, row gs, rfl, hs, rfl⟩
    · obtain ⟨us, s, vs, hrow, hs, rfl⟩ := ih hgs h
      refine ⟨g.gap ++ (g.sentence.pieces ++ us), s, vs, by simp [hrow], hs, ?_⟩
      simp [Nat.add_assoc]

namespace Layout

variable {d : Dialect} {l : Layout}

/-- A comment neither starts nor ends in the middle of a line break. -/
theorem not_dividesBreak_of_comment (h : l.IsValid d) {c : Comment}
    (hc : c ∈ Comment.ofPieces l.shebang.length l.pieces) :
    ¬l.source.DividesBreak c.start ∧ ¬l.source.DividesBreak c.stop := by
  obtain ⟨us, p, vs, hpieces, hp, rfl⟩ := Comment.exists_piece hc
  have hstands := h.standsBefore p (by simp [hpieces])
  have hsource : l.source = (l.shebang ++ textOf us) ++ (p.text ++ textOf vs) := by
    simp [source, hpieces]
  have hlen : l.shebang.length + (textOf us).length = (l.shebang ++ textOf us).length := by simp
  have hfirst := Piece.head?_of_isComment hp hstands
  constructor
  · rintro ⟨-, hhead⟩
    rw [hsource, hlen, List.drop_left, List.head?_append, hfirst] at hhead
    cases hhead
  · rintro ⟨hlast, -⟩
    rw [hsource, Comment.stop, hlen, ← List.length_append, ← List.append_assoc, List.take_left,
      List.getLast?_append] at hlast
    cases hend : p.text.getLast? with
    | none => exact hstands.text_ne_nil (List.getLast?_eq_none_iff.1 hend)
    | some x =>
      rw [hend] at hlast
      exact Piece.getLast?_of_isComment hstands hp (hend.trans hlast)

/-- A declaration does not start in the middle of a line break. -/
theorem not_dividesBreak_of_decl (h : l.IsValid d) {decl : ImportDecl}
    (hdecl : decl ∈ (l.head d).imports) : ¬l.source.DividesBreak decl.span.start := by
  obtain ⟨us, s, vs, hrow, hs, rfl⟩ := Segment.exists_sentence h.segments hdecl
  obtain ⟨ps, hclause, -⟩ := hs.clause
  rintro ⟨-, hhead⟩
  have hsource : l.source = (l.shebang ++ (textOf l.directives ++ textOf us)) ++
      (textOf s.pieces ++ textOf (vs ++ (l.gap ++ l.code))) := by
    simp [source, pieces, hrow]
  have hstart : (s.decl (l.floor + (textOf us).length)).span.start =
      (l.shebang ++ (textOf l.directives ++ textOf us)).length := by
    simp [Sentence.decl, floor, Nat.add_assoc]
  have hfirst : (textOf s.pieces).head? = some 'i' := by
    simp [Sentence.pieces, hclause]
  rw [hsource, hstart, List.drop_left, List.head?_append, hfirst] at hhead
  cases hhead

end Layout

end ImportOrder
