import ImportOrder.Proofs.Source.LineEndings
import ImportOrder.Proofs.Source.LineNumbers

/-!
# The lines of a text

A text is its lines with line endings between them. Replacing the line endings joins the same lines
with another ending, and no two endings that were apart come to meet: so a second replacement finds
the lines that the first one found, and the line breaks are as many as before.

## Main definitions

* `Text.lines`: the lines of a text, between its line endings

## Main results

* `Text.withEol_eq_join`: a text with other line endings is its lines, joined with these
* `Text.lines_withEol`: replacing line endings keeps the lines
* `Text.withEol_absorbs`: only the last of several replacements counts
-/

namespace ImportOrder

namespace Text

variable {eol : Eol}

/-- **The lines of a text**, between its carriage returns, line feeds and pairs of the two. -/
def lines : Text → List Text
  | [] => [[]]
  | '\r' :: '\n' :: t => [] :: lines t
  | c :: t => if c = '\r' ∨ c = '\n' then [] :: lines t else (lines t).modifyHead (c :: ·)

theorem lines_plain {c : Char} (hr : c ≠ '\r') (hn : c ≠ '\n') (t : Text) :
    lines (c :: t) = (lines t).modifyHead (c :: ·) := by
  rw [lines]
  · simp [hr, hn]
  · intro u hc
    exact absurd hc hr

theorem lines_text_append (eol : Eol) (t : Text) : lines (eol.text ++ t) = [] :: lines t := by
  cases eol with
  | lf =>
    show lines ('\n' :: t) = [] :: lines t
    rw [lines]
    · simp
    · intro u hc
      cases hc
  | crlf => rfl

theorem lines_ne_nil (t : Text) : lines t ≠ [] := by
  fun_induction lines t with
  | case1 | case2 | case3 => simp
  | case4 c t _ _ ih =>
    obtain ⟨l, ls, hls⟩ := List.exists_cons_of_ne_nil ih
    simp [hls]

/-! ## Lines joined -/

theorem join_nil_cons (sep : Text) {ls : List Text} (h : ls ≠ []) :
    join sep ([] :: ls) = sep ++ join sep ls := by
  obtain ⟨l, ls, rfl⟩ := List.exists_cons_of_ne_nil h
  rw [join_cons_cons, List.nil_append]

theorem join_modifyHead (sep : Text) (c : Char) {ls : List Text} (h : ls ≠ []) :
    join sep (ls.modifyHead (c :: ·)) = c :: join sep ls := by
  obtain ⟨l, ls, rfl⟩ := List.exists_cons_of_ne_nil h
  cases ls with
  | nil => simp
  | cons k ls => simp [join_cons_cons]

/-- **A text with other line endings** is its lines, joined with these. -/
theorem withEol_eq_join (eol : Eol) (t : Text) : t.withEol eol = join eol.text t.lines := by
  fun_induction Text.withEol eol t with
  | case1 => rfl
  | case2 t ih => rw [lines, join_nil_cons _ (lines_ne_nil t), ih]
  | case3 c t hpair hc ih =>
    rw [lines, if_pos hc, join_nil_cons _ (lines_ne_nil t), ih]
    exact hpair
  | case4 c t _ hc ih =>
    obtain ⟨hr, hn⟩ := not_or.1 hc
    rw [lines_plain hr hn, join_modifyHead _ _ (lines_ne_nil t), ih]

/-- **Replacing line endings** keeps the lines. -/
theorem lines_withEol (eol : Eol) (t : Text) : (t.withEol eol).lines = t.lines := by
  fun_induction Text.withEol eol t with
  | case1 => rfl
  | case2 t ih => rw [lines_text_append, ih, lines]
  | case3 c t hpair hc ih =>
    rw [lines_text_append, ih, lines, if_pos hc]
    exact hpair
  | case4 c t _ hc ih =>
    obtain ⟨hr, hn⟩ := not_or.1 hc
    rw [lines_plain hr hn, lines_plain hr hn, ih]

/-! ## Line breaks -/

/-- **The line breaks of a text** are the endings between its lines, and the separators in them. -/
theorem lineBreaks_add_one (t : Text) :
    t.lineBreaks + 1 = t.lines.length + t.lines.flatten.countP isLineTerminator := by
  fun_induction lines t with
  | case1 => rfl
  | case2 t ih =>
    rw [lineBreaks, ih, List.length_cons, List.flatten_cons, List.nil_append]
    omega
  | case3 c t hpair hc ih =>
    have halone : c = '\r' → t.head? ≠ some '\n' := by
      rintro hr hhead
      obtain ⟨u, rfl⟩ := List.head?_eq_some_iff.1 hhead
      exact hpair u hr rfl
    have hterm : isLineTerminator c = true := by
      rcases hc with rfl | rfl <;> rfl
    rw [lineBreaks_cons halone, if_pos hterm, ih, List.length_cons, List.flatten_cons,
      List.nil_append]
    omega
  | case4 c t _ hc ih =>
    obtain ⟨hr, -⟩ := not_or.1 hc
    obtain ⟨l, ls, hls⟩ := List.exists_cons_of_ne_nil (lines_ne_nil t)
    rw [hls, List.flatten_cons] at ih
    rw [hls, List.modifyHead_cons, List.flatten_cons, List.cons_append, List.countP_cons,
      lineBreaks_cons fun h => absurd h hr]
    simp only [List.length_cons] at ih ⊢
    omega

/-- Replacing line endings keeps the number of line breaks. -/
theorem lineBreaks_withEol (eol : Eol) (t : Text) : (t.withEol eol).lineBreaks = t.lineBreaks := by
  have h := lineBreaks_add_one (t.withEol eol)
  rw [lines_withEol, ← lineBreaks_add_one] at h
  exact Nat.succ.inj h

/-- **Only the last of several replacements counts**, and each of them keeps the lines of the text
and their number. -/
theorem withEol_absorbs (e₁ e₂ : Eol) (t : Text) :
    (t.withEol e₁).withEol e₂ = t.withEol e₂ ∧ (t.withEol e₁).lineBreaks = t.lineBreaks ∧
      t.withEol e₁ = join e₁.text t.lines := by
  refine ⟨?_, lineBreaks_withEol e₁ t, withEol_eq_join e₁ t⟩
  calc (t.withEol e₁).withEol e₂
    _ = join e₂.text (t.withEol e₁).lines := withEol_eq_join e₂ _
    _ = join e₂.text t.lines := by rw [lines_withEol]
    _ = t.withEol e₂ := (withEol_eq_join e₂ t).symm

example : lines "a\r\r\n\n\rb".toList = [['a'], [], [], [], ['b']] := by decide

end Text

end ImportOrder
