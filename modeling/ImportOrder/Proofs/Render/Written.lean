import ImportOrder.Proofs.Source.Grammar
import ImportOrder.Render
import Mathlib.Data.List.Forall2

/-!
# Text that is read as given words

Statements are written from words with blanks between them. What is written in this way is cut into
the same words again, since the blanks, commas and braces between words end each of them.

## Main definitions

* `Written`: a text that is read as given words
* `Glue`: the blanks that are written between words
* `Quote.Encloses`: a text that can stand between quotes

## Main results

* `Written.glue`, `Written.tight`, `written_join`: words one after another
* `Quote.Encloses.requote`: a string with other quotes is a string again
-/

namespace ImportOrder

open Piece (textOf Chained StandsBefore)

/-! ## Words and blanks -/

/-- The characters that are written behind words. -/
def delimiters : List Char := [' ', ',', '\x7d', '\n', '\r']

/-- **A text that is read as given words**, before any of the delimiters. -/
def Written (t : Text) (ws : List Word) : Prop :=
  ∃ ps, textOf ps = t ∧ Piece.words ps = ws ∧ (∀ c ∈ delimiters, Chained ps (some c)) ∧
    ∃ c ∈ t.head?, isSpace c = false

/-- **The blanks between words**: a space, or a line break and spaces. -/
inductive Glue : Text → Prop
  | space : Glue [' ']
  | line (eol : Eol) (n : Nat) : Glue (eol.text ++ List.replicate n ' ')

namespace Piece

/-- The piece that a line ending is. -/
def ofEol (eol : Eol) : Piece := ⟨.newline, eol.text⟩

theorem standsBefore_ofEol (eol : Eol) : StandsBefore (ofEol eol) [] := by cases eol <;> rfl

@[simp] theorem endsBefore_ofEol (eol : Eol) (next : Option Char) :
    (ofEol eol).endsBefore next = true := by
  cases eol <;> rfl

/-- The pieces that `n` spaces are. -/
def ofSpaces (n : Nat) : List Piece := if n = 0 then [] else [⟨.space, List.replicate n ' '⟩]

@[simp] theorem textOf_ofSpaces (n : Nat) : textOf (ofSpaces n) = List.replicate n ' ' := by
  unfold ofSpaces
  split <;> simp_all

@[simp] theorem words_ofSpaces (n : Nat) : words (ofSpaces n) = [] := by
  unfold ofSpaces
  split <;> rfl

theorem chained_ofSpaces (n : Nat) {next : Option Char} (h : next.any isSpace = false) :
    Chained (ofSpaces n) next := by
  unfold ofSpaces
  split
  · trivial
  · rename_i hn
    refine ⟨by simp, (Shape.space (by simpa using hn) ?_).standsBefore, by simp [endsBefore, h],
      trivial⟩
    intro c hc
    rw [List.eq_of_mem_replicate hc]
    rfl

/-- A word is ended by any delimiter. -/
theorem endsBefore_delimiter {p : Piece} (h : p.isGap = false) {c : Char} (hc : c ∈ delimiters) :
    p.endsBefore (some c) = true := by
  obtain ⟨kind, text⟩ := p
  simp only [delimiters, List.mem_cons, List.not_mem_nil, or_false] at hc
  have hname : isNamePart c = false := by rcases hc with rfl | rfl | rfl | rfl | rfl <;> rfl
  have hslash : c ≠ '/' ∧ c ≠ '*' := by rcases hc with rfl | rfl | rfl | rfl | rfl <;> decide
  cases kind <;> simp_all [isGap, PieceKind.token?, endsBefore]

theorem not_isSpace_of_word {p : Piece} (h : StandsBefore p []) (hgap : p.isGap = false) :
    ∃ c ∈ p.text.head?, isSpace c = false := by
  have hshape := h.shape
  cases hshape <;> simp [isGap, PieceKind.token?] at hgap ⊢
  case string q t hq _ => rcases hq with rfl | rfl <;> rfl
  case bad t ht =>
    simp only [openings, List.mem_cons, List.not_mem_nil, or_false] at ht
    rcases ht with rfl | rfl | rfl <;> simp <;> rfl
  case name hs _ _ => exact hs
  case punct hs _ _ => exact hs

end Piece

namespace Glue

/-- The pieces of the blanks between words. -/
theorem exists_pieces {g : Text} (h : Glue g) :
    ∃ gs, textOf gs = g ∧ Piece.words gs = [] ∧ (∃ c ∈ g.head?, c ∈ delimiters) ∧
      ∀ c, isSpace c = false → Chained gs (some c) := by
  cases h with
  | space =>
    refine ⟨[⟨.space, [' ']⟩], rfl, rfl, ⟨' ', rfl, by decide⟩, fun c hc => ?_⟩
    exact Piece.chained_ofSpaces 1 (by simpa using hc)
  | line eol n =>
    refine ⟨Piece.ofEol eol :: Piece.ofSpaces n, by simp [Piece.ofEol], ?_, ?_, fun c hc => ?_⟩
    · rw [Piece.words_cons, Piece.words_ofSpaces]
      rfl
    · cases eol
      · exact ⟨'\n', rfl, by decide⟩
      · exact ⟨'\r', rfl, by decide⟩
    · exact ⟨by simp [Piece.ofEol], Piece.standsBefore_ofEol eol, Piece.endsBefore_ofEol _ _,
        Piece.chained_ofSpaces n (by simpa using hc)⟩

end Glue

/-! ## Words one after another -/

theorem written_of_whole {w : Word} (h : w.Whole) (hbad : w.kind ≠ .bad) : Written w.text [w] := by
  obtain ⟨k, hk, hs⟩ := h
  have hgap : Piece.isGap ⟨k, w.text⟩ = false := by simp [Piece.isGap, hk]
  refine ⟨[⟨k, w.text⟩], by simp, by simp [Piece.words, Piece.word?, hk], fun c hc => ?_,
    Piece.not_isSpace_of_word hs hgap⟩
  refine ⟨?_, hs, Piece.endsBefore_delimiter hgap hc, trivial⟩
  rintro rfl
  exact hbad (Option.some.inj hk).symm

namespace Written

variable {t u g : Text} {ws vs : List Word}

theorem head?_append {v : Text} (h : ∃ c ∈ t.head?, isSpace c = false) :
    ∃ c ∈ (t ++ v).head?, isSpace c = false := by
  obtain ⟨c, hc, hs⟩ := h
  exact ⟨c, by simp_all [List.head?_append], hs⟩

/-- Two texts with blanks between them. -/
theorem glue (ht : Written t ws) (hu : Written u vs) (hg : Glue g) :
    Written (t ++ (g ++ u)) (ws ++ vs) := by
  obtain ⟨ps, rfl, rfl, hps, hhead⟩ := ht
  obtain ⟨qs, rfl, rfl, hqs, c, hc, hspace⟩ := hu
  obtain ⟨gs, rfl, hgs, ⟨d, hd, hdelim⟩, hchain⟩ := hg.exists_pieces
  refine ⟨ps ++ (gs ++ qs), by simp, by simp [Piece.words_append, hgs], fun e he => ?_,
    head?_append hhead⟩
  have hfirst : (textOf (gs ++ qs)).head?.or (some e) = some d := by
    simp [List.head?_append, Option.mem_def.1 hd]
  have hnext : (textOf qs).head?.or (some e) = some c := by simp [Option.mem_def.1 hc]
  rw [Piece.chained_append, Piece.chained_append, hfirst, hnext]
  exact ⟨hps d hdelim, hchain c hspace, hqs e he⟩

/-- Two texts of which the second starts with a delimiter. -/
theorem tight (ht : Written t ws) (hu : Written u vs) (hhead : ∃ c ∈ u.head?, c ∈ delimiters) :
    Written (t ++ u) (ws ++ vs) := by
  obtain ⟨ps, rfl, rfl, hps, hfirst⟩ := ht
  obtain ⟨qs, rfl, rfl, hqs, -⟩ := hu
  obtain ⟨c, hc, hdelim⟩ := hhead
  refine ⟨ps ++ qs, by simp, by simp [Piece.words_append], fun e he => ?_, head?_append hfirst⟩
  have hnext : (textOf qs).head?.or (some e) = some c := by simp [Option.mem_def.1 hc]
  rw [Piece.chained_append, hnext]
  exact ⟨hps c hdelim, hqs e he⟩

/-- A text behind a brace or comma. -/
theorem punct_cons {c : Char} (hc : c ∈ [',', '\x7b']) (hu : Written u vs) :
    Written (c :: u) (.punct c :: vs) := by
  obtain ⟨ps, rfl, rfl, hps, -⟩ := hu
  have hc : c = ',' ∨ c = '\x7b' := by simpa using hc
  refine ⟨⟨.punct, [c]⟩ :: ps, rfl, rfl, fun e he => ⟨by simp, ?_, ?_, hps e he⟩, c, rfl, ?_⟩
  · rcases hc with rfl | rfl <;> rfl
  · rcases hc with rfl | rfl <;> rfl
  · rcases hc with rfl | rfl <;> rfl

/-- A brace or comma with blanks behind it. -/
theorem punct_glue {c : Char} (hc : c ∈ [',', '\x7b']) (hu : Written u vs) (hg : Glue g) :
    Written (c :: (g ++ u)) (.punct c :: vs) := by
  have hc' : Written [c] [.punct c] := by
    refine written_of_whole (w := .punct c) ⟨.punct, rfl, ?_⟩ (by simp)
    have hc : c = ',' ∨ c = '\x7b' := by simpa using hc
    rcases hc with rfl | rfl <;> rfl
  exact hc'.glue hu hg

end Written

theorem written_close : Written ['\x7d'] [.punct '\x7d'] :=
  written_of_whole (w := .punct '\x7d') ⟨.punct, rfl, rfl⟩ (by simp)

theorem written_comma : Written [','] [.punct ','] :=
  written_of_whole (w := .punct ',') ⟨.punct, rfl, rfl⟩ (by simp)

/-- Texts with commas and blanks between them. -/
theorem written_join {ts : List Text} {wss : List (List Word)} {g : Text} (hg : Glue g)
    (h : List.Forall₂ Written ts wss) (hne : ts ≠ []) :
    Written (Text.join (',' :: g) ts) (List.intercalate [.punct ','] wss) := by
  induction h with
  | nil => exact absurd rfl hne
  | @cons t ws ts wss ht hts ih =>
    cases hts with
    | nil => simpa [List.intercalate] using ht
    | @cons u vs ts wss hu hts =>
      have hrest := ih (by simp)
      have hcomma := (ht.tight written_comma ⟨',', rfl, by decide⟩).glue hrest hg
      rw [Text.join_cons_cons]
      simpa [List.intercalate] using hcomma

/-! ## Strings with other quotes -/

namespace Quote

/-- A text between quotes. -/
def enclose (q : Quote) (body : Text) : Text := q.char :: (body ++ [q.char])

/-- **A text that can stand between quotes**: it ends the string where the closing quote is. -/
def Encloses (q : Quote) (body : Text) : Prop :=
  closeString? q.char (body ++ [q.char]) = some (body ++ [q.char])

theorem char_ne_backslash (q : Quote) : q.char ≠ '\\' := by cases q <;> decide

theorem char_ne_return (q : Quote) : q.char ≠ '\r' ∧ q.char ≠ '\n' := by cases q <;> decide

end Quote

theorem Word.whole_string_iff {t : Text} :
    (⟨.string, t⟩ : Word).Whole ↔ ∃ q : Quote, ∃ body, t = q.enclose body ∧ q.Encloses body := by
  constructor
  · rintro ⟨k, hk, hs⟩
    have hshape := hs.shape
    cases hshape <;> simp [PieceKind.token?] at hk
    case string q u hq hclose =>
      obtain ⟨inner, rfl⟩ := Piece.exists_body_of_closeString? hclose
      rcases hq with rfl | rfl
      · exact ⟨.single, inner, rfl, hclose⟩
      · exact ⟨.double, inner, rfl, hclose⟩
  · rintro ⟨q, body, rfl, h⟩
    refine ⟨.string, rfl, (Piece.Shape.string ?_ h).standsBefore⟩
    cases q
    · exact .inl rfl
    · exact .inr rfl

/-- A character of a string body that no backslash takes along. -/
theorem Quote.Encloses.plain {q : Quote} {c : Char} {t : Text} (h : q.Encloses (c :: t))
    (hesc : ∀ d u, c = '\\' → t ≠ d :: u) :
    c ≠ '\\' ∧ (c ≠ '\r' ∧ c ≠ '\n') ∧ q.Encloses t := by
  unfold Quote.Encloses at h
  rw [List.cons_append, closeString?.eq_def] at h
  simp only at h
  split at h
  · simp at h
  split at h
  · rename_i hc
    cases t with
    | nil => simp [closeString?] at h
    | cons d u => exact absurd rfl (hesc d u hc)
  rename_i hc
  split at h
  · cases h
  · rename_i hline
    obtain ⟨v, hv, heq⟩ := Option.map_eq_some_iff.1 h
    obtain rfl := (List.cons.inj heq).2
    exact ⟨hc, not_or.1 hline, hv⟩

theorem closeString?_requoteBody {q r : Quote} (hne : q ≠ r) {body : Text} (h : q.Encloses body) :
    r.Encloses (requoteBody q.char r.char body) := by
  have hchar : q.char ≠ r.char := by cases q <;> cases r <;> first | exact absurd rfl hne | decide
  unfold Quote.Encloses at h ⊢
  fun_induction requoteBody q.char r.char body with
  | case1 => exact Piece.closeString?_quote _ _
  | case2 t ih =>
    rw [List.cons_append, List.cons_append,
      Piece.closeString?_escape q.char_ne_backslash, Option.map_eq_some_iff] at h
    obtain ⟨v, hv, heq⟩ := h
    rw [List.cons_append, Piece.closeString?_plain hchar q.char_ne_backslash q.char_ne_return.1
      q.char_ne_return.2, ih (by simp_all)]
    rfl
  | case3 c t hc ih =>
    rw [List.cons_append, List.cons_append,
      Piece.closeString?_escape q.char_ne_backslash, Option.map_eq_some_iff] at h
    obtain ⟨v, hv, heq⟩ := h
    rw [List.cons_append, List.cons_append, Piece.closeString?_escape r.char_ne_backslash,
      ih (by simp_all)]
    rfl
  | case4 t hesc ih =>
    obtain ⟨-, -, ht⟩ := Quote.Encloses.plain h fun d u hc ht => hesc d u hc ht
    rw [List.cons_append, List.cons_append, Piece.closeString?_escape r.char_ne_backslash, ih ht]
    rfl
  | case5 c t hesc hc ih =>
    obtain ⟨hb, hline, ht⟩ := Quote.Encloses.plain h fun d u hc ht => hesc d u hc ht
    rw [List.cons_append, Piece.closeString?_plain hc hb hline.1 hline.2, ih ht]
    rfl

/-- A string with other quotes is a string again. -/
theorem exists_requote {q : Quote} {body : Text} (h : q.Encloses body) (r : Quote) :
    ∃ body', requote body q r = r.enclose body' ∧ r.Encloses body' := by
  by_cases hqr : q = r
  · subst hqr
    exact ⟨body, by simp [requote, Quote.enclose], h⟩
  · exact ⟨_, by simp [requote, Quote.enclose, hqr], closeString?_requoteBody hqr h⟩

end ImportOrder
