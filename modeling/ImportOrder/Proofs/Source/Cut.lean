import ImportOrder.Source.Piece
import Mathlib.Data.List.TakeWhile

/-!
# Cutting a text in context

Which piece stands at the start of a text is decided by the piece and the one character behind it,
unless it is the start of a string or comment that never ends. So pieces that were cut out of one
text can be put before another one, and are cut out of that as well.

## Main definitions

* `Piece.textOf`: the text of pieces
* `Piece.StandsBefore`: a piece is the first one of its text with another text behind
* `Piece.endsBefore`: whether a piece can end before a character
* `Piece.Chained`: pieces of which each ends where the next one starts
* `Piece.IsCut`: pieces that stand next to each other in some text

## Main results

* `Piece.standsBefore_iff`: a piece stands before a text if it stands alone and can end there
* `Piece.scan_of_chained`: chained pieces are the pieces of their text
* `Piece.chained_of_scan`: the pieces of a text are chained
-/

namespace ImportOrder

namespace Piece

/-- The text of pieces. -/
def textOf (ps : List Piece) : Text := ps.flatMap Piece.text

@[simp] theorem textOf_nil : textOf [] = [] := rfl

@[simp] theorem textOf_cons (p : Piece) (ps : List Piece) :
    textOf (p :: ps) = p.text ++ textOf ps := rfl

@[simp] theorem textOf_append (ps qs : List Piece) :
    textOf (ps ++ qs) = textOf ps ++ textOf qs := by
  simp [textOf]

@[simp] theorem textOf_scan (t : Text) : textOf (scan t) = t := flatMap_scan t

@[simp] theorem scan_nil : scan [] = [] := rfl

/-! ## One piece before a text -/

/-- **A piece stands before a text** if it is the first piece of its own text with the other one
behind. -/
def StandsBefore (p : Piece) (rest : Text) : Prop := scan (p.text ++ rest) = p :: scan rest

theorem standsBefore_iff_first {p : Piece} {rest : Text} :
    StandsBefore p rest ↔ ∃ c u, p.text = c :: u ∧ first c (u ++ rest) = p := by
  constructor
  · intro h
    cases ht : p.text with
    | nil =>
      have hlen := congrArg List.length h
      simp [ht] at hlen
    | cons c u =>
      rw [StandsBefore, ht, List.cons_append, scan_cons] at h
      exact ⟨c, u, rfl, (List.cons.inj h).1⟩
  · rintro ⟨c, u, ht, hf⟩
    rw [StandsBefore, ht, List.cons_append, scan_cons, hf, ht]
    simp

theorem StandsBefore.text_ne_nil {p : Piece} {rest : Text} (h : StandsBefore p rest) :
    p.text ≠ [] := by
  obtain ⟨c, u, ht, -⟩ := standsBefore_iff_first.1 h
  simp [ht]

/-- The first piece of a text stands before the rest of it. -/
theorem scan_eq_cons {t : Text} {p : Piece} {ps : List Piece} (h : scan t = p :: ps) :
    t = p.text ++ textOf ps ∧ StandsBefore p (textOf ps) ∧ scan (textOf ps) = ps := by
  have ht : t = p.text ++ textOf ps := by rw [← textOf_cons, ← h, textOf_scan]
  cases t with
  | nil => simp at h
  | cons c t =>
    rw [scan_cons] at h
    obtain ⟨rfl, rfl⟩ := List.cons.inj h
    obtain ⟨u, hu, v, rfl⟩ := first_prefix c t
    refine ⟨ht, standsBefore_iff_first.2 ⟨c, u, hu, ?_⟩, ?_⟩
    · rw [textOf_scan, hu]
      simp
    · rw [textOf_scan]

/-- Whether a piece can end where the given character, or the end of the text, comes next. -/
def endsBefore (p : Piece) (next : Option Char) : Bool :=
  match p.kind with
  | .newline => !(p.text == ['\r'] && next == some '\n')
  | .space => !next.any isSpace
  | .lineComment => next.all isLineTerminator
  | .name => !next.any isNamePart
  | .punct => !(p.text == ['/'] && (next == some '/' || next == some '*'))
  | .blockComment | .string | .bad => true

theorem takeWhile_append_eq_left_iff {f : Char → Bool} {u rest : Text} :
    (u ++ rest).takeWhile f = u ↔ u.takeWhile f = u ∧ rest.head?.any f = false := by
  induction u with
  | nil => cases rest <;> simp [List.takeWhile_cons]
  | cons c u ih => by_cases hc : f c <;> simp [hc, ih]

theorem closeString?_quote (q : Char) (t : Text) : closeString? q (q :: t) = some [q] := by
  rw [closeString?.eq_def]
  simp

theorem closeString?_escape {q : Char} (hq : q ≠ '\\') (d : Char) (t : Text) :
    closeString? q ('\\' :: d :: t) = (closeString? q t).map ('\\' :: d :: ·) := by
  rw [closeString?.eq_def]
  simp [hq.symm]

theorem closeString?_plain {q c : Char} (hq : c ≠ q) (hb : c ≠ '\\') (hr : c ≠ '\r')
    (hn : c ≠ '\n') (t : Text) : closeString? q (c :: t) = (closeString? q t).map (c :: ·) := by
  rw [closeString?.eq_def]
  simp [hq, hb, hr, hn]

/-- A block comment ends where it ends, whatever comes behind. -/
theorem closeBlockComment?_append {t body : Text} (h : closeBlockComment? t = some body)
    (rest : Text) : closeBlockComment? (body ++ rest) = some body := by
  fun_induction closeBlockComment? t generalizing body with
  | case1 => simp at h
  | case2 r => obtain rfl := Option.some.inj h; simp [closeBlockComment?]
  | case3 c r hc ih =>
    obtain ⟨u, hu, rfl⟩ := Option.map_eq_some_iff.1 h
    obtain ⟨v, rfl⟩ := closeBlockComment?_prefix hu
    have hne : ∀ w, c = '*' → u ++ rest ≠ '/' :: w := by
      rintro w rfl heq
      cases u with
      | nil =>
        have hnil := ih hu
        rw [heq, closeBlockComment?] at hnil
        · obtain ⟨x, -, hx⟩ := Option.map_eq_some_iff.1 hnil
          simp at hx
        · simp
      | cons d u => exact hc (u ++ v) rfl (by simp_all)
    rw [List.cons_append, closeBlockComment?, ih hu]
    · rfl
    · exact hne

/-- A string ends where it ends, whatever comes behind. -/
theorem closeString?_append {q : Char} {t body : Text} (h : closeString? q t = some body)
    (rest : Text) : closeString? q (body ++ rest) = some body := by
  fun_induction closeString? q t generalizing body with
  | case1 => simp at h
  | case2 t =>
    obtain rfl := Option.some.inj h
    exact closeString?_quote _ _
  | case3 => simp at h
  | case4 d u hq ih =>
    obtain ⟨v, hv, rfl⟩ := Option.map_eq_some_iff.1 h
    rw [List.cons_append, List.cons_append, closeString?_escape (Ne.symm hq), ih hv]
    rfl
  | case5 => simp at h
  | case6 c t hq hb hn ih =>
    obtain ⟨u, hu, rfl⟩ := Option.map_eq_some_iff.1 h
    obtain ⟨hr, hn⟩ := not_or.1 hn
    rw [List.cons_append, closeString?_plain hq hb hr hn, ih hu]
    rfl

/-- A string ends with its quote. -/
theorem exists_body_of_closeString? {q : Char} {t body : Text}
    (h : closeString? q t = some body) : ∃ inner, body = inner ++ [q] := by
  fun_induction closeString? q t generalizing body with
  | case1 => simp at h
  | case2 => exact ⟨[], (Option.some.inj h).symm⟩
  | case3 => simp at h
  | case4 d u _ ih =>
    obtain ⟨v, hv, rfl⟩ := Option.map_eq_some_iff.1 h
    obtain ⟨inner, rfl⟩ := ih hv
    exact ⟨'\\' :: d :: inner, rfl⟩
  | case5 => simp at h
  | case6 c t _ _ _ ih =>
    obtain ⟨v, hv, rfl⟩ := Option.map_eq_some_iff.1 h
    obtain ⟨inner, rfl⟩ := ih hv
    exact ⟨c :: inner, rfl⟩

/-- A block comment ends with its closing sign. -/
theorem exists_body_of_closeBlockComment? {t body : Text} (h : closeBlockComment? t = some body) :
    ∃ inner, body = inner ++ ['*', '/'] := by
  fun_induction closeBlockComment? t generalizing body with
  | case1 => simp at h
  | case2 => exact ⟨[], (Option.some.inj h).symm⟩
  | case3 c t _ ih =>
    obtain ⟨v, hv, rfl⟩ := Option.map_eq_some_iff.1 h
    obtain ⟨inner, rfl⟩ := ih hv
    exact ⟨c :: inner, rfl⟩

theorem closeBlockComment?_append_iff (u rest : Text) :
    closeBlockComment? (u ++ rest) = some u ↔ closeBlockComment? u = some u :=
  ⟨fun h => by simpa using closeBlockComment?_append h [],
   fun h => closeBlockComment?_append h rest⟩

theorem closeString?_append_iff (q : Char) (u rest : Text) :
    closeString? q (u ++ rest) = some u ↔ closeString? q u = some u :=
  ⟨fun h => by simpa using closeString?_append h [], fun h => closeString?_append h rest⟩

theorem ofSlash_append {u rest : Text} {k : PieceKind} (hk : k ≠ .bad) :
    ofSlash (u ++ rest) = ⟨k, '/' :: u⟩ ↔
      ofSlash u = ⟨k, '/' :: u⟩ ∧ endsBefore ⟨k, '/' :: u⟩ rest.head? = true := by
  cases u with
  | nil =>
    rw [List.nil_append, show ofSlash [] = ⟨.punct, ['/']⟩ from rfl]
    unfold ofSlash
    split
    · cases k <;> simp [endsBefore]
    · split <;> cases k <;> simp [endsBefore]
    · rename_i h₁ h₂
      cases rest with
      | nil => cases k <;> simp [endsBefore]
      | cons d rest =>
        have hd : d ≠ '/' ∧ d ≠ '*' := ⟨fun h => h₁ rest (by rw [h]), fun h => h₂ rest (by rw [h])⟩
        cases k <;> simp [endsBefore, hd]
  | cons d u =>
    by_cases hd : d = '/'
    · subst hd
      simp only [List.cons_append, ofSlash, Piece.mk.injEq, List.cons.injEq, true_and,
        takeWhile_append_eq_left_iff]
      cases k <;> cases rest <;> simp [endsBefore]
    by_cases hs : d = '*'
    · subst hs
      have hclose := closeBlockComment?_append_iff u rest
      simp only [List.cons_append, ofSlash]
      cases h₁ : closeBlockComment? (u ++ rest) <;> cases h₂ : closeBlockComment? u <;>
        rw [h₁, h₂] at hclose <;> cases k <;> simp_all [endsBefore]
    · simp [ofSlash, hd, hs]

theorem ofQuote_append {q : Char} {u rest : Text} {k : PieceKind} (hk : k ≠ .bad) :
    ofQuote q (u ++ rest) = ⟨k, q :: u⟩ ↔
      ofQuote q u = ⟨k, q :: u⟩ ∧ endsBefore ⟨k, q :: u⟩ rest.head? = true := by
  have hclose := closeString?_append_iff q u rest
  unfold ofQuote
  cases h₁ : closeString? q (u ++ rest) <;> cases h₂ : closeString? q u <;>
    rw [h₁, h₂] at hclose <;> cases k <;> simp_all [endsBefore]

/-- What the first piece of a text is depends on it and on the character behind it only. -/
theorem first_append {c : Char} {u rest : Text} {k : PieceKind} (hk : k ≠ .bad) :
    first c (u ++ rest) = ⟨k, c :: u⟩ ↔
      first c u = ⟨k, c :: u⟩ ∧ endsBefore ⟨k, c :: u⟩ rest.head? = true := by
  by_cases hr : c = '\r'
  · subst hr
    cases u with
    | nil => cases k <;> cases rest <;> simp [first, endsBefore, isLineTerminator] <;> grind
    | cons d u =>
      by_cases hd : d = '\n' <;> cases k <;> simp [first, endsBefore, isLineTerminator, hd]
  by_cases ht : isLineTerminator c
  · cases k <;> simp [first, endsBefore, hr, ht]
  by_cases hs : isSpace c
  · cases k <;> cases rest <;>
      simp [first, endsBefore, hr, ht, hs, takeWhile_append_eq_left_iff]
  by_cases hl : c = '/'
  · subst hl
    simpa [first, ht, hs] using ofSlash_append hk
  by_cases hq : c = '\x27' ∨ c = '"'
  · simpa [first, hr, ht, hs, hl, hq] using ofQuote_append hk
  by_cases hn : isNameStart c
  · cases k <;> cases rest <;>
      simp [first, endsBefore, hr, ht, hs, hl, hq, hn, takeWhile_append_eq_left_iff]
  · cases k <;> simp [first, hr, ht, hs, hl, hq, hn, endsBefore]

/-- A piece stands before a text if it stands alone and can end before the character that comes
next. -/
theorem standsBefore_iff {p : Piece} (hk : p.kind ≠ .bad) {rest : Text} :
    StandsBefore p rest ↔ StandsBefore p [] ∧ p.endsBefore rest.head? = true := by
  obtain ⟨k, t⟩ := p
  simp only [standsBefore_iff_first]
  constructor
  · rintro ⟨c, u, rfl, hf⟩
    obtain ⟨h₁, h₂⟩ := (first_append hk).1 hf
    exact ⟨⟨c, u, rfl, by simpa using h₁⟩, h₂⟩
  · rintro ⟨⟨c, u, rfl, hf⟩, h₂⟩
    exact ⟨c, u, rfl, (first_append hk).2 ⟨by simpa using hf, h₂⟩⟩

/-- The starts of strings and comments that never end. -/
def openings : List Text := ["/*".toList, ['\x27'], ['"']]

/-- A piece that never ends is one of the openings. -/
theorem text_mem_openings {c : Char} {t : Text} {p : Piece} (hf : first c t = p)
    (h : p.kind = .bad) : p.text ∈ openings := by
  unfold first ofSlash ofQuote at hf
  repeat' split at hf
  all_goals subst hf
  all_goals simp_all [openings]

theorem standsBefore_of_mem_openings {t : Text} (h : t ∈ openings) :
    StandsBefore ⟨.bad, t⟩ [] := by
  simp only [openings, List.mem_cons, List.not_mem_nil, or_false] at h
  rcases h with rfl | rfl | rfl <;> rfl

/-- A piece of a text also stands alone. -/
theorem StandsBefore.alone {p : Piece} {rest : Text} (h : StandsBefore p rest) :
    StandsBefore p [] := by
  by_cases hk : p.kind = .bad
  · obtain ⟨c, u, ht, hf⟩ := standsBefore_iff_first.1 h
    have hmem : p.text ∈ openings := text_mem_openings hf hk
    have hp := standsBefore_of_mem_openings hmem
    rwa [← hk] at hp
  · exact ((standsBefore_iff hk).1 h).1

theorem standsBefore_of_mem_scan {t : Text} {p : Piece} (h : p ∈ scan t) :
    StandsBefore p [] := by
  generalize hs : scan t = ps at h
  induction ps generalizing t with
  | nil => simp at h
  | cons q qs ih =>
    obtain ⟨-, hq, hqs⟩ := scan_eq_cons hs
    rcases List.mem_cons.1 h with rfl | h
    · exact hq.alone
    · exact ih hqs h

/-! ## What pieces look like -/

/-- **The shape of a piece** that stands alone. -/
inductive Shape : Piece → Prop
  | newline {c : Char} (h : isLineTerminator c = true) : Shape ⟨.newline, [c]⟩
  | crlf : Shape ⟨.newline, ['\r', '\n']⟩
  | space {t : Text} (hne : t ≠ []) (h : ∀ c ∈ t, isSpace c = true) : Shape ⟨.space, t⟩
  | lineComment {t : Text} (h : ∀ c ∈ t, isLineTerminator c = false) :
      Shape ⟨.lineComment, '/' :: '/' :: t⟩
  | blockComment {t : Text} (h : closeBlockComment? t = some t) :
      Shape ⟨.blockComment, '/' :: '*' :: t⟩
  | string {q : Char} {t : Text} (hq : q = '\x27' ∨ q = '"') (h : closeString? q t = some t) :
      Shape ⟨.string, q :: t⟩
  | bad {t : Text} (h : t ∈ openings) : Shape ⟨.bad, t⟩
  | name {c : Char} {t : Text} (ht : isLineTerminator c = false) (hs : isSpace c = false)
      (hc : isNameStart c = true) (h : ∀ d ∈ t, isNamePart d = true) : Shape ⟨.name, c :: t⟩
  | punct {c : Char} (ht : isLineTerminator c = false) (hs : isSpace c = false)
      (hq : c ≠ '\x27' ∧ c ≠ '"') (hn : isNameStart c = false) : Shape ⟨.punct, [c]⟩

theorem not_terminator_of_isSpace {c : Char} (h : isSpace c = true) :
    isLineTerminator c = false := by
  simp only [isSpace, Bool.or_eq_true, beq_iff_eq] at h
  rcases h with ((((rfl | rfl) | rfl) | rfl) | rfl) | rfl <;> rfl

theorem all_of_takeWhile_eq {f : Char → Bool} {t : Text} (h : t.takeWhile f = t) :
    ∀ c ∈ t, f c = true := List.takeWhile_eq_self_iff.1 h

theorem shape_ofSlash {u : Text} {p : Piece} (ht : p.text = '/' :: u) (h : ofSlash u = p) :
    Shape p := by
  unfold ofSlash at h
  split at h
  · rename_i t
    subst h
    have hall : t.takeWhile (!isLineTerminator ·) = t := by simpa using ht
    have hno : ∀ c ∈ t, isLineTerminator c = false := by
      simpa using all_of_takeWhile_eq hall
    rw [hall]
    exact .lineComment hno
  · rename_i t
    split at h
    · rename_i body hbody
      subst h
      obtain rfl : body = t := by simpa using ht
      exact .blockComment hbody
    · subst h
      exact .bad (by simp [openings])
  · subst h
    exact .punct rfl rfl (by decide) rfl

theorem shape_ofQuote {q : Char} {u : Text} {p : Piece} (hq : q = '\x27' ∨ q = '"')
    (ht : p.text = q :: u) (h : ofQuote q u = p) : Shape p := by
  unfold ofQuote at h
  split at h
  · rename_i body hbody
    subst h
    obtain rfl : body = u := by simpa using ht
    exact .string hq hbody
  · subst h
    exact .bad (by rcases hq with rfl | rfl <;> simp [openings])

theorem shape_of_first {c : Char} {u : Text} {p : Piece} (ht : p.text = c :: u)
    (h : first c u = p) : Shape p := by
  unfold first at h
  split at h
  · subst h
    exact .crlf
  split at h
  · rename_i hterm
    subst h
    exact .newline hterm
  rename_i hterm
  split at h
  · rename_i hspace
    subst h
    have hall : u.takeWhile isSpace = u := by simpa using ht
    rw [hall]
    exact .space (by simp) (by simpa [hspace] using all_of_takeWhile_eq hall)
  rename_i hspace
  split at h
  · rename_i hslash
    subst hslash
    exact shape_ofSlash ht h
  split at h
  · rename_i hq
    exact shape_ofQuote hq ht h
  rename_i hq
  split at h
  · rename_i hname
    subst h
    have hall : u.takeWhile isNamePart = u := by simpa using ht
    rw [hall]
    exact .name (by simpa using hterm) (by simpa using hspace) hname (all_of_takeWhile_eq hall)
  · rename_i hname
    subst h
    exact .punct (by simpa using hterm) (by simpa using hspace) (not_or.1 hq) (by simpa using hname)

theorem StandsBefore.shape {p : Piece} {rest : Text} (h : StandsBefore p rest) : Shape p := by
  obtain ⟨c, u, ht, hf⟩ := standsBefore_iff_first.1 h.alone
  exact shape_of_first ht (by simpa using hf)

/-- Every piece of a given shape stands alone. -/
theorem Shape.standsBefore {p : Piece} (h : Shape p) : StandsBefore p [] := by
  -- Every earlier test of `first` has to fail, which is what the other parts of a shape are for.
  rw [standsBefore_iff_first]
  cases h with
  | @newline c h => exact ⟨c, [], rfl, by simp [first, h]⟩
  | crlf => exact ⟨'\r', ['\n'], rfl, rfl⟩
  | @space t hne h =>
    obtain ⟨c, u, rfl⟩ := List.exists_cons_of_ne_nil hne
    have hc := h c (by simp)
    have hu : u.takeWhile isSpace = u :=
      List.takeWhile_eq_self_iff.2 fun d hd => h d (by simp [hd])
    have hcr : c ≠ '\r' := by rintro rfl; cases hc
    exact ⟨c, u, rfl, by simp [first, hc, not_terminator_of_isSpace hc, hu, hcr]⟩
  | @lineComment t h =>
    have ht : t.takeWhile (!isLineTerminator ·) = t :=
      List.takeWhile_eq_self_iff.2 fun d hd => by simp [h d hd]
    have hterm : isLineTerminator '/' = false := rfl
    have hspace : isSpace '/' = false := rfl
    exact ⟨'/', '/' :: t, rfl, by simp [first, ofSlash, hterm, hspace, ht]⟩
  | @blockComment t h =>
    exact ⟨'/', '*' :: t, rfl, by simp [first, ofSlash, isLineTerminator, isSpace, h]⟩
  | @string q t hq h =>
    rcases hq with rfl | rfl
    · exact ⟨_, t, rfl, by simp [first, ofQuote, isLineTerminator, isSpace, h]⟩
    · exact ⟨_, t, rfl, by simp [first, ofQuote, isLineTerminator, isSpace, h]⟩
  | bad h => exact standsBefore_iff_first.1 (standsBefore_of_mem_openings h)
  | @name c t ht hs hc h =>
    have hcr : c ≠ '\r' := by rintro rfl; cases ht
    have hslash : c ≠ '/' := by rintro rfl; cases hc
    have hq : ¬(c = '\x27' ∨ c = '"') := by rintro (rfl | rfl) <;> cases hc
    have hall : t.takeWhile isNamePart = t := List.takeWhile_eq_self_iff.2 h
    exact ⟨c, t, rfl, by simp [first, hcr, ht, hs, hslash, hq, hc, hall]⟩
  | @punct c ht hs hq hn =>
    refine ⟨c, [], rfl, ?_⟩
    by_cases hslash : c = '/'
    · subst hslash
      rfl
    · simp [first, ht, hs, hq, hn, hslash]

/-! ## Pieces before a text -/

/-- **Chained pieces**: each stands alone and ends where the next one starts; `next` is the
character behind the last. -/
def Chained : List Piece → (next : Option Char) → Prop
  | [], _ => True
  | p :: ps, next =>
    p.kind ≠ .bad ∧ StandsBefore p [] ∧ p.endsBefore ((textOf ps).head?.or next) = true ∧
      Chained ps next

@[simp] theorem chained_nil (next : Option Char) : Chained [] next := trivial

theorem chained_append {ps qs : List Piece} {next : Option Char} :
    Chained (ps ++ qs) next ↔ Chained ps ((textOf qs).head?.or next) ∧ Chained qs next := by
  induction ps with
  | nil => simp
  | cons p ps ih => simp [Chained, ih, List.head?_append, Option.or_assoc, and_assoc]

/-- Chained pieces are the pieces of their text. -/
theorem scan_of_chained {ps : List Piece} {rest : Text} (h : Chained ps rest.head?) :
    scan (textOf ps ++ rest) = ps ++ scan rest := by
  induction ps with
  | nil => rfl
  | cons p ps ih =>
    obtain ⟨hk, halone, hend, hps⟩ := h
    have hp : StandsBefore p (textOf ps ++ rest) :=
      (standsBefore_iff hk).2 ⟨halone, by rwa [List.head?_append]⟩
    rw [textOf_cons, List.append_assoc, hp, ih hps, List.cons_append]

/-- The pieces of a text are chained, unless one is the start of something that never ends. -/
theorem chained_of_scan {ps : List Piece} {rest : Text}
    (h : scan (textOf ps ++ rest) = ps ++ scan rest) (hbad : ∀ p ∈ ps, p.kind ≠ .bad) :
    Chained ps rest.head? := by
  induction ps with
  | nil => trivial
  | cons p ps ih =>
    rw [List.cons_append] at h
    obtain ⟨-, hp, hps⟩ := scan_eq_cons h
    have hk := hbad p (by simp)
    rw [textOf_append, textOf_scan] at hp hps
    have hp := (standsBefore_iff hk).1 hp
    refine ⟨hk, hp.1, by rw [← List.head?_append]; exact hp.2, ih hps fun q hq => hbad q ?_⟩
    exact List.mem_cons_of_mem p hq

theorem scan_textOf_right {ps qs : List Piece} (h : scan (textOf (ps ++ qs)) = ps ++ qs) :
    scan (textOf qs) = qs := by
  induction ps with
  | nil => exact h
  | cons p ps ih =>
    obtain ⟨-, -, hps⟩ := scan_eq_cons h
    exact ih hps

theorem endsBefore_none (p : Piece) : p.endsBefore none = true := by
  obtain ⟨kind, text⟩ := p
  cases kind <;> simp [endsBefore]

theorem Chained.standsBefore {ps : List Piece} {next : Option Char} (h : Chained ps next) :
    ∀ p ∈ ps, StandsBefore p [] := by
  induction ps with
  | nil => simp
  | cons p ps ih =>
    obtain ⟨-, hp, -, hps⟩ := h
    intro q hq
    rcases List.mem_cons.1 hq with rfl | hq
    · exact hp
    · exact ih hps q hq

theorem Chained.alone {ps : List Piece} {next : Option Char} (h : Chained ps next) :
    Chained ps none := by
  induction ps with
  | nil => trivial
  | cons p ps ih =>
    obtain ⟨hk, hs, hend, hps⟩ := h
    refine ⟨hk, hs, ?_, ih hps⟩
    cases hhead : (textOf ps).head? with
    | none => exact endsBefore_none p
    | some c =>
      rw [hhead] at hend
      exact hend

/-- Pieces that end with one that ends before a character are chained before it. -/
theorem Chained.before {ps : List Piece} {next : Option Char} (h : Chained ps none)
    (hlast : ∀ p ∈ ps.getLast?, p.endsBefore next = true) : Chained ps next := by
  rcases List.eq_nil_or_concat ps with rfl | ⟨init, p, rfl⟩
  · trivial
  · rw [List.concat_eq_append] at h hlast ⊢
    rw [chained_append] at h ⊢
    obtain ⟨hinit, hk, hs, -, -⟩ := h
    have hhead : ∀ o, (textOf [p]).head?.or o = p.text.head? := by
      intro o
      obtain ⟨c, u, hc⟩ := List.exists_cons_of_ne_nil hs.text_ne_nil
      simp [hc]
    rw [hhead] at hinit ⊢
    exact ⟨hinit, hk, hs, by simpa using hlast p (by simp), trivial⟩

/-- **Pieces cut out of a text**, next to each other. -/
def IsCut (ps : List Piece) : Prop := ∃ rest, scan (textOf ps ++ rest) = ps ++ scan rest

theorem isCut_of_scan {ps : List Piece} (h : scan (textOf ps) = ps) : IsCut ps :=
  ⟨[], by simpa using h⟩

namespace IsCut

variable {ps qs : List Piece}

theorem right (h : IsCut (ps ++ qs)) : IsCut qs := by
  obtain ⟨rest, h⟩ := h
  refine ⟨rest, ?_⟩
  induction ps with
  | nil => exact h
  | cons p ps ih =>
    obtain ⟨-, -, hps⟩ := scan_eq_cons h
    apply ih
    simpa using hps

theorem left (h : IsCut (ps ++ qs)) : IsCut ps := by
  obtain ⟨rest, h⟩ := h
  refine ⟨textOf qs ++ rest, ?_⟩
  induction ps with
  | nil => rfl
  | cons p ps ih =>
    rw [List.cons_append, List.cons_append] at h
    obtain ⟨-, hp, hps⟩ := scan_eq_cons h
    rw [textOf_append, textOf_scan] at hp hps
    have hrow := ih hps
    rw [textOf_append, List.append_assoc] at hp
    rw [textOf_cons, List.append_assoc, hp, hrow]
    rfl

theorem standsBefore (h : IsCut ps) : ∀ p ∈ ps, StandsBefore p [] := by
  obtain ⟨rest, h⟩ := h
  intro p hp
  apply @standsBefore_of_mem_scan (textOf ps ++ rest)
  rw [h]
  exact List.mem_append_left _ hp

theorem chained (h : IsCut ps) (hbad : ∀ p ∈ ps, p.kind ≠ .bad) : Chained ps none := by
  obtain ⟨rest, h⟩ := h
  exact (chained_of_scan h hbad).alone

end IsCut

end Piece

end ImportOrder
