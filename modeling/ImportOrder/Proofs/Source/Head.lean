import ImportOrder.Proofs.Results
import ImportOrder.Proofs.Source.Layout
import ImportOrder.Region

/-!
# Heads and their layouts

A source is its shebang, the pieces of its directives, segments, a gap, and code. Such a layout
says all that reading the source gives: where directives, declarations and comments stand, and
where code starts.

## Main definitions

* `Parser.Directives`: the tokens of directives
* `Layout`: a source as rows of pieces
* `Layout.IsFound`, `Layout.IsValid`: the layout of a source, and of a source with imports
* `Layout.head`: the head of a layout
* `Layout.withCode`: a layout with other code

## Main results

* `Layout.parse_source`: a laid out source is read as the head of its layout
* `Layout.exists_found`, `Layout.exists_of_parse`: a source that is read has a layout
-/

namespace ImportOrder

open Piece (textOf)

namespace Parser

/-! ## Directives -/

/-- The tokens behind a directive without semicolon: none, or another line. -/
def StartsOther (rest : List Token) : Prop :=
  ∀ t ∈ rest.head?, t.newlineBefore = true ∧ t.text ≠ [';']

/-- **The tokens of directives**, their stretches, and whether the last one has no semicolon. -/
inductive Directives : List Token → List Span → Bool → Prop
  | nil : Directives [] [] false
  | closed {t u : Token} {us : List Token} {ds : List Span} {isOpen : Bool}
      (ht : t.kind = .string) (hu : u.text = [';']) (h : Directives us ds isOpen) :
      Directives (t :: u :: us) (⟨t.start, u.stop⟩ :: ds) isOpen
  | ended {t u : Token} {us : List Token} {ds : List Span} {isOpen : Bool}
      (ht : t.kind = .string) (hline : u.newlineBefore = true) (hu : u.text ≠ [';'])
      (h : Directives (u :: us) ds isOpen) :
      Directives (t :: u :: us) (⟨t.start, t.stop⟩ :: ds) isOpen
  | last {t : Token} (ht : t.kind = .string) : Directives [t] [⟨t.start, t.stop⟩] true

/-- Reading directives finds their tokens. -/
theorem directives_eq {ts rest : List Token} {ds : List Span} (h : directives ts = (ds, rest)) :
    ∃ us isOpen, ts = us ++ rest ∧ Directives us ds isOpen ∧
      (isOpen = true → StartsOther rest) := by
  fun_induction directives ts generalizing ds rest with
  | case1 =>
    obtain ⟨rfl, rfl⟩ := Prod.mk.inj h
    exact ⟨[], false, rfl, .nil, by simp⟩
  | case2 t ht =>
    obtain ⟨rfl, rfl⟩ := Prod.mk.inj h
    exact ⟨[t], true, rfl, .last ht, fun _ u hu => by simp at hu⟩
  | case3 t ht u ts hsemi ds' rest' heq ih =>
    obtain ⟨rfl, rfl⟩ := Prod.mk.inj h
    obtain ⟨us, isOpen, rfl, hus, hrest⟩ := ih heq
    exact ⟨t :: u :: us, isOpen, rfl, .closed ht (Token.is_iff.1 hsemi) hus, hrest⟩
  | case4 t ht u ts hsemi hline ds' rest' heq ih =>
    obtain ⟨rfl, rfl⟩ := Prod.mk.inj h
    obtain ⟨us, isOpen, hts, hus, hrest⟩ := ih heq
    have hu : u.text ≠ [';'] := fun htext => hsemi (Token.is_iff.2 htext)
    cases us with
    | nil =>
      obtain rfl : u :: ts = rest' := hts
      cases hus
      exact ⟨[t], true, rfl, .last ht, fun _ v hv => by
        obtain rfl : u = v := by simpa using hv
        exact ⟨hline, hu⟩⟩
    | cons v us =>
      obtain ⟨rfl, rfl⟩ := List.cons.inj hts
      exact ⟨t :: u :: us, isOpen, rfl, .ended ht hline hu hus, hrest⟩
  | case5 t ht u ts hsemi hline =>
    obtain ⟨rfl, rfl⟩ := Prod.mk.inj h
    exact ⟨[], false, rfl, .nil, by simp⟩
  | case6 t ts ht =>
    obtain ⟨rfl, rfl⟩ := Prod.mk.inj h
    exact ⟨[], false, rfl, .nil, by simp⟩

theorem directives_of_not_string {rest : List Token}
    (h : ∀ t ∈ rest.head?, t.kind ≠ .string) : directives rest = ([], rest) := by
  cases rest with
  | nil => rfl
  | cons t rest =>
    rw [directives.eq_def]
    simp [h t rfl]

/-- Directives are read up to what is none. -/
theorem directives_append {us rest : List Token} {ds : List Span} {isOpen : Bool}
    (h : Directives us ds isOpen) (hline : isOpen = true → StartsOther rest)
    (hrest : ∀ t ∈ rest.head?, t.kind ≠ .string) : directives (us ++ rest) = (ds, rest) := by
  induction h with
  | nil => exact directives_of_not_string hrest
  | closed ht hu _ ih => simp [directives, ht, Token.is, hu, ih hline]
  | ended ht hnew hu _ ih =>
    have ih := ih hline
    rw [List.cons_append] at ih
    simp [directives, ht, Token.is, hu, hnew, ih]
  | @last t ht =>
    cases rest with
    | nil => simp [directives, ht]
    | cons u rest =>
      obtain ⟨hnew, hu⟩ := hline rfl u rfl
      have hnone := directives_of_not_string hrest
      rw [List.singleton_append, directives, if_pos ht]
      simp [Token.is, hu, hnew, hnone]

/-- Every directive ends where one of the tokens ends. -/
theorem Directives.stop_mem {us : List Token} {ds : List Span} {isOpen : Bool}
    (h : Directives us ds isOpen) {s : Span} (hs : s ∈ ds) : ∃ t ∈ us, s.stop = t.stop := by
  induction h with
  | nil => simp at hs
  | @closed t u us ds isOpen _ _ _ ih =>
    rcases List.mem_cons.1 hs with rfl | hs
    · exact ⟨u, by simp, rfl⟩
    · obtain ⟨v, hv, hstop⟩ := ih hs
      exact ⟨v, by simp [hv], hstop⟩
  | @ended t u us ds isOpen _ _ _ _ ih =>
    rcases List.mem_cons.1 hs with rfl | hs
    · exact ⟨t, by simp, rfl⟩
    · obtain ⟨v, hv, hstop⟩ := ih hs
      exact ⟨v, List.mem_cons_of_mem t hv, hstop⟩
  | @last t _ =>
    obtain rfl := List.mem_singleton.1 hs
    exact ⟨t, by simp, rfl⟩

/-- The last directive ends with the last token. -/
theorem Directives.getLast {us : List Token} {ds : List Span} {isOpen : Bool}
    (h : Directives us ds isOpen) {t : Token} (ht : us.getLast? = some t) :
    ∃ s ∈ ds, s.stop = t.stop := by
  induction h with
  | nil => simp at ht
  | @closed t' u us ds isOpen _ _ _ ih =>
    rw [List.getLast?_cons_cons, List.getLast?_cons] at ht
    cases hlast : us.getLast? with
    | none =>
      obtain rfl : u = t := by simpa [hlast] using ht
      exact ⟨_, List.mem_cons_self, rfl⟩
    | some v =>
      obtain rfl : v = t := by simpa [hlast] using ht
      obtain ⟨s, hs, hstop⟩ := ih hlast
      exact ⟨s, List.mem_cons_of_mem _ hs, hstop⟩
  | @ended t' u us ds isOpen _ _ _ _ ih =>
    rw [List.getLast?_cons_cons] at ht
    obtain ⟨s, hs, hstop⟩ := ih ht
    exact ⟨s, List.mem_cons_of_mem _ hs, hstop⟩
  | @last t' _ =>
    obtain rfl : t' = t := by simpa using ht
    exact ⟨_, List.mem_cons_self, rfl⟩

end Parser

/-! ## What stands before the imports -/

/-- **The shebang and the directives** of a source, and the stretches of the directives. -/
structure Prologue where
  shebang : Text
  directives : List Piece
  spans : List Span

namespace Prologue

/-- The text of a prologue and the pieces behind it. -/
def source (pr : Prologue) (ps : List Piece) : Text := pr.shebang ++ textOf (pr.directives ++ ps)

/-- Where the directives end. -/
def floor (pr : Prologue) : Nat := pr.shebang.length + (textOf pr.directives).length

/-- **A prologue before other pieces**: the shebang and the directives end where they should. -/
structure IsBefore (pr : Prologue) (ps : List Piece) : Prop where
  shebang : shebangLength (pr.source ps) = pr.shebang.length
  pieces : Piece.scan (textOf (pr.directives ++ ps)) = pr.directives ++ ps
  directives : ∃ isOpen,
    Parser.Directives (Token.ofPieces pr.shebang.length false pr.directives) pr.spans isOpen ∧
      (isOpen = true → Parser.StartsOther (Token.ofPieces pr.floor false ps))
  directivesEnd : ∀ p ∈ pr.directives.getLast?, p.isGap = false
  rest : ∀ t ∈ (Token.ofPieces pr.floor false ps).head?, t.kind ≠ .string

variable {d : Dialect} {pr : Prologue} {ps : List Piece}

theorem IsBefore.directives_eq (h : pr.IsBefore ps) :
    Parser.directives (Token.ofPieces pr.shebang.length false (pr.directives ++ ps)) =
      (pr.spans, Token.ofPieces pr.floor false ps) := by
  obtain ⟨isOpen, hdir, hline⟩ := h.directives
  rw [Token.ofPieces_append, Token.pending_of_getLast? h.directivesEnd]
  exact Parser.directives_append hdir hline h.rest

/-- **A prologue that is read before other pieces**, whatever their first token is. -/
structure IsRead (pr : Prologue) (ps : List Piece) : Prop where
  shebang : shebangLength (pr.source ps) = pr.shebang.length
  pieces : Piece.scan (textOf (pr.directives ++ ps)) = pr.directives ++ ps
  directives : ∃ isOpen,
    Parser.Directives (Token.ofPieces pr.shebang.length false pr.directives) pr.spans isOpen ∧
      (isOpen = true → Parser.StartsOther (Token.ofPieces pr.floor false ps))
  directivesEnd : ∀ p ∈ pr.directives.getLast?, p.isGap = false
  directives_eq : Parser.directives (Token.ofPieces pr.shebang.length false (pr.directives ++ ps)) =
    (pr.spans, Token.ofPieces pr.floor false ps)

theorem IsBefore.isRead (h : pr.IsBefore ps) : pr.IsRead ps :=
  ⟨h.shebang, h.pieces, h.directives, h.directivesEnd, h.directives_eq⟩

theorem IsRead.standsBefore (h : pr.IsRead ps) :
    ∀ p ∈ pr.directives ++ ps, Piece.StandsBefore p [] := by
  intro p hp
  rw [← h.pieces] at hp
  exact Piece.standsBefore_of_mem_scan hp

/-- Reading a source goes on behind its prologue. -/
theorem parse_source (h : pr.IsRead ps) :
    Head.parse (pr.source ps) d =
      (Parser.imports (pr.source ps).length d (pr.source ps) (Token.ofPieces pr.floor false ps)).map
        fun (decls, rest) => {
          source := pr.source ps
          dialect := d
          shebangEnd := pr.shebang.length
          directives := pr.spans
          imports := decls
          comments := (Comment.ofPieces pr.shebang.length (pr.directives ++ ps)).filter
            (·.start < (rest.head?.map Token.start).getD (pr.source ps).length)
          codeStart := rest.head?.map Token.start } := by
  have hdrop : (pr.source ps).drop pr.shebang.length = textOf (pr.directives ++ ps) :=
    List.drop_left
  simp only [Head.parse, h.shebang, hdrop, h.pieces, h.directives_eq]
  generalize Parser.imports _ _ _ _ = r
  cases r <;> rfl

theorem shebangLength_le (source : Text) : shebangLength source ≤ source.length := by
  unfold shebangLength
  split
  · exact (List.takeWhile_prefix _).length_le
  · exact Nat.zero_le _

/-- The pieces of directives, and what follows. -/
theorem exists_directives {offset : Nat} {ps : List Piece} {us ts : List Token}
    (h : Token.ofPieces offset false ps = us ++ ts) :
    ∃ ds rest, ps = ds ++ rest ∧ (∀ p ∈ ds.getLast?, p.isGap = false) ∧
      Token.ofPieces offset false ds = us ∧
      Token.ofPieces (offset + (textOf ds).length) false rest = ts := by
  by_cases hus : us = []
  · subst hus
    exact ⟨[], ps, rfl, by simp, rfl, by simpa using h⟩
  · obtain ⟨gap, run, rest, rfl, hgap, hrun, hustok, hts⟩ := Token.exists_run h hus
    refine ⟨gap ++ run, rest, rfl, ?_, ?_, ?_⟩
    · obtain ⟨init, p, rfl, hp⟩ := hrun.last
      intro q hq
      obtain rfl : p = q := by simpa [← List.append_assoc] using hq
      exact hp
    · rw [Token.ofPieces_gap_append hgap]
      exact hustok
    · rw [Piece.textOf_append, List.length_append, ← Nat.add_assoc]
      exact hts

/-- **Every source has a prologue**: its shebang, the directives and the pieces behind them. -/
theorem exists_isRead (source : Text) :
    ∃ (pr : Prologue) (ps : List Piece), pr.IsRead ps ∧ pr.source ps = source := by
  have hshebang : (source.take (shebangLength source)).length = shebangLength source :=
    List.length_take_of_le (shebangLength_le source)
  generalize hps : Piece.scan (source.drop (shebangLength source)) = ps
  have htext : textOf ps = source.drop (shebangLength source) := by
    rw [← hps, Piece.textOf_scan]
  cases hdirs : Parser.directives (Token.ofPieces (shebangLength source) false ps) with
  | mk spans ts =>
    obtain ⟨us, isOpen, hus, hdir, hopen⟩ := Parser.directives_eq hdirs
    obtain ⟨ds, qs, rfl, hdsEnd, rfl, rfl⟩ := exists_directives hus
    have hsource : source.take (shebangLength source) ++ textOf (ds ++ qs) = source := by
      rw [htext, List.take_append_drop]
    refine ⟨⟨source.take (shebangLength source), ds, spans⟩, qs, ⟨?_, ?_, ⟨isOpen, ?_, ?_⟩, hdsEnd,
      ?_⟩, hsource⟩
    · exact (congrArg shebangLength hsource).trans hshebang.symm
    · show Piece.scan (textOf (ds ++ qs)) = ds ++ qs
      rw [htext, hps]
    · show Parser.Directives (Token.ofPieces (source.take _).length false ds) spans isOpen
      rw [hshebang]
      exact hdir
    · show isOpen = true → Parser.StartsOther (Token.ofPieces ((source.take _).length + _) false qs)
      rw [hshebang]
      exact hopen
    · show Parser.directives (Token.ofPieces (source.take _).length false (ds ++ qs)) =
        (spans, Token.ofPieces ((source.take _).length + _) false qs)
      rw [hshebang, hdirs]

end Prologue

/-! ## Layouts -/

/-- **A source as rows of pieces**: the shebang, the directives with their stretches, segments, a
gap, and code. -/
structure Layout where
  shebang : Text
  directives : List Piece
  spans : List Span
  segments : List Segment
  gap : List Piece
  code : List Piece

namespace Layout

/-- The pieces before the code. -/
def headPieces (l : Layout) : List Piece := l.directives ++ (Segment.row l.segments ++ l.gap)

/-- The pieces of a layout. -/
def pieces (l : Layout) : List Piece :=
  l.directives ++ (Segment.row l.segments ++ (l.gap ++ l.code))

/-- The text of a layout. -/
def source (l : Layout) : Text := l.shebang ++ textOf l.pieces

/-- Where the directives end. -/
def floor (l : Layout) : Nat := l.shebang.length + (textOf l.directives).length

/-- Where the code starts, or else the source ends. -/
def headEnd (l : Layout) : Nat := l.shebang.length + (textOf l.headPieces).length

/-- **The layout of a source** with imports. -/
structure IsValid (d : Dialect) (l : Layout) : Prop where
  shebang : shebangLength l.source = l.shebang.length
  pieces : Piece.scan (textOf l.pieces) = l.pieces
  directives : ∃ isOpen,
    Parser.Directives (Token.ofPieces l.shebang.length false l.directives) l.spans isOpen ∧
      ∀ g ∈ l.segments.head?, isOpen = true → g.gap.any Piece.endsLine = true
  directivesEnd : ∀ p ∈ l.directives.getLast?, p.isGap = false
  nonempty : l.segments ≠ []
  segments : Segment.AreValid d l.segments (l.gap ++ l.code)
  gap : ∀ p ∈ l.gap, p.isGap
  code : ∀ p ∈ l.code.head?, p.isGap = false
  codeStart : Parser.startsImport 0 (Token.ofPieces 0 false (l.gap ++ l.code)) = false

/-- **The layout of a source**, with imports or without. -/
structure IsFound (d : Dialect) (l : Layout) : Prop where
  shebang : shebangLength l.source = l.shebang.length
  pieces : Piece.scan (textOf l.pieces) = l.pieces
  directives : ∃ isOpen,
    Parser.Directives (Token.ofPieces l.shebang.length false l.directives) l.spans isOpen ∧
      (isOpen = true → Parser.StartsOther
        (Token.ofPieces l.floor false (Segment.row l.segments ++ (l.gap ++ l.code))))
  directivesEnd : ∀ p ∈ l.directives.getLast?, p.isGap = false
  segments : Segment.AreValid d l.segments (l.gap ++ l.code)
  gap : ∀ p ∈ l.gap, p.isGap
  code : ∀ p ∈ l.code.head?, p.isGap = false
  codeStart : Parser.startsImport 0 (Token.ofPieces 0 false (l.gap ++ l.code)) = false

/-- The head of a layout. -/
def head (d : Dialect) (l : Layout) : Head where
  source := l.source
  dialect := d
  shebangEnd := l.shebang.length
  directives := l.spans
  imports := Segment.decls l.floor l.segments
  comments := Comment.ofPieces l.shebang.length l.headPieces
  codeStart := if l.code.isEmpty then none else some l.headEnd

variable {d : Dialect} {l : Layout}

theorem IsValid.standsBefore (h : l.IsValid d) : ∀ p ∈ l.pieces, Piece.StandsBefore p [] := by
  intro p hp
  rw [← h.pieces] at hp
  exact Piece.standsBefore_of_mem_scan hp

theorem pieces_eq (l : Layout) : l.pieces = l.headPieces ++ l.code := by
  simp [pieces, headPieces]

/-- The first token of segments, whatever follows them. -/
theorem ofPieces_row {gs : List Segment} {tail : List Piece} (hgs : Segment.AreValid d gs tail)
    {g : Segment} (hg : g ∈ gs.head?) (offset : Nat) (after : List Piece) :
    ∃ ts, Token.ofPieces offset false (Segment.row gs ++ after) =
      ⟨.name, "import".toList, offset + (textOf g.gap).length, g.gap.any Piece.endsLine⟩ :: ts := by
  obtain ⟨gs, rfl⟩ := List.head?_eq_some_iff.1 hg
  obtain ⟨hgap, hs, -⟩ := hgs
  obtain ⟨ps, hps, -⟩ := hs.clause
  rw [Segment.row_cons, List.append_assoc, Token.ofPieces_gap_append hgap, Sentence.pieces, hps]
  exact ⟨_, by simp [Token.ofPieces, PieceKind.token?]; rfl⟩

/-- The prologue of a layout. -/
def prologue (l : Layout) : Prologue := ⟨l.shebang, l.directives, l.spans⟩

/-- A layout with other code. -/
def withCode (l : Layout) (code : List Piece) : Layout := { l with code }

/-- The prologue of a layout also stands before other code. -/
theorem IsValid.prologue_withCode (h : l.IsValid d) {code : List Piece}
    (hshebang : shebangLength (l.withCode code).source = l.shebang.length)
    (hscan : Piece.scan (textOf (l.withCode code).pieces) = (l.withCode code).pieces) :
    l.prologue.IsBefore (Segment.row l.segments ++ (l.gap ++ code)) := by
  obtain ⟨isOpen, hdir, hline⟩ := h.directives
  obtain ⟨g, gs, hgs⟩ := List.exists_cons_of_ne_nil h.nonempty
  have hg : g ∈ l.segments.head? := by simp [hgs]
  obtain ⟨ts, hts⟩ := ofPieces_row h.segments hg l.floor (l.gap ++ code)
  refine ⟨hshebang, hscan, ⟨isOpen, hdir, ?_⟩, h.directivesEnd, ?_⟩
  · intro hopen t ht
    obtain rfl := Option.some.inj ((congrArg List.head? hts).symm.trans ht)
    exact ⟨hline g hg hopen, by simp⟩
  · intro t ht
    obtain rfl := Option.some.inj ((congrArg List.head? hts).symm.trans ht)
    simp

theorem IsValid.prologue (h : l.IsValid d) :
    l.prologue.IsBefore (Segment.row l.segments ++ (l.gap ++ l.code)) :=
  h.prologue_withCode h.shebang h.pieces

theorem IsValid.isFound (h : l.IsValid d) : l.IsFound d :=
  ⟨h.shebang, h.pieces, h.prologue.directives, h.directivesEnd, h.segments, h.gap, h.code,
    h.codeStart⟩

/-- A layout with imports. -/
theorem IsFound.isValid (h : l.IsFound d) (hne : l.segments ≠ []) : l.IsValid d := by
  obtain ⟨isOpen, hdir, hother⟩ := h.directives
  refine ⟨h.shebang, h.pieces, ⟨isOpen, hdir, ?_⟩, h.directivesEnd, hne, h.segments, h.gap, h.code,
    h.codeStart⟩
  intro g hg hopen
  obtain ⟨ts, hts⟩ := ofPieces_row h.segments hg l.floor (l.gap ++ l.code)
  have hline := hother hopen
  rw [hts] at hline
  exact (hline _ rfl).1

theorem source_eq (l : Layout) : l.source = l.shebang ++ textOf l.headPieces ++ textOf l.code := by
  rw [source, pieces_eq, Piece.textOf_append, List.append_assoc]

theorem length_source (l : Layout) : l.source.length = l.headEnd + (textOf l.code).length := by
  rw [source_eq, List.length_append, List.length_append, headEnd]

/-- The head ends where the code starts, or else the source ends. -/
theorem getD_codeStart (l : Layout) (d : Dialect) :
    (l.head d).codeStart.getD l.source.length = l.headEnd := by
  rw [head]
  cases hcode : l.code with
  | nil => simp [length_source, hcode]
  | cons p code => simp

namespace IsFound

theorem standsBefore (h : l.IsFound d) : ∀ p ∈ l.pieces, Piece.StandsBefore p [] := by
  intro p hp
  rw [← h.pieces] at hp
  exact Piece.standsBefore_of_mem_scan hp

theorem head?_code (h : l.IsFound d) (offset : Nat) :
    (Token.ofPieces offset false (l.gap ++ l.code)).head?.map Token.start =
      if l.code.isEmpty then none else some (offset + (textOf l.gap).length) := by
  rw [Token.ofPieces_gap_append h.gap]
  cases hcode : l.code with
  | nil => simp
  | cons p code =>
    obtain ⟨k, hk⟩ := Piece.exists_token_of_isGap (h.code p (by simp [hcode]))
    simp [Token.ofPieces, hk]

/-- The comments of the head are those before the code. -/
theorem filter_comments (h : l.IsFound d) :
    (Comment.ofPieces l.shebang.length l.pieces).filter
        (fun c => c.start < (if l.code.isEmpty then none else some l.headEnd).getD
          l.source.length) = Comment.ofPieces l.shebang.length l.headPieces := by
  have hne : ∀ p ∈ l.pieces, p.text ≠ [] := fun p hp => (h.standsBefore p hp).text_ne_nil
  have hlimit : (if l.code.isEmpty then none else some l.headEnd).getD l.source.length =
      l.headEnd := getD_codeStart l d
  rw [hlimit, pieces_eq, Comment.ofPieces_append, List.filter_append]
  rw [pieces_eq] at hne
  have hhead : (Comment.ofPieces l.shebang.length l.headPieces).filter
      (fun c => c.start < l.headEnd) = Comment.ofPieces l.shebang.length l.headPieces := by
    refine List.filter_eq_self.2 fun c hc => ?_
    exact decide_eq_true
      (Comment.mem_ofPieces_lt (fun p hp => hne p (List.mem_append_left _ hp)) hc).2
  have hcode : (Comment.ofPieces l.headEnd l.code).filter (fun c => c.start < l.headEnd) = [] := by
    refine List.filter_eq_nil_iff.2 fun c hc => ?_
    have := (Comment.mem_ofPieces_lt (fun p hp => hne p (List.mem_append_right _ hp)) hc).1
    simpa using this
  rw [hhead, ← headEnd, hcode, List.append_nil]

/-- The tokens that reading leaves, and the declarations. -/
theorem imports_eq (h : l.IsFound d) :
    Parser.imports l.source.length d l.source
        (Token.ofPieces l.floor false (Segment.row l.segments ++ (l.gap ++ l.code))) =
      .ok (Segment.decls l.floor l.segments,
        Token.ofPieces (l.floor + (textOf (Segment.row l.segments)).length) false
          (l.gap ++ l.code)) := by
  have hsource : l.shebang ++ textOf l.directives ++
      textOf (Segment.row l.segments ++ (l.gap ++ l.code)) = l.source := by
    simp [source, Layout.pieces]
  have hread := @Parser.imports_of_segments l.source.length d
    (l.shebang ++ textOf l.directives) false l.segments (l.gap ++ l.code)
    (fun p hp => h.standsBefore p (List.mem_append_right _ hp)) h.segments h.codeStart
  rwa [hsource, List.length_append, ← floor, Bool.false_and] at hread

/-- The head of a layout, from the tokens that reading leaves. -/
theorem head_eq (h : l.IsFound d) {rest : List Token}
    (hrest : rest = Token.ofPieces (l.floor + (textOf (Segment.row l.segments)).length) false
      (l.gap ++ l.code)) :
    l.head d = {
      source := l.source
      dialect := d
      shebangEnd := l.shebang.length
      directives := l.spans
      imports := Segment.decls l.floor l.segments
      comments := (Comment.ofPieces l.shebang.length l.pieces).filter
        (·.start < (rest.head?.map Token.start).getD l.source.length)
      codeStart := rest.head?.map Token.start } := by
  have hstart : rest.head?.map Token.start =
      if l.code.isEmpty then none else some l.headEnd := by
    rw [hrest, h.head?_code]
    simp [headEnd, headPieces, floor, Nat.add_assoc]
  rw [hstart, h.filter_comments]
  rfl

end IsFound

/-- **A laid out source is read** as the head of its layout. -/
theorem parse_source (h : l.IsValid d) : Head.parse l.source d = .ok (l.head d) := by
  have hread := @Prologue.parse_source d _ _ h.prologue.isRead
  change Head.parse l.source d = (Parser.imports l.source.length d l.source
    (Token.ofPieces l.floor false _)).map _ at hread
  rw [hread, h.isFound.imports_eq, h.isFound.head_eq rfl]
  rfl

/-- **A source that is read** has a layout. -/
theorem exists_found {source : Text} {h : Head} (hparse : Head.parse source d = .ok h) :
    ∃ l : Layout, l.IsFound d ∧ l.source = source ∧ h = l.head d := by
  obtain ⟨pr, ps, hpr, rfl⟩ := Prologue.exists_isRead source
  rw [Prologue.parse_source hpr] at hparse
  obtain ⟨⟨decls, rest⟩, himports, rfl⟩ := Except.exists_of_map_eq_ok hparse
  have hsource : pr.source ps = pr.shebang ++ textOf pr.directives ++ textOf ps := by
    simp [Prologue.source]
  have hfloor : pr.floor = (pr.shebang ++ textOf pr.directives).length := by
    simp [Prologue.floor]
  have hread := himports
  rw [hfloor, hsource] at hread
  obtain ⟨gs, tail, rfl, hgs, hcode⟩ := Parser.segments_of_imports
    (fun p hp => hpr.standsBefore p (List.mem_append_right _ hp)) hread
  obtain ⟨gap, code, rfl, hgap, hcodeStart⟩ := Token.exists_gap tail
  let l : Layout := ⟨pr.shebang, pr.directives, pr.spans, gs, gap, code⟩
  have hfound : l.IsFound d := ⟨hpr.shebang, hpr.pieces, hpr.directives, hpr.directivesEnd, hgs,
    hgap, hcodeStart, hcode⟩
  refine ⟨l, hfound, rfl, ?_⟩
  obtain ⟨rfl, rfl⟩ := Prod.mk.inj (Except.ok.inj (himports.symm.trans hfound.imports_eq))
  exact (hfound.head_eq rfl).symm

/-- A source with imports has a layout with imports. -/
theorem exists_of_parse {source : Text} {h : Head} (hparse : Head.parse source d = .ok h)
    (himports : h.imports ≠ []) : ∃ l : Layout, l.IsValid d ∧ l.source = source ∧ h = l.head d := by
  obtain ⟨l, hl, hsource, rfl⟩ := exists_found hparse
  have hne : l.segments ≠ [] := fun hnil => himports (congrArg (Segment.decls l.floor) hnil)
  exact ⟨l, hl.isValid hne, hsource, rfl⟩

end Layout

end ImportOrder
