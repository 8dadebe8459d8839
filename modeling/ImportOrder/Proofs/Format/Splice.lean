import ImportOrder.Proofs.Render.Region

/-!
# Other imports in the place of the old ones

A source whose region is replaced keeps its shebang and its directives, whatever stands behind the
new imports. What follows the last of them may run into its trailing comment: a line comment takes
up the rest of its line.

## Main results

* `Layout.IsValid.prologue_append`: the prologue stays what it was before other imports
* `IsFollowed.exists_gap`, `IsFollowed.lt_start`: what becomes of code behind a trailing comment
-/

namespace ImportOrder

open Piece

/-! ## The shebang -/

/-- The characters of a line. -/
def isInLine (c : Char) : Bool := c ≠ '\r' ∧ c ≠ '\n'

/-- A shebang starts with its mark, and its line ends behind it. -/
theorem shebang_line {sh rest : Text} (hne : sh ≠ []) (h : shebangLength (sh ++ rest) = sh.length) :
    (∃ t, sh = '#' :: '!' :: t) ∧ sh.takeWhile isInLine = sh ∧ rest.head?.any isInLine = false := by
  simp only [shebangLength] at h
  split at h
  · rename_i hprefix
    have htake : (sh ++ rest).takeWhile isInLine = sh := by
      have hpre := List.takeWhile_prefix (l := sh ++ rest) isInLine
      exact List.IsPrefix.eq_of_length
        (List.prefix_of_prefix_length_le hpre (List.prefix_append sh rest) h.le) h
    refine ⟨?_, takeWhile_append_eq_left_iff.1 htake⟩
    obtain ⟨t, ht⟩ := List.isPrefixOf_iff_prefix.1 hprefix
    rw [← ht] at htake
    exact ⟨t.takeWhile isInLine, htake.symm⟩
  · exact absurd (List.length_eq_zero_iff.1 h.symm) hne

/-- A shebang stays before the same line break, and none arises before other text. -/
theorem shebangLength_append {sh rest rest' : Text} (h : shebangLength (sh ++ rest) = sh.length)
    (hline : sh ≠ [] → rest'.head? = rest.head?) (hnone : sh = [] → rest'.head? ≠ some '#') :
    shebangLength (sh ++ rest') = sh.length := by
  by_cases hsh : sh = []
  · subst hsh
    have hprefix : "#!".toList.isPrefixOf rest' = false := by
      cases rest' with
      | nil => rfl
      | cons c t =>
        have hc : '#' ≠ c := fun heq => hnone rfl (by rw [← heq]; rfl)
        simp [List.isPrefixOf, hc]
    rw [List.nil_append, shebangLength, hprefix]
    rfl
  · obtain ⟨⟨t, rfl⟩, hall, hnext⟩ := shebang_line hsh h
    rw [← hline hsh] at hnext
    have htake := takeWhile_append_eq_left_iff.2 ⟨hall, hnext⟩
    exact congrArg List.length htake

/-! ## Pieces of a prologue -/

theorem Parser.Directives.mem {us : List Token} {ds : List Span} {isOpen : Bool}
    (h : Parser.Directives us ds isOpen) : ∀ t ∈ us, t.kind = .string ∨ t.text = [';'] := by
  induction h with
  | nil => simp
  | closed ht hu _ ih =>
    intro t hmem
    rcases List.mem_cons.1 hmem with rfl | hmem
    · exact .inl ht
    rcases List.mem_cons.1 hmem with rfl | hmem
    · exact .inr hu
    · exact ih t hmem
  | ended ht _ _ _ ih =>
    intro t hmem
    rcases List.mem_cons.1 hmem with rfl | hmem
    · exact .inl ht
    · exact ih t hmem
  | last ht => simpa using .inl ht

theorem Parser.Directives.ne_nil {us : List Token} {ds : List Span} {isOpen : Bool}
    (h : Parser.Directives us ds isOpen) (hopen : isOpen = true) : us ≠ [] := by
  cases h with
  | nil => cases hopen
  | _ => simp

namespace Piece

/-- The pieces before imports: gaps, strings and semicolons. -/
def IsPlain (p : Piece) : Prop := p.isGap = true ∨ p.kind = .string ∨ p.text = [';']

theorem isPlain_of_tokens {offset : Nat} {newline : Bool} {ps : List Piece}
    (h : ∀ t ∈ Token.ofPieces offset newline ps, t.kind = .string ∨ t.text = [';']) :
    ∀ p ∈ ps, p.IsPlain := by
  induction ps generalizing offset newline with
  | nil => simp
  | cons p ps ih =>
    intro q hq
    simp only [Token.ofPieces] at h
    split at h
    · rename_i k hk
      rcases List.mem_cons.1 hq with rfl | hq
      · rcases h _ (List.mem_cons_self) with hkind | htext
        · obtain rfl : k = .string := hkind
          refine .inr (.inl ?_)
          cases hqk : q.kind <;> simp_all [PieceKind.token?]
        · exact .inr (.inr htext)
      · exact ih (fun t ht => h t (List.mem_cons_of_mem _ ht)) q hq
    · rename_i hk
      rcases List.mem_cons.1 hq with rfl | hq
      · exact .inl (by simp [isGap, hk])
      · exact ih h q hq

namespace IsPlain

variable {p : Piece}

theorem kind_ne_bad (h : p.IsPlain) (hp : Shape p) : p.kind ≠ .bad := by
  intro hbad
  cases hp with
  | bad hopen =>
    rcases h with h | h | rfl
    · cases h
    · cases h
    · simp [openings] at hopen
  | _ => cases hbad

/-- Imports start with a slash or a letter, and no such piece goes on with one of them. -/
theorem endsBefore (h : p.IsPlain) (hp : Shape p) {c c' : Char} (hc : c = '/' ∨ c = 'i')
    (hc' : c' = '/' ∨ c' = 'i') (hend : p.endsBefore (some c) = true) :
    p.endsBefore (some c') = true := by
  cases hp with
  | newline => rcases hc' with rfl | rfl <;> simp [Piece.endsBefore]
  | crlf => simp [Piece.endsBefore]
  | space => rcases hc' with rfl | rfl <;> rfl
  | lineComment => rcases hc with rfl | rfl <;> cases hend
  | blockComment | string | bad => rfl
  | name _ _ hstart _ =>
    rcases h with h | h | h
    · cases h
    · cases h
    · obtain ⟨rfl, rfl⟩ := List.cons.inj h
      cases hstart
  | punct =>
    rcases h with h | h | h
    · cases h
    · cases h
    · obtain ⟨rfl, -⟩ := List.cons.inj h
      rfl

theorem head?_ne (h : p.IsPlain) (hp : Shape p) : p.text.head? ≠ some '#' := by
  cases hp with
  | newline hterm =>
    rintro ⟨⟩
    cases hterm
  | crlf => simp
  | @space t hne hall =>
    intro hhead
    have := hall '#' (List.mem_of_head? hhead)
    cases this
  | lineComment | blockComment => simp
  | string hq _ => rcases hq with rfl | rfl <;> simp
  | bad hopen =>
    simp only [openings, List.mem_cons, List.not_mem_nil, or_false] at hopen
    rcases hopen with rfl | rfl | rfl <;> simp
  | name _ _ hstart _ =>
    rintro ⟨⟩
    cases hstart
  | punct =>
    rcases h with h | h | h
    · cases h
    · cases h
    · rw [h]
      simp

end IsPlain

end Piece

namespace Layout

variable {d : Dialect} {l : Layout} {g : Segment} {gs : List Segment} {us vs : List Piece}

/-- The pieces before the leading comments of the first import. -/
theorem IsValid.isPlain (h : l.IsValid d) (hsegments : l.segments = g :: gs)
    (hgap : g.gap = us ++ vs) : ∀ p ∈ l.directives ++ us, p.IsPlain := by
  obtain ⟨isOpen, hdir, -⟩ := h.directives
  have hvalid := h.segments
  rw [hsegments] at hvalid
  intro p hp
  rcases List.mem_append.1 hp with hp | hp
  · exact isPlain_of_tokens hdir.mem p hp
  · exact .inl (hvalid.1 p (by simp [hgap, hp]))

/-- What follows them starts with a comment or the word `import`. -/
theorem IsValid.head?_imports (h : l.IsValid d) (hsegments : l.segments = g :: gs)
    (hgap : g.gap = us ++ vs) (hvs : ∀ p ∈ vs.head?, p.isComment = true) :
    ∃ rest c, l.pieces = l.directives ++ us ++ rest ∧ (textOf rest).head? = some c ∧
      (c = '/' ∨ c = 'i') := by
  have hpieces : l.pieces = l.directives ++ us ++
      (vs ++ (g.sentence.pieces ++ (Segment.row gs ++ (l.gap ++ l.code)))) := by
    simp [Layout.pieces, hsegments, hgap]
  cases hcases : vs with
  | nil =>
    have hvalid := h.segments
    rw [hsegments] at hvalid
    obtain ⟨ps, hps, -⟩ := hvalid.2.1.clause
    refine ⟨_, 'i', hpieces, ?_, .inr rfl⟩
    rw [hcases, List.nil_append, Sentence.pieces, hps]
    rfl
  | cons p vs' =>
    have hp : p.text.head? = some '/' := by
      refine head?_of_isComment (hvs p (by simp [hcases])) (h.standsBefore p ?_)
      rw [hpieces, hcases]
      simp
    refine ⟨_, '/', hpieces, ?_, .inl rfl⟩
    rw [hcases, List.cons_append, textOf_cons, List.head?_append, hp]
    rfl

/-- A directive that the end of its line ends is followed by other imports on a line of their
own. -/
theorem IsValid.any_endsLine (h : l.IsValid d) (hgap : g.gap = us ++ vs)
    (hbreak : l.floor ≠ 0 → vs ≠ [] → us.any isBreak = true) {isOpen : Bool}
    (hdir : Parser.Directives (Token.ofPieces l.shebang.length false l.directives) l.spans isOpen)
    (hline : g.gap.any endsLine = true) (hopen : isOpen = true) : us.any endsLine = true := by
  by_cases hvs : vs = []
  · simpa [hgap, hvs] using hline
  · have hfloor : l.floor ≠ 0 := by
      intro hzero
      have hnil : l.directives = [] := by
        by_contra hne
        obtain ⟨p, ps, hps⟩ := List.exists_cons_of_ne_nil hne
        have hp := (h.standsBefore p (by simp [Layout.pieces, hps])).text_ne_nil
        have hlen : (textOf l.directives).length = 0 := by
          simp only [floor] at hzero
          omega
        rw [hps, textOf_cons, List.length_append] at hlen
        exact hp (List.length_eq_zero_iff.1 (by omega))
      exact hdir.ne_nil hopen (by rw [hnil]; rfl)
    obtain ⟨p, hp, hkind⟩ := List.any_eq_true.1 (hbreak hfloor hvs)
    refine List.any_eq_true.2 ⟨p, hp, ?_⟩
    have hnewline : p.kind = .newline := by simpa [isBreak] using hkind
    simp [endsLine, hnewline]

section Prologue

variable (h : l.IsValid d) (hsegments : l.segments = g :: gs) (hgap : g.gap = us ++ vs)
  (hvs : ∀ p ∈ vs.head?, p.isComment = true) {ps : List Piece} {c : Char}
include h hsegments hgap hvs

/-- The pieces before the imports end before new ones as they end before the old ones. -/
theorem IsValid.chained_directives (hc : c = '/' ∨ c = 'i') :
    (∀ p ∈ l.directives ++ us, Shape p) ∧ Chained (l.directives ++ us) (some c) := by
  obtain ⟨rest, c₀, hpieces, hhead₀, hc₀⟩ := h.head?_imports hsegments hgap hvs
  have hplain := h.isPlain hsegments hgap
  have hshape : ∀ p ∈ l.directives ++ us, Shape p := fun p hp =>
    (h.standsBefore p (by rw [hpieces]; exact List.mem_append_left _ hp)).shape
  have hold : Chained (l.directives ++ us) (textOf rest).head? := by
    refine chained_of_scan ?_ fun p hp => (hplain p hp).kind_ne_bad (hshape p hp)
    have hscan := h.pieces
    rw [hpieces] at hscan
    rw [← textOf_append, hscan, scan_textOf_right hscan]
  refine ⟨hshape, hold.alone.before fun p hp => ?_⟩
  have hmem := List.mem_of_getLast? hp
  refine (hplain p hmem).endsBefore (hshape p hmem) hc₀ hc ?_
  rw [← hhead₀]
  obtain ⟨init, hinit⟩ := List.getLast?_eq_some_iff.1 hp
  rw [hinit, chained_append] at hold
  simpa using hold.2.2.2.1

/-- The shebang is followed by what followed it before. -/
theorem IsValid.shebangLength_source (hhead : (textOf ps).head? = some c)
    (hc : c = '/' ∨ c = 'i') :
    shebangLength (l.prologue.source (us ++ ps)) = l.shebang.length := by
  obtain ⟨rest, c₀, hpieces, hhead₀, hc₀⟩ := h.head?_imports hsegments hgap hvs
  obtain ⟨hshape, -⟩ := h.chained_directives hsegments hgap hvs hc
  have hplain := h.isPlain hsegments hgap
  have hfirst : l.directives ++ us ≠ [] → ∃ e t, e ≠ '#' ∧
      ∀ qs, textOf (l.directives ++ us ++ qs) = e :: (t ++ textOf qs) := by
    intro hne
    obtain ⟨p, ps', hp⟩ := List.exists_cons_of_ne_nil hne
    have hmem : p ∈ l.directives ++ us := by simp [hp]
    have hchar := (hplain p hmem).head?_ne (hshape p hmem)
    obtain ⟨e, t, ht⟩ := List.exists_cons_of_ne_nil (hshape p hmem).standsBefore.text_ne_nil
    refine ⟨e, t ++ textOf ps', ?_, fun qs => by simp [hp, ht]⟩
    rintro rfl
    exact hchar (by rw [ht]; rfl)
  refine @shebangLength_append _ (textOf l.pieces) _ h.shebang ?_ ?_
  · intro hsh
    have hne : l.directives ++ us ≠ [] := by
      -- Neither a comment nor the word `import` stands on the line of a shebang.
      intro hnil
      have hold := h.shebang
      rw [Layout.source, hpieces, hnil, List.nil_append] at hold
      have hnext := (shebang_line hsh hold).2.2
      rw [hhead₀] at hnext
      rcases hc₀ with rfl | rfl <;> cases hnext
    obtain ⟨e, t, -, htext⟩ := hfirst hne
    change (textOf (l.directives ++ (us ++ ps))).head? = _
    rw [← List.append_assoc, hpieces, htext, htext]
    rfl
  · intro _
    change (textOf (l.directives ++ (us ++ ps))).head? ≠ _
    rw [← List.append_assoc]
    by_cases hne : l.directives ++ us = []
    · rw [hne, List.nil_append, hhead]
      rcases hc with rfl | rfl <;> simp
    · obtain ⟨e, t, he, htext⟩ := hfirst hne
      rw [htext]
      simpa using he

/-- **The prologue stays** before other imports. -/
theorem IsValid.prologue_append (hbreak : l.floor ≠ 0 → vs ≠ [] → us.any isBreak = true)
    {lead more : List Piece} (hps : ps = lead ++ Statement.importPiece :: more)
    (hscan : scan (textOf ps) = ps) (hlead : ∀ p ∈ lead, p.isGap = true)
    (hhead : (textOf ps).head? = some c) (hc : c = '/' ∨ c = 'i') :
    l.prologue.IsBefore (us ++ ps) := by
  obtain ⟨isOpen, hdir, hline⟩ := h.directives
  obtain ⟨-, hchain⟩ := h.chained_directives hsegments hgap hvs hc
  have htok : Token.ofPieces l.floor false (us ++ ps) =
      ⟨.name, "import".toList, l.floor + (textOf (us ++ lead)).length, (us ++ lead).any endsLine⟩ ::
        Token.ofPieces (l.floor + (textOf (us ++ lead)).length + "import".toList.length) false
          more := by
    have hgaps : ∀ p ∈ us ++ lead, p.isGap = true := by
      intro p hp
      have hvalid := h.segments
      rw [hsegments] at hvalid
      rcases List.mem_append.1 hp with hp | hp
      · exact hvalid.1 p (by simp [hgap, hp])
      · exact hlead p hp
    rw [hps, ← List.append_assoc, Token.ofPieces_gap_cons hgaps rfl, Bool.false_or]
    rfl
  refine ⟨h.shebangLength_source hsegments hgap hvs hhead hc, ?_, ⟨isOpen, hdir, ?_⟩,
    h.directivesEnd, ?_⟩
  · change scan (textOf (l.directives ++ (us ++ ps))) = l.directives ++ (us ++ ps)
    rw [← List.append_assoc, textOf_append, scan_of_chained (by rwa [hhead]), hscan]
  · -- A directive that is still open is ended by the line break that ended it before.
    intro hopen t ht
    obtain rfl := Option.some.inj ((congrArg List.head? htok).symm.trans ht)
    have hus := h.any_endsLine hgap hbreak hdir (hline g (by simp [hsegments]) hopen) hopen
    exact ⟨by simp [List.any_append, hus], by simp⟩
  · intro t ht
    obtain rfl := Option.some.inj ((congrArg List.head? htok).symm.trans ht)
    simp

end Prologue

end Layout

/-! ## Code behind a trailing comment -/

namespace Piece

theorem scan_lineComment {t : Text} (ht : ∀ c ∈ t, isLineTerminator c = false) (rest : Text) :
    scan ('/' :: '/' :: t ++ rest) =
      ⟨.lineComment, '/' :: '/' :: t ++ rest.takeWhile (!isLineTerminator ·)⟩ ::
        scan (rest.dropWhile (!isLineTerminator ·)) := by
  have htake : (t ++ rest).takeWhile (!isLineTerminator ·) =
      t ++ rest.takeWhile (!isLineTerminator ·) := by
    rw [List.takeWhile_append_of_pos]
    simpa using ht
  have hfirst : first '/' ('/' :: (t ++ rest)) =
      ⟨.lineComment, '/' :: '/' :: t ++ rest.takeWhile (!isLineTerminator ·)⟩ := by
    simp only [List.cons_append, ← htake]
    rfl
  rw [List.cons_append, List.cons_append, scan_cons, hfirst]
  congr 2
  have hlen : ('/' :: '/' :: t ++ rest.takeWhile (!isLineTerminator ·)).length =
      ('/' :: '/' :: t).length + (rest.takeWhile (!isLineTerminator ·)).length :=
    List.length_append
  rw [hlen, ← List.cons_append, ← List.cons_append, List.drop_length_add_append]
  nth_rewrite 2 [← List.takeWhile_append_dropWhile (p := (!isLineTerminator ·)) (l := rest)]
  rw [List.drop_left]

end Piece

/-- **What follows the imports** on their last line and below: blanks, lines below, and code. -/
structure IsFollowed (blanks lines code : List Piece) : Prop where
  pieces : scan (textOf (blanks ++ (lines ++ code))) = blanks ++ (lines ++ code)
  isBlank : ∀ p ∈ blanks, p.isGap = true ∧ p.isComment = false ∧ p.isBreak = false
  isGap : ∀ p ∈ lines, Piece.isGap p = true
  linesStart : ∀ p ∈ lines.head?, p.isBreak = true
  codeStart : ∀ p ∈ code.head?, Piece.isGap p = false

namespace IsFollowed

variable {blanks lines code trail : List Piece} {t : Option Text}

theorem standsBefore (h : IsFollowed blanks lines code) :
    ∀ p ∈ blanks ++ (lines ++ code), StandsBefore p [] := by
  intro p hp
  rw [← h.pieces] at hp
  exact standsBefore_of_mem_scan hp

theorem not_terminator (h : IsFollowed blanks lines code) :
    ∀ c ∈ textOf blanks, isLineTerminator c = false := by
  intro c hc
  obtain ⟨p, hp, hc⟩ := List.mem_flatMap.1 hc
  obtain ⟨hgap, hcomment, hbreak⟩ := h.isBlank p hp
  exact not_terminator_of_blank (h.standsBefore p (by simp [hp])) hgap hcomment hbreak c hc

theorem any_endsLine (h : IsFollowed blanks lines code) : blanks.any endsLine = false := by
  rw [List.any_eq_false]
  intro p hp
  obtain ⟨-, hcomment, hbreak⟩ := h.isBlank p hp
  cases hk : p.kind <;> simp_all [isComment, isBreak, endsLine, PieceKind.isComment]

/-- Lines below start with the end of a line. -/
theorem head?_lines (h : IsFollowed blanks lines code) (hne : lines ≠ []) :
    ∃ c rest, textOf (lines ++ code) = c :: rest ∧ isLineTerminator c = true := by
  obtain ⟨p, ps, rfl⟩ := List.exists_cons_of_ne_nil hne
  have hbreak := h.linesStart p rfl
  have hshape := (h.standsBefore p (by simp)).shape
  cases hshape with
  | newline hterm => exact ⟨_, _, rfl, hterm⟩
  | crlf => exact ⟨_, _, rfl, rfl⟩
  | _ => cases hbreak

/-- Code does not start with the end of a line. -/
theorem head?_code (h : IsFollowed blanks lines code) (hne : code ≠ []) :
    ∃ c rest, textOf code = c :: rest ∧ isLineTerminator c = false := by
  obtain ⟨p, ps, rfl⟩ := List.exists_cons_of_ne_nil hne
  have hgap := h.codeStart p rfl
  have hshape := (h.standsBefore p (by simp)).shape
  cases hshape with
  | newline | crlf | space | lineComment | blockComment => cases hgap
  | string hq _ => exact ⟨_, _, rfl, by rcases hq with rfl | rfl <;> rfl⟩
  | bad hopen =>
    simp only [openings, List.mem_cons, List.not_mem_nil, or_false] at hopen
    rcases hopen with rfl | rfl | rfl <;> exact ⟨_, _, rfl, rfl⟩
  | name hterm => exact ⟨_, _, rfl, hterm⟩
  | punct hterm => exact ⟨_, _, rfl, hterm⟩

theorem isGap_append (h : IsFollowed blanks lines code) :
    ∀ p ∈ blanks ++ lines, Piece.isGap p = true := by
  intro p hp
  rcases List.mem_append.1 hp with hp | hp
  · exact (h.isBlank p hp).1
  · exact h.isGap p hp

/-- The first token behind the imports starts the code. -/
theorem exists_next (h : IsFollowed blanks lines code) (hne : code ≠ []) :
    ∃ next, (Token.ofPieces 0 false (blanks ++ (lines ++ code))).head? = some next := by
  obtain ⟨p, ps, rfl⟩ := List.exists_cons_of_ne_nil hne
  obtain ⟨kind, hkind⟩ := exists_token_of_isGap (h.codeStart p rfl)
  rw [← List.append_assoc, Token.ofPieces_gap_cons h.isGap_append hkind]
  exact ⟨_, rfl⟩

theorem newlineBefore_next (h : IsFollowed blanks lines code) {next : Token}
    (hnext : (Token.ofPieces 0 false (blanks ++ (lines ++ code))).head? = some next) :
    next.newlineBefore = lines.any endsLine := by
  rw [← List.append_assoc] at hnext
  cases code with
  | nil =>
    rw [List.append_nil, Token.ofPieces_of_gaps h.isGap_append] at hnext
    cases hnext
  | cons p ps =>
    obtain ⟨kind, hkind⟩ := exists_token_of_isGap (h.codeStart p rfl)
    rw [Token.ofPieces_gap_cons h.isGap_append hkind, List.any_append, h.any_endsLine] at hnext
    obtain rfl := Option.some.inj hnext
    rfl

/-- A line ends behind the imports if there are lines below. -/
theorem any_endsLine_lines (h : IsFollowed blanks lines code) (hne : lines ≠ []) :
    lines.any endsLine = true := by
  obtain ⟨p, ps, rfl⟩ := List.exists_cons_of_ne_nil hne
  have hnewline : p.kind = .newline := by simpa [isBreak] using h.linesStart p rfl
  simp [endsLine, hnewline]

theorem exists_lineComment (htrail : IsTrail t trail) {c : Piece} (hc : trail.getLast? = some c)
    (hkind : c.kind = .lineComment) :
    ∃ init u, trail = init ++ [⟨.lineComment, '/' :: '/' :: u⟩] ∧
      (∀ e ∈ u, isLineTerminator e = false) ∧ Chained init (some '/') := by
  obtain ⟨init, rfl⟩ := List.getLast?_eq_some_iff.1 hc
  have hchain := chained_append.1 htrail.chained
  have hshape := hchain.2.2.1.shape
  cases hshape with
  | lineComment hu => exact ⟨init, _, rfl, hu, hchain.1⟩
  | _ => cases hkind

/-- Behind a trailing comment the code stays code, unless a line comment has it on its line. -/
theorem exists_gap (h : IsFollowed blanks lines code) (htrail : IsTrail t trail)
    (hfree : ∀ c ∈ trail.getLast?, c.kind = .lineComment → lines ≠ [] ∨ code = []) :
    ∃ gap, scan (textOf trail ++ textOf (blanks ++ (lines ++ code))) = gap ++ code ∧
      textOf gap = textOf (trail ++ (blanks ++ lines)) ∧ (∀ p ∈ gap, p.isGap = true) ∧
      gap.any endsLine = (trail.any endsLine || lines.any endsLine) := by
  by_cases hline : ∃ c, trail.getLast? = some c ∧ c.kind = .lineComment
  · -- The line comment takes up the blanks behind it.
    obtain ⟨c, hc, hkind⟩ := hline
    replace hfree := hfree c hc hkind
    obtain ⟨init, u, rfl, hu, hinit⟩ := exists_lineComment htrail hc hkind
    have hstop : (textOf (blanks ++ (lines ++ code))).takeWhile (!isLineTerminator ·) =
          textOf blanks ∧
        (textOf (blanks ++ (lines ++ code))).dropWhile (!isLineTerminator ·) =
          textOf (lines ++ code) := by
      have hall : ∀ e ∈ textOf blanks, (!isLineTerminator e) = true := by
        intro e he
        simp [h.not_terminator e he]
      rw [textOf_append, List.takeWhile_append_of_pos hall, List.dropWhile_append_of_pos hall]
      by_cases hne : lines = []
      · obtain rfl : code = [] := hfree.resolve_left (by simp [hne])
        simp [hne]
      · obtain ⟨e, rest, htext, hterm⟩ := h.head?_lines hne
        simp [htext, hterm]
    refine ⟨init ++ ⟨.lineComment, '/' :: '/' :: u ++ textOf blanks⟩ :: lines, ?_, ?_, ?_, ?_⟩
    · rw [textOf_append, List.append_assoc, scan_of_chained (by exact hinit), textOf_cons,
        textOf_nil, List.append_nil, scan_lineComment hu, hstop.1, hstop.2,
        scan_textOf_right h.pieces]
      simp
    · simp
    · intro p hp
      rcases List.mem_append.1 hp with hp | hp
      · exact (htrail.isGap p (by simp [hp])).1
      rcases List.mem_cons.1 hp with rfl | hp
      · rfl
      · exact h.isGap p hp
    · simp [endsLine]
  · refine ⟨trail ++ (blanks ++ lines), ?_, rfl, ?_, ?_⟩
    · have hchain : Chained trail (textOf (blanks ++ (lines ++ code))).head? := by
        refine htrail.chained.before fun p hp => ?_
        have hcomment := htrail.getLast? p hp
        have hkind : p.kind ≠ .lineComment := fun hk => hline ⟨p, hp, hk⟩
        cases hk : p.kind <;> simp_all [isComment, PieceKind.isComment, Piece.endsBefore]
      rw [scan_of_chained hchain, h.pieces]
      simp
    · intro p hp
      rcases List.mem_append.1 hp with hp | hp
      · exact (htrail.isGap p hp).1
      rcases List.mem_append.1 hp with hp | hp
      · exact (h.isBlank p hp).1
      · exact h.isGap p hp
    · simp [h.any_endsLine]

/-- A line comment swallows code on its line: no token starts where the code did. -/
theorem lt_start (h : IsFollowed blanks [] code) (htrail : IsTrail t trail) {c : Piece}
    (hc : trail.getLast? = some c) (hkind : c.kind = .lineComment) (hne : code ≠ [])
    {offset : Nat} {newline : Bool} {v : Token}
    (hv : v ∈ Token.ofPieces offset newline (scan (textOf trail ++ textOf (blanks ++ code)))) :
    offset + (textOf (trail ++ blanks)).length < v.start := by
  have hgaps := htrail.isGap
  obtain ⟨init, u, rfl, hu, hinit⟩ := exists_lineComment htrail hc hkind
  obtain ⟨e, rest, htext, hterm⟩ := h.head?_code hne
  have htake : ∃ w, (textOf (blanks ++ code)).takeWhile (!isLineTerminator ·) =
      textOf blanks ++ e :: w := by
    have hall : ∀ e ∈ textOf blanks, (!isLineTerminator e) = true := by
      intro e he
      simp [h.not_terminator e he]
    rw [textOf_append, List.takeWhile_append_of_pos hall, htext]
    simp [hterm]
  obtain ⟨w, hw⟩ := htake
  rw [textOf_append, List.append_assoc, scan_of_chained (by exact hinit), textOf_cons, textOf_nil,
    List.append_nil, scan_lineComment hu, hw, Token.ofPieces_append,
    Token.ofPieces_of_gaps fun p hp => (hgaps p (by simp [hp])).1, List.nil_append] at hv
  simp only [Token.ofPieces, PieceKind.token?] at hv
  have hle := (Token.mem_ofPieces_le hv).1
  simp only [textOf_append, textOf_cons, textOf_nil, List.length_append, List.length_cons,
    List.length_nil] at hle ⊢
  omega

end IsFollowed

/-! ## A region replaced -/

namespace Layout

variable {d : Dialect} {l : Layout}

/-- The pieces on both sides of the last comment on the line of the imports. -/
theorem pieces_of_sameLine {tr blanks : List Piece} (hline : sameLine l.gap = tr ++ blanks) :
    l.pieces =
      l.directives ++ (Segment.row l.segments ++ tr) ++ (blanks ++ (below l.gap ++ l.code)) := by
  have hrow : tr ++ (blanks ++ below l.gap) = l.gap := by
    rw [← List.append_assoc, ← hline, sameLine_append_below]
  calc l.pieces = l.directives ++ (Segment.row l.segments ++
        ((tr ++ (blanks ++ below l.gap)) ++ l.code)) := by rw [hrow, pieces]
    _ = _ := by simp

/-- What follows the last comment on the line of the imports. -/
theorem IsValid.isFollowed (h : l.IsValid d) {tr blanks : List Piece}
    (hline : sameLine l.gap = tr ++ blanks) (hblanks : ∀ p ∈ blanks, p.isComment = false) :
    IsFollowed blanks (below l.gap) l.code := by
  have hgap : ∀ p ∈ sameLine l.gap ++ below l.gap, p.isGap = true := by
    rw [sameLine_append_below]
    exact h.gap
  refine ⟨?_, ?_, fun p hp => hgap p (List.mem_append_right _ hp), isBreak_head?_below _, h.code⟩
  · have hscan := h.pieces
    rw [pieces_of_sameLine hline] at hscan
    exact scan_textOf_right hscan
  · intro p hp
    have hmem : p ∈ sameLine l.gap := by
      rw [hline]
      exact List.mem_append_right _ hp
    exact ⟨hgap p (List.mem_append_left _ hmem), hblanks p hp, isBreak_of_mem_sameLine p hmem⟩

/-- **A region replaced**: what stands before it, and what follows it. -/
theorem exists_region (h : l.IsValid d) (gap : Nat) :
    ∃ g gs us vs blanks lines region, l.segments = g :: gs ∧ g.gap = us ++ vs ∧
      (∀ p ∈ vs.head?, p.isComment = true) ∧
      (l.floor ≠ 0 → vs ≠ [] → us.any isBreak = true) ∧ IsFollowed blanks lines l.code ∧
      (l.head d).region gap = some region ∧
      l.source.drop region.stop = textOf (blanks ++ (lines ++ l.code)) ∧
      ∀ t, l.source.splice region t =
        l.prologue.source (us ++ scan (t ++ textOf (blanks ++ (lines ++ l.code)))) := by
  obtain ⟨g, gs, hsegments⟩ := List.exists_cons_of_ne_nil h.nonempty
  obtain ⟨us, vs, hgap, hleading, hvs, hbreak⟩ := exists_leading h hsegments gap
  obtain ⟨tr, blanks, hline, hblanks, -, hstop⟩ := exists_trailing (sameLine l.gap)
  have hregion := region_head h hsegments hgap hleading hvs hstop
  have hstart : l.source = l.shebang ++ textOf (l.directives ++ us) ++
      textOf (vs ++ (g.sentence.pieces ++ (Segment.row gs ++ (l.gap ++ l.code)))) := by
    simp [source, pieces, hsegments, hgap]
  have hdrop : l.source.drop
      (l.floor + (textOf (Segment.row l.segments)).length + (textOf tr).length) =
      textOf (blanks ++ (below l.gap ++ l.code)) := by
    have hsource : l.source = l.shebang ++
        textOf (l.directives ++ (Segment.row l.segments ++ tr)) ++
        textOf (blanks ++ (below l.gap ++ l.code)) := by
      rw [source, pieces_of_sameLine hline, textOf_append, List.append_assoc]
    have hlen : l.floor + (textOf (Segment.row l.segments)).length + (textOf tr).length =
        (l.shebang ++ textOf (l.directives ++ (Segment.row l.segments ++ tr))).length := by
      simp [floor, Nat.add_assoc]
    rw [hsource, hlen, List.drop_left]
  refine ⟨g, gs, us, vs, blanks, below l.gap, _, hsegments, hgap, hvs, hbreak,
    h.isFollowed hline hblanks, hregion, hdrop, fun t => ?_⟩
  have hlen : l.floor + (textOf us).length =
      (l.shebang ++ textOf (l.directives ++ us)).length := by
    simp [floor, Nat.add_assoc]
  have htake : l.source.take (l.floor + (textOf us).length) =
      l.shebang ++ textOf (l.directives ++ us) := by
    rw [hstart, hlen, List.take_left]
  rw [Text.splice, hdrop, htake]
  simp [Prologue.source, prologue]

end Layout

end ImportOrder
