import ImportOrder.Platform.Usual
import ImportOrder.Proofs.Format.Failures
import ImportOrder.Proofs.Render.Region
import ImportOrder.Settings.Reader

/-!
# Rendering and reading are inverse

What is written for arranged statements is read again as the same statements, with their bindings
in order, their strings in the quotes asked for, and their comments where they were.

## Main definitions

* `ReadsBack`: what a statement becomes when it is written and read
* `IsReadBack`: what was written for statements is read as them
* `AreReadable`: statements that can be written so that they are read again

## Main results

* `exists_renderRegion`: rendering returns a text, within the limits of memory
* `isReadBack_region`: a rendered region reads back
* `readsBack_renderRegion`: the arranged statements of a source read back
-/

namespace ImportOrder

open Grammar Piece

/-! ## Leading comments of the first statement -/

namespace Comment

theorem belowFileLevel_eq_self {source : Text} {gap first : Nat} {cs : List Comment}
    (h : ∀ p ∈ cs.zip (cs.tail.map Comment.start ++ [first]),
      isFileLevel source gap p.1 p.2 = false) : belowFileLevel source gap first cs = cs := by
  have hall : ∀ p ∈ (cs.zip (cs.tail.map Comment.start ++ [first])).reverse,
      (!isFileLevel source gap p.1 p.2) = true := by
    intro p hp
    rw [h p (List.mem_reverse.1 hp)]
    rfl
  rw [belowFileLevel, List.takeWhile_eq_self_iff.2 hall, List.reverse_reverse, List.map_fst_zip]
  simp
  omega

theorem zip_starts (c : Comment) (cs : List Comment) (stop : Nat) :
    (c :: cs).zip (cs.map Comment.start ++ [stop]) =
      (c, (cs.head?.map Comment.start).getD stop) ::
        cs.zip (cs.tail.map Comment.start ++ [stop]) := by
  cases cs <;> simp

/-- The first comment among pieces starts behind those that are none. -/
theorem start_head?_ofPieces (offset : Nat) (ps : List Piece) :
    ((ofPieces offset ps).head?.map Comment.start).getD (offset + (textOf ps).length) =
      offset + (textOf (ps.takeWhile (!Piece.isComment ·))).length := by
  induction ps using Piece.comment_induction with
  | blank bs hbs =>
    rw [ofPieces_blank hbs, List.takeWhile_eq_self_iff.2 fun p hp => by simp [hbs p hp]]
    rfl
  | comment bs c ps hbs hc _ =>
    rw [ofPieces_blank_comment hbs hc,
      List.takeWhile_append_of_pos fun p hp => by simp [hbs p hp]]
    simp [hc]

/-- A comment among pieces, and the offset where the next one starts or the pieces end. -/
theorem mem_zip_ofPieces {offset : Nat} {ps : List Piece} {p : Comment × Nat}
    (h : p ∈ (ofPieces offset ps).zip
      ((ofPieces offset ps).tail.map Comment.start ++ [offset + (textOf ps).length])) :
    ∃ us c vs, ps = us ++ c :: vs ∧ c.isComment = true ∧
      p = (⟨c.text, offset + (textOf us).length⟩, offset + (textOf us).length + c.text.length +
        (textOf (vs.takeWhile (!Piece.isComment ·))).length) := by
  induction ps using Piece.comment_induction generalizing offset with
  | blank bs hbs =>
    rw [ofPieces_blank hbs] at h
    simp at h
  | comment bs c ps hbs hc ih =>
    have hlen : offset + (textOf (bs ++ c :: ps)).length =
        offset + (textOf bs).length + c.text.length + (textOf ps).length := by
      simp
      omega
    rw [ofPieces_blank_comment hbs hc, List.tail_cons, hlen, zip_starts,
      start_head?_ofPieces] at h
    rcases List.mem_cons.1 h with rfl | h
    · exact ⟨bs, c, ps, rfl, hc, rfl⟩
    · obtain ⟨us, c', vs, rfl, hc', rfl⟩ := ih h
      refine ⟨bs ++ c :: us, c', vs, by simp, hc', ?_⟩
      simp [Nat.add_assoc]

end Comment

theorem takeWhile_append_of_exists {α : Type} {f : α → Bool} {as : List α}
    (h : ∃ a ∈ as, f a = false) (bs : List α) : (as ++ bs).takeWhile f = as.takeWhile f := by
  induction as with
  | nil => simp at h
  | cons a as ih =>
    by_cases ha : f a = true
    · have hrest : ∃ b ∈ as, f b = false := by
        obtain ⟨b, hb, hfb⟩ := h
        rcases List.mem_cons.1 hb with rfl | hb
        · rw [ha] at hfb
          cases hfb
        · exact ⟨b, hb, hfb⟩
      rw [List.cons_append, List.takeWhile_cons_of_pos ha, List.takeWhile_cons_of_pos ha, ih hrest]
    · rw [List.cons_append, List.takeWhile_cons_of_neg ha, List.takeWhile_cons_of_neg ha]

/-- There are no blank lines between leading comments. -/
theorem IsLead.blankLines_eq_zero {eol : Eol} {lines : List Text} {ps us vs : List Piece}
    {c : Piece} (h : IsLead eol lines ps) (hps : ps = us ++ c :: vs) (hc : c.isComment = true) :
    (textOf (vs.takeWhile (!isComment ·))).blankLines = 0 := by
  induction h generalizing us with
  | nil => simp at hps
  | @cons core lines ps hcore hgap hchain h ih =>
    have hne : ofEol eol ≠ c := by
      rintro rfl
      simp at hc
    rcases List.append_eq_append_iff.1 hps with ⟨as, rfl, has⟩ | ⟨bs, rfl, hbs⟩
    · rcases List.cons_eq_append_iff.1 has with ⟨-, hcons⟩ | ⟨as', rfl, hcons⟩
      · exact absurd (List.cons.inj hcons).1.symm hne
      · exact ih hcons
    rcases List.cons_eq_append_iff.1 hbs with ⟨-, hcons⟩ | ⟨bs', rfl, rfl⟩
    · exact absurd (List.cons.inj hcons).1 hne
    by_cases hmore : ∃ p ∈ bs', (!isComment p) = false
    · rw [takeWhile_append_of_exists hmore]
      have hmem : ∀ p ∈ bs'.takeWhile (!isComment ·), p ∈ us ++ c :: bs' := by
        intro p hp
        simp [(List.takeWhile_sublist _).mem hp]
      have hzero := (lineBreaks_textOf_eq_zero_iff
        (fun p hp => hchain.standsBefore p (hmem p hp)) (fun p hp => (hgap p (hmem p hp)).1)
        (fun p hp => by simpa using List.mem_takeWhile_imp hp)).2
        fun p hp => (hgap p (hmem p hp)).2
      rw [Text.blankLines, hzero]
    · have hnil : bs' = [] := by
        rcases List.eq_nil_or_concat bs' with hnil | ⟨init, p, rfl⟩
        · exact hnil
        · have hp := hcore.getLast? p (by simp [List.getLast?_cons])
          exact absurd ⟨p, by simp, by simp [hp]⟩ hmore
      have hlead : ps.takeWhile (!isComment ·) = [] := by
        cases ps with
        | nil => rfl
        | cons p ps => simp [h.head? p rfl]
      rw [hnil, List.nil_append, List.takeWhile_cons_of_pos (by simp), hlead]
      cases eol <;> rfl

/-- The comments on lines above a statement are those of the lines. -/
theorem IsLead.exists_of_isComment {eol : Eol} {lines : List Text} {ps : List Piece} {c : Piece}
    (h : IsLead eol (lines.map (Text.withEol eol)) ps) (hlines : ∀ line ∈ lines, IsCommentLine line)
    (hc : c ∈ ps) (hcomment : c.isComment = true) :
    ∃ line ∈ lines, ∃ p ∈ scan line, p.isComment = true ∧ c.text = p.text.withEol eol := by
  induction lines generalizing ps with
  | nil =>
    cases h
    simp at hc
  | cons line lines ih =>
    obtain ⟨core, rfl, -, hgap, hchain⟩ := hlines line (by simp)
    generalize htexts : (textOf core :: lines).map (Text.withEol eol) = texts at h
    cases h with
    | nil => simp at htexts
    | @cons core' texts ps' hcore' hgap' hchain' h' =>
      obtain ⟨htext, rfl⟩ := List.cons.inj htexts
      -- Both rows of pieces are those of the line with its new endings.
      have hendures : ∀ p ∈ core, p.Endures eol := by
        intro p hp hstring
        have hp := (hgap p hp).1
        simp [Piece.isGap, hstring, PieceKind.token?] at hp
      have hscan : scan (textOf core) = core := by simpa using @scan_of_chained core [] hchain
      have hscan' : core' = core.map (Piece.withEol eol) := by
        have hleft := @scan_of_chained core' [] hchain'
        have hright := @scan_of_chained (core.map (Piece.withEol eol)) []
          (chained_withEol hchain hendures)
        rw [textOf_withEol hchain] at hright
        simp only [List.append_nil, scan_nil] at hleft hright
        rw [← hleft, ← htext]
        exact hright
      rcases List.mem_append.1 hc with hc | hc
      · rw [hscan'] at hc
        obtain ⟨p, hp, rfl⟩ := List.mem_map.1 hc
        exact ⟨textOf core, by simp, p, by rwa [hscan], hcomment, rfl⟩
      · rcases List.mem_cons.1 hc with rfl | hc
        · simp at hcomment
        · obtain ⟨line, hline, hp⟩ := ih h' (fun l hl => hlines l (by simp [hl])) hc
          exact ⟨line, by simp [hline], hp⟩

theorem Comment.mem_ofPieces_scan {offset : Nat} {ps : List Piece} {p : Piece} (hp : p ∈ ps)
    (hcomment : p.isComment = true) :
    ∃ start, (⟨p.text, start⟩ : Comment) ∈ ofPieces offset ps := by
  obtain ⟨us, vs, rfl⟩ := List.append_of_mem hp
  have hk : p.kind.isComment = true := hcomment
  refine ⟨offset + (textOf us).length, ?_⟩
  rw [ofPieces_append, ofPieces]
  simp [hk]

/-- **No pragma** is among the comments above a statement. -/
def Statement.HasNoPragma (st : Statement) : Prop :=
  ∀ line ∈ st.leadingComments, ∀ c ∈ Comment.ofPieces 0 (scan line), c.isPragma = false

/-- All comments above the first statement lead it. -/
theorem belowFileLevel_isLead {eol : Eol} {st : Statement} {ps : List Piece} {gap : Nat}
    (post : Text) (h : IsLead eol (st.leadingComments.map (Text.withEol eol)) ps)
    (hlines : ∀ line ∈ st.leadingComments, IsCommentLine line) (hpragma : st.HasNoPragma)
    (hgap : 1 ≤ gap) :
    Comment.belowFileLevel (textOf ps ++ post) gap (textOf ps).length (Comment.ofPieces 0 ps) =
      Comment.ofPieces 0 ps := by
  apply Comment.belowFileLevel_eq_self
  intro p hp
  have hend : (textOf ps).length = 0 + (textOf ps).length := (Nat.zero_add _).symm
  rw [hend] at hp
  obtain ⟨us, c, vs, hrow, hc, rfl⟩ := Comment.mem_zip_ofPieces hp
  rw [Comment.isFileLevel, Bool.or_eq_false_iff]
  constructor
  · obtain ⟨line, hline, q, hq, hqc, htext⟩ :=
      h.exists_of_isComment hlines (by rw [hrow]; simp) hc
    obtain ⟨start, hstart⟩ := @Comment.mem_ofPieces_scan 0 _ q hq hqc
    rw [htext, Comment.isPragma_withEol eol q.text _ start]
    exact hpragma line hline _ hstart
  · -- There is no blank line between it and what follows.
    have hsplit : textOf ps ++ post = (textOf us ++ c.text) ++
        (textOf (vs.takeWhile (!isComment ·)) ++
          (textOf (vs.dropWhile (!isComment ·)) ++ post)) := by
      have hvs : textOf (vs.takeWhile (!isComment ·)) ++ textOf (vs.dropWhile (!isComment ·)) =
          textOf vs := by
        rw [← textOf_append, List.takeWhile_append_dropWhile]
      rw [hrow, textOf_append, textOf_cons, ← hvs]
      simp
    have hslice : (textOf ps ++ post).slice (Comment.stop ⟨c.text, 0 + (textOf us).length⟩)
        (0 + (textOf us).length + c.text.length +
          (textOf (vs.takeWhile (!isComment ·))).length) =
        textOf (vs.takeWhile (!isComment ·)) := by
      have hslice := Text.slice_append (textOf us ++ c.text)
        (textOf (vs.takeWhile (!isComment ·))) (textOf (vs.dropWhile (!isComment ·)) ++ post)
      rw [← hsplit, List.length_append] at hslice
      simpa [Comment.stop] using hslice
    rw [hslice, h.blankLines_eq_zero hrow hc]
    exact decide_eq_false (by omega)

/-! ## Rendering returns -/

section Returns

variable {s : Settings} {eol : Eol} {groups : List (List Statement)}

/-- Only the indentation of a list may be too much. -/
theorem Statement.exists_renderLines [Platform] {st : Statement} (hinner : st.innerComments = false)
    (hquote : s.knowsQuote = true) (htab : s.indent ≤ sizeLimit) :
    ∃ ls, st.renderLines s eol = .ok ls := by
  have hcheck : Text.checkTimes [' '] s.indent = .ok () :=
    Text.checkTimes_eq_ok (by simpa using htab)
  have hrender : ∃ t, st.render s eol = .ok t := by
    rw [render_of_known hinner hquote]
    split
    · exact ⟨_, rfl⟩
    · simp only [renderBindings, hcheck]
      split
      · exact ⟨_, rfl⟩
      · split
        · exact ⟨_, rfl⟩
        · exact ⟨_, rfl⟩
  obtain ⟨t, ht⟩ := hrender
  exact ⟨_, by rw [renderLines, ht]; rfl⟩

/-- **Rendering returns a text** if the quotes are known, and indentation and blank lines stay
within the limits. -/
theorem exists_renderRegion [Platform] (hinner : ∀ st ∈ groups.flatten, st.innerComments = false)
    (hquote : s.knowsQuote = true) (htab : s.indent ≤ sizeLimit)
    (hlines : eol.text.length * s.breaks ≤ sizeLimit) :
    ∃ t, renderRegion s eol groups = .ok t := by
  have hgroup : ∀ group ∈ groups, ∃ ls, renderGroup s eol group = .ok ls := by
    intro group hgroup
    obtain ⟨lss, hlss⟩ := @exists_mapM _ _ _ (Statement.renderLines s eol) group fun st hst =>
      Statement.exists_renderLines (hinner st (List.mem_flatten.2 ⟨group, hgroup, hst⟩)) hquote
        htab
    exact ⟨lss.flatten, by rw [renderGroup, hlss]; rfl⟩
  obtain ⟨blocks, hblocks⟩ := exists_mapM hgroup
  exact ⟨_, by simp only [renderRegion, hblocks, Text.checkTimes_eq_ok hlines]; rfl⟩

end Returns

/-! ## Statements read back -/

/-- **What a statement becomes** when it is written and read: its bindings are in order, its strings
in the quotes asked for, and line endings inside its comments are those of the text. -/
structure ReadsBack (s : Settings) (eol : Eol) (st out : Statement) : Prop where
  typeOnly : out.typeOnly = st.typeOnly
  attributes : out.attributes = st.attributes
  bindings : out.bindings =
    (sortBindings s st.bindings).map (Binding.requoted (st.targetQuote s))
  quote : out.quote = st.targetQuote s
  target : out.quote.enclose out.specifier = requote st.specifier st.quote (st.targetQuote s)
  semicolon : out.hasSemicolon = st.endsInSemicolon s
  leading : out.leadingComments = st.leadingComments.map (Text.withEol eol)
  trailing : out.trailingComment = st.trailingComment.map (Text.withEol eol)

/-- **What was written for statements is read as them**, with no code behind them. -/
def IsReadBack (s : Settings) (d : Dialect) (eol : Eol) (groups : List (List Statement))
    (t : Text) : Prop :=
  ∃ head, Head.parse t d = .ok head ∧ head.codeStart = none ∧
    List.Forall₂ (ReadsBack s eol) groups.flatten (head.statements s.gap)

/-- The pieces that a statement is written as. -/
structure Rendered.IsOf (d : Dialect) (s : Settings) (eol : Eol) (st : Statement) (r : Rendered) :
    Prop where
  pieces : r.IsFor eol (st.leadingComments.map (Text.withEol eol))
    (st.trailingComment.map (Text.withEol eol))
  valid : r.sentence.IsValid d
  sentence : ∃ clause, r.sentence = st.sentence s clause

theorem exists_isOf [Platform] {d : Dialect} {s : Settings} {eol : Eol} {st : Statement}
    (h : st.WellFormed d)
    (hopen : ∀ b ∈ st.bindings, b.name ∉ openings) (hinner : st.innerComments = false)
    (hbare : ∀ b ∈ st.bindings, b.isBareAs = false) {ls : List Text}
    (hls : st.renderLines s eol = .ok ls) :
    ∃ r, Rendered.IsOf d s eol st r ∧ r.text = Text.join eol.text ls := by
  obtain ⟨text, htext, -⟩ := Parser.ok_of_bind hls
  obtain ⟨ps, rfl, hchain, hvalid⟩ := Statement.exists_sentence h hopen hinner htext
  obtain ⟨lead, trail, hlead, htrail, hjoin⟩ := exists_comments h htext hls
  have hvalid : (st.sentence s (Statement.importPiece :: ps)).IsValid d := by
    rcases hvalid with ⟨-, hvalid⟩ | ⟨⟨-, -, -, b, hb, htrue⟩, -⟩
    · exact hvalid
    · have hmem : b ∈ st.bindings := mem_inOrder.1 (List.mem_of_getLast? hb)
      rw [hbare b hmem] at htrue
      cases htrue
  exact ⟨⟨lead, _, trail⟩, ⟨⟨hlead, hchain, ⟨ps, rfl⟩, htrail⟩, hvalid, _, rfl⟩, hjoin⟩

theorem readsBack_statement {s : Settings} {eol : Eol} {st : Statement} {clause : List Piece}
    {offset index : Nat} {leading trailing : List Piece}
    (hlead : Piece.lines leading = st.leadingComments.map (Text.withEol eol))
    (htrail : Piece.stretch? trailing = st.trailingComment.map (Text.withEol eol)) :
    ReadsBack s eol st
      (Layout.statement (st.sentence s clause) offset index leading trailing) := by
  have hquote : ((requote st.specifier st.quote (st.targetQuote s)).head?.bind
      Quote.ofChar?).getD .single = st.targetQuote s := by
    simp [requote]
  refine ⟨rfl, ?_, rfl, hquote, ?_, ?_, hlead, htrail⟩
  · simp only [Layout.statement, Statement.sentence, Option.map_map]
    cases st.attributes <;> simp
  · simp only [Layout.statement, Statement.sentence, hquote]
    simp [requote, Quote.enclose]
  · simp only [Layout.statement, Statement.sentence]
    cases st.endsInSemicolon s <;> rfl

/-- Written statements in a row read back one by one. -/
theorem readsBack_segments {d : Dialect} {s : Settings} {eol : Eol} {st : Statement}
    {sts : List Statement} {r : Rendered} {rs : List (Nat × Rendered)} {offset index : Nat}
    {leading : List Piece} (hr : r.IsOf d s eol st)
    (hrs : List.Forall₂ (Rendered.IsOf d s eol) sts (rs.map (·.2))) (hle : ∀ q ∈ rs, 1 ≤ q.1)
    (hlead : Piece.lines leading = st.leadingComments.map (Text.withEol eol)) :
    List.Forall₂ (ReadsBack s eol) (st :: sts)
      (Layout.statementsFrom offset index leading r.sentence (Rendered.segments eol r.trail rs)
        (Rendered.lastTrail r.trail rs)) := by
  have htrail := hr.pieces.trail
  obtain ⟨clause, hclause⟩ := hr.sentence
  have hbreak : ∀ p ∈ r.trail, p.isBreak = false := fun p hp => (htrail.isGap p hp).2
  induction rs generalizing st sts r offset index leading clause with
  | nil =>
    obtain rfl : sts = [] := by
      cases hrs
      rfl
    have hsame : sameLine r.trail = r.trail := by
      simpa [sameLine] using sameLine_append_of_not_break hbreak []
    rw [Rendered.segments, Rendered.lastTrail, Layout.statementsFrom, hsame, hclause]
    exact .cons (readsBack_statement hlead htrail.stretch?_eq) .nil
  | cons q rs ih =>
    obtain ⟨k, r'⟩ := q
    cases hrs with
    | @cons st' _ sts _ hr' hrs =>
      -- The gap is cut at its first line ending: the comment behind this statement, and the lines
      -- above the next.
      obtain ⟨k, rfl⟩ := Nat.exists_eq_add_of_le' (hle (k, r') (by simp))
      obtain ⟨clause', hclause'⟩ := hr'.sentence
      rw [Rendered.segments, Rendered.lastTrail, Layout.statementsFrom, hclause]
      have hgap : r.trail ++ (List.replicate (k + 1) (ofEol eol) ++ r'.lead) =
          r.trail ++ ofEol eol :: (List.replicate k (ofEol eol) ++ r'.lead) := by
        rw [List.replicate_succ, List.cons_append]
      have hlines : Piece.lines (ofEol eol :: (List.replicate k (ofEol eol) ++ r'.lead)) =
          st'.leadingComments.map (Text.withEol eol) := by
        rw [lines_cons_blank (by simp), lines_append_blank, hr'.pieces.lead.lines_eq]
        intro p hp
        rw [List.eq_of_mem_replicate hp]
        rfl
      rw [hgap, sameLine_break hbreak (isBreak_ofEol eol), below_break hbreak (isBreak_ofEol eol)]
      refine .cons (readsBack_statement hlead htrail.stretch?_eq) ?_
      exact ih hr' hrs (fun q hq => hle q (by simp [hq])) hlines hr'.pieces.trail clause' hclause'
        fun p hp => (hr'.pieces.trail.isGap p hp).2

/-! ## The layout of a rendered region -/

namespace Rendered

variable {d : Dialect} {s : Settings} {eol : Eol} {sts : List Statement} {r : Rendered}
  {rs : List (Nat × Rendered)}

/-- The layout of written statements and nothing else. -/
def layout (eol : Eol) (r : Rendered) (rs : List (Nat × Rendered)) : Layout where
  shebang := []
  directives := []
  spans := []
  segments := ⟨r.lead, r.sentence⟩ :: segments eol r.trail rs
  gap := lastTrail r.trail rs
  code := []

theorem source_layout (r : Rendered) (rs : List (Nat × Rendered)) :
    (layout eol r rs).source =
      r.text ++ rs.flatMap fun q => eol.text.times q.1 ++ q.2.text := by
  have hrow := @textOf_segments eol r.trail rs
  rw [textOf_append] at hrow
  simp only [layout, Layout.source, Layout.pieces, Segment.row_cons, textOf_append,
    List.append_nil, List.nil_append, List.append_assoc, hrow, text]

theorem isValid_layout {st : Statement} (hr : r.IsOf d s eol st)
    (hrs : List.Forall₂ (IsOf d s eol) sts (rs.map (·.2))) (hle : ∀ q ∈ rs, 1 ≤ q.1) :
    (layout eol r rs).IsValid d := by
  have hall : ∀ q ∈ (0, r) :: rs, ∃ st, q.2.IsOf d s eol st := by
    intro q hq
    rcases List.mem_cons.1 hq with rfl | hq
    · exact ⟨st, hr⟩
    · obtain ⟨st', -, hst'⟩ := exists_mem_of_forall₂ hrs (List.mem_map_of_mem hq)
      exact ⟨st', hst'⟩
  have hfor : AreFor eol ((0, r) :: rs) := by
    intro q hq
    obtain ⟨st', hst'⟩ := hall q hq
    exact ⟨_, _, hst'.pieces⟩
  have hrest : AreFor eol rs := fun q hq => hfor q (by simp [hq])
  obtain ⟨t, htrail⟩ := exists_isTrail_lastTrail hr.pieces.trail hrest
  have hgap : ∀ p ∈ lastTrail r.trail rs, p.isGap = true := fun p hp => (htrail.isGap p hp).1
  have hsegments : Segment.AreValid d (segments eol [] ((0, r) :: rs))
      (lastTrail r.trail rs ++ []) := by
    refine areValid_segments (by simp) hfor hle (fun q hq => ?_) fun q hq _ => ?_
    · obtain ⟨st', hst'⟩ := hall q hq
      exact hst'.valid
    · rw [List.append_nil, Token.ofPieces_of_gaps hgap]
      simp [Parser.StartsLine]
  refine ⟨?_, ?_, ⟨false, .nil, by simp⟩, by simp [layout], by simp [layout], hsegments, hgap,
    by simp [layout], ?_⟩
  · obtain ⟨c, hc, hcases⟩ := hr.pieces.head?_text
      (rs.flatMap fun q => eol.text.times q.1 ++ q.2.text)
    rw [source_layout]
    obtain ⟨rest, hrest⟩ := List.head?_eq_some_iff.1 hc
    rw [hrest]
    rcases hcases with rfl | rfl <;> rfl
  · have hchain : Chained (layout eol r rs).pieces none := by
      have hrow := chained_row hr.pieces.trail hrest hle
      simp only [layout, Layout.pieces, Segment.row_cons, List.nil_append, List.append_nil,
        List.append_assoc]
      rw [chained_append, chained_append, chained_append]
      exact ⟨hr.pieces.lead.chained _, hr.pieces.chained _, hrow _, htrail.chained⟩
    simpa using @scan_of_chained _ [] hchain
  · rw [layout, Token.ofPieces_gap_append hgap]
    rfl

end Rendered

theorem Head.parse_nil (d : Dialect) : Head.parse [] d = .ok ⟨[], d, 0, [], [], [], none⟩ := by
  have himports : Parser.imports 0 d [] [] = .ok ([], []) := by rw [Parser.imports]
  simp only [Head.parse, show scan (List.drop (shebangLength []) []) = [] from rfl]
  simp only [Token.ofPieces_nil, show Parser.directives [] = ([], []) from rfl, List.length_nil,
    himports]
  rfl

/-- A rendered region reads back. -/
theorem isReadBack_region [Platform] {d : Dialect} {s : Settings} {eol : Eol}
    {groups : List (List Statement)} {t : Text} (hgap : 1 ≤ s.gap)
    (hlines : 0 ≤ s.emptyLinesBetweenGroups)
    (hgroups : ∀ group ∈ groups, group ≠ [] ∧ ∀ st ∈ group, st.WellFormed d)
    (hinner : ∀ st ∈ groups.flatten, st.innerComments = false)
    (hpragma : ∀ st ∈ groups.flatten.head?, st.HasNoPragma)
    (hopen : ∀ st ∈ groups.flatten, ∀ b ∈ st.bindings, b.name ∉ openings)
    (hbare : ∀ st ∈ groups.flatten, ∀ b ∈ st.bindings, b.isBareAs = false)
    (h : renderRegion s eol groups = .ok t) : IsReadBack s d eol groups t := by
  have hformed : ∀ st ∈ groups.flatten, st.WellFormed d := by
    intro st hst
    obtain ⟨group, hgroup, hst⟩ := List.mem_flatten.1 hst
    exact (hgroups group hgroup).2 st hst
  by_cases hne : groups = []
  · subst hne
    obtain ⟨blocks, hblocks, hrest⟩ := Parser.ok_of_bind h
    obtain rfl := Except.ok.inj hblocks
    obtain ⟨u, -, hret⟩ := Parser.ok_of_bind hrest
    obtain rfl := Except.ok.inj hret
    exact ⟨_, Head.parse_nil d, rfl, .nil⟩
  obtain ⟨r, rs, rfl, hle, hall⟩ := @exists_rendered s eol groups t _ (Rendered.IsOf d s eol)
    (fun st hst ls hls =>
      exists_isOf (hformed st hst) (hopen st hst) (hinner st hst) (hbare st hst) hls)
    (fun group hgroup => (hgroups group hgroup).1) hne hlines h
  unfold IsReadBack
  generalize groups.flatten = sts at *
  cases hall with
  | @cons st _ sts _ hr hrs =>
    have hvalid := Rendered.isValid_layout hr hrs hle
    have hparse := Layout.parse_source hvalid
    rw [Rendered.source_layout] at hparse
    refine ⟨_, hparse, rfl, ?_⟩
    have hfloor : (Rendered.layout eol r rs).floor = 0 := rfl
    -- The comments above the first statement all lead it: nothing sets them apart.
    have hleading : ((Rendered.layout eol r rs).head d).firstLeading s.gap
        ((Rendered.layout eol r rs).floor + (textOf r.lead).length) =
        Comment.ofPieces ((Rendered.layout eol r rs).floor + (textOf []).length) r.lead := by
      rw [Layout.firstLeading_head hvalid rfl, if_pos hfloor, hfloor, Nat.zero_add,
        Rendered.source_layout, Rendered.text, List.append_assoc]
      exact belowFileLevel_isLead _ hr.pieces.lead (hformed st (by simp)).leading
        (hpragma st rfl) hgap
    rw [Layout.statements_head hvalid rfl (List.nil_append _).symm hleading]
    exact readsBack_segments hr hrs hle hr.pieces.lead.lines_eq

/-! ## Arranged statements of a source -/

/-- The statements of a source that is read are well formed. -/
theorem Head.wellFormed_statements {source : Text} {d : Dialect} {head : Head}
    (h : Head.parse source d = .ok head) (gap : Nat) :
    ∀ st ∈ head.statements gap, st.WellFormed d := by
  by_cases himports : head.imports = []
  · simp [statements, attached, himports]
  · obtain ⟨l, hl, -, rfl⟩ := Layout.exists_of_parse h himports
    exact Layout.wellFormed_statements hl gap

/-- **A name or a string**, as one piece. -/
def IsNameOrString (t : Text) : Prop := scan t = [⟨.name, t⟩] ∨ scan t = [⟨.string, t⟩]

theorem IsNameOrString.not_mem_openings {t : Text} (h : IsNameOrString t) : t ∉ openings := by
  rcases h with h | h
  · exact Word.not_mem_openings (w := ⟨.name, t⟩)
      ⟨.name, rfl, by simpa [StandsBefore] using h⟩ (by simp)
  · exact Word.not_mem_openings (w := ⟨.string, t⟩)
      ⟨.string, rfl, by simpa [StandsBefore] using h⟩ (by simp)

theorem Statement.WellFormed.not_mem_openings {d : Dialect} {st : Statement} (h : st.WellFormed d)
    (hnames : ∀ b ∈ st.bindings, b.kind = .namedExport → IsNameOrString b.name) :
    ∀ b ∈ st.bindings, b.name ∉ openings := by
  intro b hb
  by_cases hk : b.kind = .namedExport
  · exact (hnames b hb hk).not_mem_openings
  · obtain ⟨dflt, ns, named, hbs, hbind⟩ := h.bindings
    rw [hbs] at hb
    obtain ⟨hwhole, -⟩ := (Binding.isRead_of_areBindings hbind b hb).1 hk
    exact Word.not_mem_openings hwhole (by simp)

/-- **Statements that can be written so that they are read again**: there are no comments inside of
them and no pragma above the first, and what they import by name is a name or a string, which is not
taken for a part of the list. -/
structure AreReadable (groups : List (List Statement)) : Prop where
  inner : ∀ st ∈ groups.flatten, st.innerComments = false
  pragma : ∀ st ∈ groups.flatten.head?, ∀ line ∈ st.leadingComments,
    ∀ c ∈ Comment.ofPieces 0 (scan line), c.isPragma = false
  names : ∀ st ∈ groups.flatten, ∀ b ∈ st.bindings, b.kind = .namedExport → IsNameOrString b.name
  bare : ∀ st ∈ groups.flatten, ∀ b ∈ st.bindings, b.isBareAs = false

instance (t : Text) : Decidable (IsNameOrString t) :=
  inferInstanceAs (Decidable (_ ∨ _))

instance (groups : List (List Statement)) : Decidable (AreReadable groups) :=
  decidable_of_iff (_ ∧ _ ∧ _ ∧ _)
    ⟨fun h => ⟨h.1, h.2.1, h.2.2.1, h.2.2.2⟩, fun h => ⟨h.inner, h.pragma, h.names, h.bare⟩⟩

/-- **Rendering and reading are inverse** on arranged statements: what is written for them is read
again, with no code behind it, as the same statements in the same order. Comments above the first
statement need a gap that is not zero, and groups a line of their own. Rendering returns if the
quotes are known, and the indentation and the blank lines between groups are within the limits of
memory. -/
theorem readsBack_renderRegion [Platform] {source : Text} {d : Dialect} {head : Head} {s : Settings}
    {project : Option Project} {groups : List (List Statement)} (eol : Eol)
    (hparse : Head.parse source d = .ok head) (hgap : 1 ≤ s.fileCommentGap)
    (hlines : 0 ≤ s.emptyLinesBetweenGroups)
    (harrange : (arrange s project (head.statements s.gap)).result = .ok groups)
    (hreadable : AreReadable groups) :
    (s.knowsQuote = true → s.indent ≤ sizeLimit → eol.text.length * s.breaks ≤ sizeLimit →
        ∃ t, renderRegion s eol groups = .ok t) ∧
      ∀ t, renderRegion s eol groups = .ok t → IsReadBack s d eol groups t := by
  have hgroups := wellFormed_arrange (Head.wellFormed_statements hparse s.gap) harrange
  have hgap : 1 ≤ s.gap := by
    unfold Settings.gap
    omega
  refine ⟨exists_renderRegion hreadable.inner, ?_⟩
  intro t ht
  refine isReadBack_region hgap hlines hgroups hreadable.inner hreadable.pragma ?_ hreadable.bare ht
  intro st hst
  obtain ⟨group, hgroup, hmem⟩ := List.mem_flatten.1 hst
  exact ((hgroups group hgroup).2 st hmem).not_mem_openings (hreadable.names st hst)

/-- A source with a list over two kinds of names and comments of both kinds. -/
def mixedSource : Text :=
  "import \x7btype b, 'x-y' as a\x7d from \"./m\" // t\n\n// n\nimport * as n from 'fs'".toList

/-- The arranged statements of the source. -/
def mixedGroups : List (List Statement) :=
  [[{ specifier := "fs".toList
      bindings := [⟨.namespaceObject, ['n'], none, false⟩]
      leadingComments := ["// n".toList]
      start := 50
      stop := 73
      raw := some "import * as n from 'fs'".toList
      hasSemicolon := false
      index := 1 }],
    [{ specifier := "./m".toList
       bindings := [⟨.namedExport, ['b'], none, true⟩,
         ⟨.namedExport, "'x-y'".toList, some ['a'], false⟩]
       trailingComment := some "// t".toList
       start := 0
       stop := 38
       raw := some "import \x7btype b, 'x-y' as a\x7d from \"./m\"".toList
       quote := .double
       hasSemicolon := false }]]

section Usual

attribute [local instance] Platform.usual

/-- The source is arranged, written with other quotes and line endings, and read back. -/
theorem readsBack_mixedSource : ∃ head t,
    Head.parse mixedSource ⟨true, false⟩ = .ok head ∧
      (arrange {} none (head.statements 1)).result = .ok mixedGroups ∧
      renderRegion {} .crlf mixedGroups = .ok t ∧
      IsReadBack {} ⟨true, false⟩ .crlf mixedGroups t := by
  have hread : (Head.parse mixedSource ⟨true, false⟩).toOption.bind (fun head =>
      (arrange {} none (head.statements 1)).result.toOption) = some mixedGroups := by
    decide +kernel
  obtain ⟨head, hparse, harrange⟩ := Option.bind_eq_some_iff.1 hread
  have hparse := Except.eq_ok_of_toOption hparse
  have harrange := Except.eq_ok_of_toOption harrange
  obtain ⟨hreturns, hround⟩ := readsBack_renderRegion (s := {}) .crlf hparse (by decide) (by decide)
    harrange (by decide +kernel)
  obtain ⟨t, ht⟩ := hreturns (by decide) (by decide) (by decide)
  exact ⟨head, t, hparse, harrange, ht, hround t ht⟩

end Usual

/-! ## Layers that are not read from data -/

/-- **A source that is not read back** under the settings of a layer, although its statements are
readable. -/
def IsLost [Platform] (l : Layer) (source : Text) (d : Dialect) (eol : Eol) : Prop :=
  ∃ s head groups, (Settings.resolveSources true [.layer l]).result = .ok s ∧
    Head.parse source d = .ok head ∧
    (arrange s none (head.statements s.gap)).result = .ok groups ∧ AreReadable groups ∧
    ¬∃ t, renderRegion s eol groups = .ok t ∧ IsReadBack s d eol groups t

theorem IsReadBack.leadingComments_eq {s : Settings} {d : Dialect} {eol : Eol}
    {groups : List (List Statement)} {t : Text} {head : Head} (h : IsReadBack s d eol groups t)
    (hparse : Head.parse t d = .ok head) :
    (head.statements s.gap).map (·.leadingComments) =
      groups.flatten.map (·.leadingComments.map (Text.withEol eol)) := by
  obtain ⟨head', hparse', -, hall⟩ := h
  obtain rfl := Except.ok.inj (hparse.symm.trans hparse')
  generalize groups.flatten = sts, head.statements s.gap = out at hall
  induction hall with
  | nil => rfl
  | cons hst _ ih => rw [List.map_cons, List.map_cons, hst.leading, ih]

/-- A source with a comment above each of its imports, which belong to different groups. -/
def remarkedSource : Text := "// d\nimport './b';\n// c\nimport a from 'a';\n".toList

/-- A source is not read back if the comments above its statements are not. -/
theorem isLost_of_leadingComments [Platform] {l : Layer} {source : Text} {d : Dialect} {eol : Eol}
    (h : ∃ s ∈ (Settings.resolveSources true [.layer l]).result.toOption,
      ∃ head ∈ (Head.parse source d).toOption,
      ∃ groups ∈ (arrange s none (head.statements s.gap)).result.toOption, AreReadable groups ∧
        ∀ t ∈ (renderRegion s eol groups).toOption, ∀ head' ∈ (Head.parse t d).toOption,
          (head'.statements s.gap).map (·.leadingComments) ≠
            groups.flatten.map (·.leadingComments.map (Text.withEol eol))) :
    IsLost l source d eol := by
  obtain ⟨s, hs, head, hparse, groups, harrange, hreadable, hlost⟩ := h
  refine ⟨s, head, groups, Except.eq_ok_of_toOption hs, Except.eq_ok_of_toOption hparse,
    Except.eq_ok_of_toOption harrange, hreadable, ?_⟩
  rintro ⟨t, ht, hback⟩
  obtain ⟨head', hparse', -⟩ := id hback
  refine hlost t ?_ head' ?_ (hback.leadingComments_eq hparse')
  · rw [ht]
    rfl
  · rw [hparse']
    rfl

section Usual

attribute [local instance] Platform.usual

/-- A layer that is not read from data can set what a settings file cannot: a gap of no line, so
that comments above the first statement are no longer part of it, no line between groups, so that
the comments of the second are taken for the first, and quotes that are not known. -/
theorem isLost_remarkedSource :
    IsLost { fileCommentGap := some 0 } remarkedSource ⟨true, false⟩ .lf ∧
      IsLost { emptyLinesBetweenGroups := some (-1) } remarkedSource ⟨true, false⟩ .lf ∧
      IsLost { quoteMark := some "backtick" } remarkedSource ⟨true, false⟩ .lf := by
  refine ⟨isLost_of_leadingComments ?_, isLost_of_leadingComments ?_,
    isLost_of_leadingComments ?_⟩
  · decide +kernel
  · decide +kernel
  · decide +kernel

end Usual

end ImportOrder
