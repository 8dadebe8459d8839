import ImportOrder.Proofs.Results
import ImportOrder.Proofs.Source.Blocks

/-!
# What the head of a source is made of

The directives and the imports of a source are blocks of its pieces, and the head is these blocks in
a row: up to the code nothing stands beside them but comments and blanks. So every character of the
head is accounted for, whether the source has imports or not.

## Main definitions

* `Head.spans`, `Head.limit`: where the statements of a head stand, and where it ends
* `Head.IsExhaustive`: a head that accounts for its text

## Main results

* `Layout.IsFound.exists_blocks`: the head of a layout is a row of blocks
* `Head.parse_isExhaustive`: reading ends, and what is read accounts for its text
-/

namespace ImportOrder

open Piece (textOf)

/-! ## Directives as blocks -/

namespace Token

theorem isGap_of_ofPieces_eq_nil {offset : Nat} {newline : Bool} {ps : List Piece}
    (h : ofPieces offset newline ps = []) : ∀ p ∈ ps, p.isGap = true := by
  intro p hp
  have hwords := map_word_ofPieces offset newline ps
  rw [h, List.map_nil] at hwords
  have hnone := List.filterMap_eq_nil_iff.1 hwords.symm p hp
  simpa [Piece.word?, Piece.isGap] using hnone

/-- The block of the first tokens, and what follows it. -/
theorem exists_block {offset : Nat} {newline : Bool} {ps : List Piece} {ts us : List Token}
    (h : ofPieces offset newline ps = ts ++ us) (hts : ts ≠ []) :
    ∃ (b : Block) (rest : List Piece), ps = b.gap ++ (b.run ++ rest) ∧
      span? ts = some ⟨offset + (textOf b.gap).length,
        offset + (textOf b.gap).length + (textOf b.run).length⟩ ∧
      ofPieces (offset + (textOf b.gap).length + (textOf b.run).length) false rest = us := by
  obtain ⟨gap, run, rest, rfl, hgap, hrun, htok, hrest⟩ := exists_run h hts
  refine ⟨⟨gap, run, hgap, hrun⟩, rest, List.append_assoc _ _ _, ?_, hrest⟩
  rw [← htok, span?_ofPieces_of_isRun hrun]

end Token

/-- The pieces of directives are blocks, and a gap. -/
theorem Parser.Directives.exists_blocks {us : List Token} {ds : List Span} {isOpen : Bool}
    (h : Directives us ds isOpen) {offset : Nat} {newline : Bool} {ps : List Piece}
    (htok : Token.ofPieces offset newline ps = us) :
    ∃ (bs : List Block) (gap : List Piece), ps = Block.row bs ++ gap ∧
      (∀ p ∈ gap, p.isGap = true) ∧ Block.spans offset bs = ds := by
  induction h generalizing offset newline ps with
  | nil => exact ⟨[], ps, rfl, Token.isGap_of_ofPieces_eq_nil htok, rfl⟩
  | @closed t u us ds isOpen _ _ _ ih =>
    obtain ⟨b, rest, rfl, hspan, hrest⟩ := @Token.exists_block _ _ _ [t, u] us htok (by simp)
    obtain ⟨bs, gap, rfl, hgap, rfl⟩ := ih hrest
    refine ⟨b :: bs, gap, by simp, hgap, ?_⟩
    rw [Block.spans, ← Option.some.inj hspan]
    rfl
  | @ended t u us ds isOpen _ _ _ _ ih =>
    obtain ⟨b, rest, rfl, hspan, hrest⟩ := @Token.exists_block _ _ _ [t] (u :: us) htok (by simp)
    obtain ⟨bs, gap, rfl, hgap, rfl⟩ := ih hrest
    refine ⟨b :: bs, gap, by simp, hgap, ?_⟩
    rw [Block.spans, ← Option.some.inj hspan]
    rfl
  | @last t _ =>
    obtain ⟨b, rest, rfl, hspan, hrest⟩ := @Token.exists_block _ _ _ [t] [] htok (by simp)
    refine ⟨[b], rest, by simp, Token.isGap_of_ofPieces_eq_nil hrest, ?_⟩
    rw [Block.spans, ← Option.some.inj hspan]
    rfl

/-! ## Line breaks behind declarations -/

theorem Text.lineBreaks_pos_iff {t : Text} :
    0 < t.lineBreaks ↔ ∃ c ∈ t, isLineTerminator c = true := by
  rw [Nat.pos_iff_ne_zero, ne_eq, Text.lineBreaks_eq_zero_iff]
  simp

/-- A line ends at a line break, or at a carriage return or line feed in a block comment. -/
theorem Piece.exists_terminator_of_endsLine {p : Piece} (h : StandsBefore p [])
    (hends : p.endsLine = true) : ∃ c ∈ p.text, isLineTerminator c = true := by
  by_cases hbreak : p.isBreak = true
  · exact exists_terminator_of_isBreak h hbreak
  · have hmem : '\n' ∈ p.text ∨ '\r' ∈ p.text := by
      obtain ⟨kind, text⟩ := p
      cases kind <;> simp_all [endsLine, isBreak]
    rcases hmem with hmem | hmem
    · exact ⟨'\n', hmem, rfl⟩
    · exact ⟨'\r', hmem, rfl⟩

/-- A line ends before a token that starts a line. -/
theorem Parser.StartsLine.lineBreaks_pos {pre : Text} {ps : List Piece} {n : Nat}
    (h : StartsLine (Token.ofPieces 0 false ps)) (hps : ∀ p ∈ ps, Piece.StandsBefore p [])
    (hn : (Token.ofPieces pre.length false ps).head?.map Token.start = some n) :
    0 < ((pre ++ textOf ps).slice pre.length n).lineBreaks := by
  obtain ⟨gap, rest, rfl, hgap, hrest⟩ := Token.exists_gap ps
  cases rest with
  | nil =>
    rw [List.append_nil, Token.ofPieces_of_gaps hgap] at hn
    cases hn
  | cons p rest =>
    obtain ⟨k, hk⟩ := Piece.exists_token_of_isGap (hrest p rfl)
    rw [Token.ofPieces_gap_cons hgap hk] at h hn
    obtain rfl := Option.some.inj hn
    obtain ⟨q, hq, hends⟩ := List.any_eq_true.1 (h _ rfl).1
    obtain ⟨c, hc, hterm⟩ :=
      Piece.exists_terminator_of_endsLine (hps q (List.mem_append_left _ hq)) hends
    rw [Piece.textOf_append, Text.slice_append, Text.lineBreaks_pos_iff]
    exact ⟨c, List.mem_flatMap.2 ⟨q, hq, hc⟩, hterm⟩

namespace Segment

variable {d : Dialect}

/-- Where the declarations of segments start, and then what stands behind them. -/
def starts (offset : Nat) (gs : List Segment) (tail : List Piece) : List Nat :=
  (decls offset gs).map (·.span.start) ++
    ((Token.ofPieces (offset + (textOf (row gs)).length) false tail).head?.map Token.start).toList

/-- The first token is that of the first declaration, or else it stands behind all of them. -/
theorem head?_starts {gs : List Segment} {tail : List Piece} (hgs : AreValid d gs tail)
    (offset : Nat) :
    (starts offset gs tail).head? =
      (Token.ofPieces offset false (row gs ++ tail)).head?.map Token.start := by
  rw [starts]
  cases gs with
  | nil =>
    rw [row_nil, List.nil_append, Piece.textOf_nil, List.length_nil, Nat.add_zero]
    cases (Token.ofPieces offset false tail).head? <;> rfl
  | cons g gs =>
    obtain ⟨ts, hts⟩ := Layout.ofPieces_row hgs rfl offset tail
    rw [hts]
    rfl

/-- **A line ends behind a declaration without semicolon**, before what follows it. -/
theorem lineBreaks_behind_pos {pre : Text} {gs : List Segment} {tail : List Piece}
    {e : ImportDecl × Nat} (hps : ∀ p ∈ row gs ++ tail, Piece.StandsBefore p [])
    (hgs : AreValid d gs tail)
    (he : e ∈ (decls pre.length gs).zip (starts pre.length gs tail).tail)
    (hnone : e.1.hasSemicolon = false) :
    0 < ((pre ++ textOf (row gs ++ tail)).slice e.1.span.stop e.2).lineBreaks := by
  induction gs generalizing pre with
  | nil => cases he
  | cons g gs ih =>
    obtain ⟨-, -, hline, hgs⟩ := hgs
    rw [row_cons, List.append_assoc, List.append_assoc] at hps
    have hrest : ∀ p ∈ row gs ++ tail, Piece.StandsBefore p [] := fun p hp =>
      hps p (List.mem_append_right _ (List.mem_append_right _ hp))
    obtain ⟨front, hfront⟩ : ∃ front, front = pre ++ (textOf g.gap ++ textOf g.sentence.pieces) :=
      ⟨_, rfl⟩
    have hsource : pre ++ textOf (row (g :: gs) ++ tail) = front ++ textOf (row gs ++ tail) := by
      simp [hfront]
    have hstop : pre.length + (textOf g.gap).length + (textOf g.sentence.pieces).length =
        front.length := by simp [hfront, Nat.add_assoc]
    have hend : pre.length + (textOf (row (g :: gs))).length =
        front.length + (textOf (row gs)).length := by simp [hfront, Nat.add_assoc]
    have hnext := head?_starts hgs front.length
    have htail : (starts pre.length (g :: gs) tail).tail = starts front.length gs tail := by
      rw [starts, decls, hend, hstop]
      rfl
    rw [htail, decls, hstop] at he
    rw [hsource]
    -- The declaration is the first one, before the first of the starts, or one of the others.
    cases hstarts : starts front.length gs tail with
    | nil =>
      rw [hstarts] at he
      cases he
    | cons n ns =>
      rw [hstarts] at he hnext
      rcases List.mem_cons.1 he with rfl | he
      · have hsemicolon : g.sentence.semicolon = none := by
          simpa [Sentence.decl] using hnone
        have hpos := (hline hsemicolon).lineBreaks_pos hrest hnext.symm
        rwa [← hstop] at hpos
      · refine ih hrest hgs ?_
        rwa [hstarts]

end Segment

/-! ## Heads as blocks -/

namespace Layout

variable {d : Dialect} {l : Layout}

/-- **The head of a layout is a row of blocks**, its directives and its declarations, and a gap. -/
theorem IsFound.exists_blocks (h : l.IsFound d) :
    ∃ bs : List Block, l.headPieces = Block.row bs ++ l.gap ∧
      Block.spans l.shebang.length bs =
        l.spans ++ (Segment.decls l.floor l.segments).map (·.span) := by
  obtain ⟨isOpen, hdir, -⟩ := h.directives
  obtain ⟨ds, gap, hds, hgap, hspans⟩ := hdir.exists_blocks rfl
  obtain ⟨bs, hrow, hdecls⟩ := Segment.exists_blocks h.segments
  obtain rfl : gap = [] := by
    rcases List.eq_nil_or_concat gap with hnil | ⟨init, p, rfl⟩
    · exact hnil
    · have hlast := h.directivesEnd p (by simp [hds, ← List.append_assoc])
      rw [hgap p (by simp)] at hlast
      cases hlast
  rw [List.append_nil] at hds
  refine ⟨ds ++ bs, ?_, ?_⟩
  · rw [Block.row_append, hrow, ← hds, headPieces, List.append_assoc]
  · rw [Block.spans_append, hspans, hdecls, ← hds]
    rfl

end Layout

namespace Head

/-- Where the directives and the imports of a head stand. -/
def spans (h : Head) : List Span := h.directives ++ h.imports.map (·.span)

/-- Where a head ends: where the code starts, or else the source ends. -/
def limit (h : Head) : Nat := h.codeStart.getD h.source.length

/-- Where the next import starts behind each import, or the code behind the last one. -/
def followers (h : Head) : List Nat :=
  (h.imports.map (·.span.start) ++ h.codeStart.toList).tail

/-- **A head that accounts for its text**: statements, comments and blanks are all there is. -/
structure IsExhaustive (h : Head) : Prop where
  /-- The head is a part of the source. -/
  bounds : h.shebangEnd ≤ h.limit ∧ h.limit ≤ h.source.length
  /-- The directives and then the imports stand in it one after the other. -/
  nonempty : ∀ s ∈ h.spans, s.start < s.stop
  ordered : h.spans.Pairwise (·.stop ≤ ·.start)
  within : ∀ s ∈ h.spans, h.shebangEnd ≤ s.start ∧ s.stop ≤ h.limit
  /-- So do the comments, and they are parts of the source. -/
  commentText : ∀ c ∈ h.comments, c.start < c.stop ∧ h.source.slice c.start c.stop = c.text
  commentOrder : h.comments.Pairwise (·.stop ≤ ·.start)
  commentWithin : ∀ c ∈ h.comments, h.shebangEnd ≤ c.start ∧ c.stop ≤ h.limit
  /-- A comment stands in one statement, or in none and reaches into none. -/
  commentPlace : ∀ c ∈ h.comments,
    (∃ s ∈ h.spans, s.start < c.start ∧ c.stop < s.stop) ∨
      ∀ s ∈ h.spans, c.stop ≤ s.start ∨ s.stop ≤ c.start
  /-- What is in no statement and in no comment is blank. -/
  covered : ∀ i, h.shebangEnd ≤ i → i < h.limit →
    (∃ s ∈ h.spans, s.start ≤ i ∧ i < s.stop) ∨
      (∃ c ∈ h.comments, c.start ≤ i ∧ i < c.stop) ∨
        ∃ x, h.source[i]? = some x ∧ (isSpace x = true ∨ isLineTerminator x = true)
  /-- A line ends behind an import without semicolon, before what follows it. -/
  lines : ∀ e ∈ h.imports.zip h.followers, e.1.hasSemicolon = false →
    0 < (h.source.slice e.1.span.stop e.2).lineBreaks
  /-- The code does not start with an import. -/
  code : ∀ n ∈ h.codeStart,
    Parser.startsImport 0 (Token.ofPieces 0 false (Piece.scan (h.source.drop n))) = false

end Head

namespace Layout.IsFound

variable {d : Dialect} {l : Layout} (h : l.IsFound d)
include h

theorem standsBefore_of_mem_headPieces : ∀ p ∈ l.headPieces, Piece.StandsBefore p [] := fun p hp =>
  h.standsBefore p (by rw [pieces_eq]; exact List.mem_append_left _ hp)

/-- A line ends behind an import without semicolon. -/
theorem lineBreaks_followers_pos {e : ImportDecl × Nat}
    (he : e ∈ (l.head d).imports.zip (l.head d).followers) (hnone : e.1.hasSemicolon = false) :
    0 < (l.source.slice e.1.span.stop e.2).lineBreaks := by
  obtain ⟨pre, hpre⟩ : ∃ pre, pre = l.shebang ++ textOf l.directives := ⟨_, rfl⟩
  have hfloor : l.floor = pre.length := by rw [hpre, List.length_append, floor]
  have hsource : l.source = pre ++ textOf (Segment.row l.segments ++ (l.gap ++ l.code)) := by
    simp [hpre, source, Layout.pieces]
  rw [Head.followers, h.head_eq rfl, hfloor] at he
  rw [hsource]
  exact Segment.lineBreaks_behind_pos (fun p hp => h.standsBefore p (List.mem_append_right _ hp))
    h.segments he hnone

/-- The code does not start with an import. -/
theorem startsImport_code {n : Nat} (hn : n ∈ (l.head d).codeStart) :
    Parser.startsImport 0 (Token.ofPieces 0 false (Piece.scan (l.source.drop n))) = false := by
  obtain rfl : l.headEnd = n := by
    rw [← getD_codeStart l d, Option.mem_def.1 hn, Option.getD_some]
  have hdrop : l.source.drop l.headEnd = textOf l.code := by
    rw [source_eq, headEnd, ← List.length_append, List.drop_left]
  have hscan := h.pieces
  rw [pieces_eq] at hscan
  have hstart := h.codeStart
  rw [Token.ofPieces_gap_append h.gap] at hstart
  rw [hdrop, Piece.scan_textOf_right hscan, ← hstart]
  exact Parser.startsImport_ofPieces _ _ _ _ _

/-- **The head of a layout accounts for its text.** -/
theorem isExhaustive : (l.head d).IsExhaustive := by
  obtain ⟨bs, hrow, hspans⟩ := h.exists_blocks
  have hspans : (l.head d).spans = Block.spans l.shebang.length bs := hspans.symm
  have hstands := h.standsBefore_of_mem_headPieces
  have hsource : (l.head d).source = l.shebang ++ (textOf l.headPieces ++ textOf l.code) := by
    rw [← List.append_assoc]
    exact source_eq l
  have hlimit : (l.head d).limit = l.shebang.length + (textOf l.headPieces).length :=
    getD_codeStart l d
  have hcomments : (l.head d).comments = Comment.ofPieces l.shebang.length l.headPieces := rfl
  rw [hrow] at hstands hsource hlimit hcomments
  have hne : ∀ p ∈ Block.row bs ++ l.gap, p.text ≠ [] := fun p hp => (hstands p hp).text_ne_nil
  have hshebang : (l.head d).shebangEnd = l.shebang.length := rfl
  constructor
  case bounds =>
    rw [hlimit, hshebang, hsource]
    simp only [List.length_append]
    omega
  case nonempty =>
    rw [hspans]
    exact fun s hs =>
      Block.start_lt_stop_of_mem_spans (fun p hp => hne p (List.mem_append_left _ hp)) hs
  case ordered =>
    rw [hspans]
    exact Block.pairwise_spans _ _
  case within =>
    rw [hspans, hlimit]
    intro s hs
    refine ⟨Block.le_start_of_mem_spans hs, Nat.le_trans (Block.stop_le_of_mem_spans hs) ?_⟩
    simp
  case commentText =>
    rw [hsource, hcomments]
    exact fun c hc => Comment.slice_of_mem_ofPieces _ hne hc
  case commentOrder =>
    rw [hcomments]
    exact Comment.pairwise_ofPieces _ _ hne
  case commentWithin =>
    rw [hlimit, hcomments]
    exact fun c hc => ⟨(Comment.mem_ofPieces_lt hne hc).1, Comment.stop_le_of_mem_ofPieces hc⟩
  case commentPlace =>
    rw [hcomments, hspans]
    exact fun c hc => Block.comment_place hne hc
  case covered =>
    rw [hlimit, hcomments, hspans, hsource]
    exact fun i hle hlt => Block.covers _ hstands h.gap hle hlt
  case lines => exact fun e he hnone => h.lineBreaks_followers_pos he hnone
  case code => exact fun n hn => h.startsImport_code hn

end Layout.IsFound

namespace Head

/-- **Reading a source ends**, with an error or with a head that accounts for its text. -/
theorem parse_isExhaustive (source : Text) (d : Dialect) :
    (∃ e, Head.parse source d = .error e) ∨
      ∃ h, Head.parse source d = .ok h ∧ h.source = source ∧ h.IsExhaustive := by
  cases hparse : Head.parse source d with
  | error e => exact .inl ⟨e, rfl⟩
  | ok h =>
    obtain ⟨l, hl, rfl, rfl⟩ := Layout.exists_found hparse
    exact .inr ⟨l.head d, rfl, rfl, hl.isExhaustive⟩

/-- A source with comments in a directive and in an import, and a line that ends in a comment. -/
def brokenLineSource : Text :=
  ("#!/usr/bin/env node\n'use strict' /* a */ ; // b\nimport x /* c */ from 'm' /* d\n" ++
    "*/ import 'k'\n/* e */ code()").toList

/-- Each import without semicolon is followed by a line break before offset 82 or 101. -/
theorem isExhaustive_brokenLineSource :
    ∃ h, Head.parse brokenLineSource ⟨true, false⟩ = .ok h ∧
      h.spans = [⟨20, 42⟩, ⟨48, 73⟩, ⟨82, 92⟩] ∧ h.followers = [82, 101] ∧
      h.comments.length = 5 ∧ h.IsExhaustive := by
  have hread : (Head.parse brokenLineSource ⟨true, false⟩).toOption.map
      (fun h => (h.spans, h.followers, h.comments.length)) =
        some ([⟨20, 42⟩, ⟨48, 73⟩, ⟨82, 92⟩], [82, 101], 5) := by
    decide +kernel
  obtain ⟨h, hsome, hparts⟩ := Option.map_eq_some_iff.1 hread
  obtain ⟨hspans, hrest⟩ := Prod.mk.inj hparts
  obtain ⟨hfollowers, hcomments⟩ := Prod.mk.inj hrest
  have hparse := Except.eq_ok_of_toOption hsome
  rcases parse_isExhaustive brokenLineSource ⟨true, false⟩ with ⟨e, he⟩ | ⟨h', hok, -, hall⟩
  · rw [hparse] at he
    cases he
  · obtain rfl := Except.ok.inj (hparse.symm.trans hok)
    exact ⟨h, hparse, hspans, hfollowers, hcomments, hall⟩

end Head

end ImportOrder
