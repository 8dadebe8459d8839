import ImportOrder.Proofs.Source.CommentLines

/-!
# Blocks and the gaps between them

A directive or a declaration is a block of pieces that starts and ends with a token. Blocks in a
row, with a gap before each of them and one behind the last, leave nothing out: what is in no block
is in a gap, and a gap has nothing but comments and blanks.

## Main definitions

* `Block`: a block and the gap before it
* `Block.spans`: where the blocks of a row stand

## Main results

* `Block.pairwise_spans`: blocks follow one another
* `Block.comment_cases`: a comment does not reach over an end of a block
* `Block.covers`: an offset of a row falls into a block, a comment or a blank
-/

namespace ImportOrder

open Piece (textOf)

/-! ## Comments among pieces -/

namespace Comment

theorem start_le_stop (c : Comment) : c.start ≤ c.stop := Nat.le_add_right _ _

/-- Comments follow one another. -/
theorem pairwise_ofPieces (offset : Nat) (ps : List Piece) (hps : ∀ p ∈ ps, p.text ≠ []) :
    (ofPieces offset ps).Pairwise (·.stop ≤ ·.start) := by
  induction ps generalizing offset with
  | nil => exact List.Pairwise.nil
  | cons p ps ih =>
    have hrest := fun q hq => hps q (List.mem_cons_of_mem p hq)
    rw [ofPieces]
    split
    · exact List.pairwise_cons.2 ⟨fun c hc => (mem_ofPieces_lt hrest hc).1, ih _ hrest⟩
    · exact ih _ hrest

/-- A comment is not empty, and its text is that of the source. -/
theorem slice_of_mem_ofPieces {pre : Text} {ps : List Piece} {c : Comment} (post : Text)
    (hps : ∀ p ∈ ps, p.text ≠ []) (h : c ∈ ofPieces pre.length ps) :
    c.start < c.stop ∧ (pre ++ (textOf ps ++ post)).slice c.start c.stop = c.text := by
  induction ps generalizing pre with
  | nil => cases h
  | cons p ps ih =>
    have hrest := fun h => @ih (pre ++ p.text) (fun q hq => hps q (List.mem_cons_of_mem p hq)) h
    simp only [List.append_assoc, List.length_append] at hrest
    rw [Piece.textOf_cons, List.append_assoc]
    rw [ofPieces] at h
    split at h
    · rcases List.mem_cons.1 h with rfl | h
      · refine ⟨Nat.lt_add_of_pos_right (List.length_pos_iff.2 (hps p List.mem_cons_self)), ?_⟩
        exact Text.slice_append pre p.text (textOf ps ++ post)
      · exact hrest h
    · exact hrest h

end Comment

namespace Piece

theorem isComment_eq_false_of_isGap {p : Piece} (h : p.isGap = false) : p.isComment = false := by
  obtain ⟨kind, text⟩ := p
  cases kind <;> simp_all [isGap, isComment, PieceKind.token?, PieceKind.isComment]

/-- The pieces of a gap that are no comments are blank. -/
theorem isSpace_or_terminator_of_blank {p : Piece} (h : StandsBefore p []) (hgap : p.isGap = true)
    (hc : p.isComment = false) :
    ∀ x ∈ p.text, isSpace x = true ∨ isLineTerminator x = true := by
  have hshape := h.shape
  cases hshape <;> simp [isGap, isComment, PieceKind.token?, PieceKind.isComment] at *
  case newline c hterm => exact .inr hterm
  case crlf => exact ⟨.inr rfl, .inr rfl⟩
  case space t _ hall => exact fun x hx => .inl (hall x hx)

/-- The piece that an offset falls into. -/
theorem exists_at {offset i : Nat} {ps : List Piece} (hle : offset ≤ i)
    (hlt : i < offset + (textOf ps).length) :
    ∃ us p vs, ps = us ++ p :: vs ∧ offset + (textOf us).length ≤ i ∧
      i < offset + (textOf us).length + p.text.length := by
  induction ps generalizing offset with
  | nil => simp at hlt; omega
  | cons p ps ih =>
    by_cases hp : i < offset + p.text.length
    · exact ⟨[], p, ps, rfl, hle, hp⟩
    · rw [textOf_cons, List.length_append, ← Nat.add_assoc] at hlt
      obtain ⟨us, q, vs, rfl, hus, hq⟩ := ih (by omega) hlt
      refine ⟨p :: us, q, vs, rfl, ?_, ?_⟩ <;> rw [textOf_cons, List.length_append] <;> omega

end Piece

namespace Comment

/-- A comment among pieces that start and end with a token stands between these tokens. -/
theorem within_of_isRun {offset : Nat} {run : List Piece} {c : Comment} (hrun : Token.IsRun run)
    (hps : ∀ p ∈ run, p.text ≠ []) (hc : c ∈ ofPieces offset run) :
    offset < c.start ∧ c.stop < offset + (textOf run).length := by
  have hpos : ∀ p ∈ run, 0 < p.text.length := fun p hp => List.length_pos_iff.2 (hps p hp)
  constructor
  · obtain ⟨p, ps, rfl, hp⟩ := hrun.first
    have hrest : c ∈ ofPieces (offset + p.text.length) ps := by
      simpa [ofPieces, show p.kind.isComment = false from Piece.isComment_eq_false_of_isGap hp]
        using hc
    have hle := (mem_ofPieces_lt (fun q hq => hps q (List.mem_cons_of_mem p hq)) hrest).1
    have := hpos p List.mem_cons_self
    omega
  · obtain ⟨ps, p, rfl, hp⟩ := hrun.last
    have hinit : c ∈ ofPieces offset ps := by
      simpa [ofPieces_append, ofPieces,
        show p.kind.isComment = false from Piece.isComment_eq_false_of_isGap hp] using hc
    have hle := stop_le_of_mem_ofPieces hinit
    have := hpos p (by simp)
    rw [Piece.textOf_append, List.length_append, Piece.textOf_cons, Piece.textOf_nil,
      List.append_nil]
    omega

/-- What an offset of a gap falls into: a comment or a blank. -/
theorem covers_gap {pre : Text} {ps : List Piece} {i : Nat} (post : Text)
    (hps : ∀ p ∈ ps, Piece.StandsBefore p []) (hgap : ∀ p ∈ ps, p.isGap = true)
    (hle : pre.length ≤ i) (hlt : i < pre.length + (textOf ps).length) :
    (∃ c ∈ ofPieces pre.length ps, c.start ≤ i ∧ i < c.stop) ∨
      ∃ x, (pre ++ (textOf ps ++ post))[i]? = some x ∧
        (isSpace x = true ∨ isLineTerminator x = true) := by
  obtain ⟨us, p, vs, rfl, hus, hp⟩ := Piece.exists_at hle hlt
  have hmem : p ∈ us ++ p :: vs := by simp
  cases hc : p.isComment with
  | true =>
    have hk : p.kind.isComment = true := hc
    refine .inl ⟨⟨p.text, pre.length + (textOf us).length⟩, ?_, hus, hp⟩
    rw [ofPieces_append]
    simp [ofPieces, hk]
  | false =>
    obtain ⟨j, rfl⟩ := Nat.exists_eq_add_of_le hus
    have hj : j < p.text.length := by omega
    refine .inr ⟨p.text[j], ?_, Piece.isSpace_or_terminator_of_blank (hps p hmem) (hgap p hmem) hc _
      (List.getElem_mem hj)⟩
    have hsource : pre ++ (textOf (us ++ p :: vs) ++ post) =
        (pre ++ textOf us) ++ (p.text ++ (textOf vs ++ post)) := by simp
    rw [hsource, ← List.length_append, List.getElem?_append_right (Nat.le_add_right _ _),
      Nat.add_sub_cancel_left, List.getElem?_append_left hj, List.getElem?_eq_getElem hj]

end Comment

/-! ## Blocks in a row -/

/-- **A block of pieces** that starts and ends with a token, and the gap before it. -/
structure Block where
  gap : List Piece
  run : List Piece
  isGap : ∀ p ∈ gap, p.isGap = true
  isRun : Token.IsRun run

namespace Block

/-- The pieces of blocks in a row. -/
def row (bs : List Block) : List Piece := bs.flatMap fun b => b.gap ++ b.run

/-- Where blocks stand that start at an offset: their stretches, without the gaps. -/
def spans (offset : Nat) : List Block → List Span
  | [] => []
  | b :: bs =>
    ⟨offset + (textOf b.gap).length, offset + (textOf b.gap).length + (textOf b.run).length⟩ ::
      spans (offset + (textOf b.gap).length + (textOf b.run).length) bs

@[simp] theorem row_nil : row [] = [] := rfl

@[simp] theorem row_cons (b : Block) (bs : List Block) :
    row (b :: bs) = b.gap ++ (b.run ++ row bs) := by
  simp [row]

@[simp] theorem row_append (bs cs : List Block) : row (bs ++ cs) = row bs ++ row cs :=
  List.flatMap_append

theorem spans_append (offset : Nat) (bs cs : List Block) :
    spans offset (bs ++ cs) = spans offset bs ++ spans (offset + (textOf (row bs)).length) cs := by
  induction bs generalizing offset with
  | nil => rfl
  | cons b bs ih => simp [spans, ih, Nat.add_assoc]

variable {offset : Nat} {bs : List Block} {s : Span}

theorem le_start_of_mem_spans (h : s ∈ spans offset bs) : offset ≤ s.start := by
  induction bs generalizing offset with
  | nil => cases h
  | cons b bs ih =>
    rcases List.mem_cons.1 h with rfl | h
    · exact Nat.le_add_right _ _
    · exact Nat.le_trans (by omega) (ih h)

theorem stop_le_of_mem_spans (h : s ∈ spans offset bs) :
    s.stop ≤ offset + (textOf (row bs)).length := by
  induction bs generalizing offset with
  | nil => cases h
  | cons b bs ih =>
    rw [row_cons, Piece.textOf_append, Piece.textOf_append, List.length_append, List.length_append]
    rcases List.mem_cons.1 h with rfl | h
    · show offset + (textOf b.gap).length + (textOf b.run).length ≤ _
      omega
    · have := ih h
      omega

theorem start_lt_stop_of_mem_spans (hps : ∀ p ∈ row bs, p.text ≠ []) (h : s ∈ spans offset bs) :
    s.start < s.stop := by
  induction bs generalizing offset with
  | nil => cases h
  | cons b bs ih =>
    rw [row_cons] at hps
    rcases List.mem_cons.1 h with rfl | h
    · obtain ⟨p, ps, hrun, -⟩ := b.isRun.first
      have hp : p.text ≠ [] := hps p (by simp [hrun])
      refine Nat.lt_add_of_pos_right (List.length_pos_iff.2 ?_)
      simp [hrun, hp]
    · exact ih (fun p hp => hps p (by simp [hp])) h

/-- Blocks follow one another. -/
theorem pairwise_spans (offset : Nat) (bs : List Block) :
    (spans offset bs).Pairwise (·.stop ≤ ·.start) := by
  induction bs generalizing offset with
  | nil => exact List.Pairwise.nil
  | cons b bs ih => exact List.pairwise_cons.2 ⟨fun _ h => le_start_of_mem_spans h, ih _⟩

/-- The comments of a row of blocks and the gap behind it, one part after the other. -/
theorem ofPieces_row_cons (offset : Nat) (b : Block) (bs : List Block) (gap : List Piece) :
    Comment.ofPieces offset (row (b :: bs) ++ gap) =
      Comment.ofPieces offset b.gap ++
        (Comment.ofPieces (offset + (textOf b.gap).length) b.run ++
          Comment.ofPieces (offset + (textOf b.gap).length + (textOf b.run).length)
            (row bs ++ gap)) := by
  rw [row_cons, List.append_assoc, List.append_assoc, Comment.ofPieces_append,
    Comment.ofPieces_append]

/-- **A comment does not reach over an end of a block**: it stands inside, before or behind. -/
theorem comment_cases {gap : List Piece} {c : Comment} (hps : ∀ p ∈ row bs ++ gap, p.text ≠ [])
    (hc : c ∈ Comment.ofPieces offset (row bs ++ gap)) (h : s ∈ spans offset bs) :
    (s.start < c.start ∧ c.stop < s.stop) ∨ c.stop ≤ s.start ∨ s.stop ≤ c.start := by
  induction bs generalizing offset with
  | nil => cases h
  | cons b bs ih =>
    rw [ofPieces_row_cons] at hc
    simp only [row_cons, List.append_assoc, List.mem_append] at hps hc
    have hmore : ∀ p ∈ row bs ++ gap, p.text ≠ [] := fun p hp =>
      hps p (.inr (.inr (List.mem_append.1 hp)))
    rcases hc with hc | hc | hc
    · have hstop := Comment.stop_le_of_mem_ofPieces hc
      refine .inr (.inl (Nat.le_trans hstop ?_))
      rcases List.mem_cons.1 h with rfl | h
      · exact Nat.le_refl _
      · exact Nat.le_trans (Nat.le_add_right _ _) (le_start_of_mem_spans h)
    · have hin := Comment.within_of_isRun b.isRun (fun p hp => hps p (.inr (.inl hp))) hc
      rcases List.mem_cons.1 h with rfl | h
      · exact .inl hin
      · exact .inr (.inl (Nat.le_trans (Nat.le_of_lt hin.2) (le_start_of_mem_spans h)))
    · rcases List.mem_cons.1 h with rfl | h
      · exact .inr (.inr (Comment.mem_ofPieces_lt hmore hc).1)
      · exact ih hmore hc h

/-- A comment stands in a block, or it stands in none and reaches into none. -/
theorem comment_place {gap : List Piece} {c : Comment} (hps : ∀ p ∈ row bs ++ gap, p.text ≠ [])
    (hc : c ∈ Comment.ofPieces offset (row bs ++ gap)) :
    (∃ s ∈ spans offset bs, s.start < c.start ∧ c.stop < s.stop) ∨
      ∀ s ∈ spans offset bs, c.stop ≤ s.start ∨ s.stop ≤ c.start := by
  by_cases hin : ∃ s ∈ spans offset bs, s.start < c.start ∧ c.stop < s.stop
  · exact .inl hin
  · refine .inr fun s hs => ?_
    rcases comment_cases hps hc hs with hinside | hout
    · exact absurd ⟨s, hs, hinside⟩ hin
    · exact hout

/-- **What an offset of a row falls into**: a block, a comment or a blank. -/
theorem covers {pre : Text} {gap : List Piece} {i : Nat} (post : Text)
    (hps : ∀ p ∈ row bs ++ gap, Piece.StandsBefore p []) (hgap : ∀ p ∈ gap, p.isGap = true)
    (hle : pre.length ≤ i) (hlt : i < pre.length + (textOf (row bs ++ gap)).length) :
    (∃ s ∈ spans pre.length bs, s.start ≤ i ∧ i < s.stop) ∨
      (∃ c ∈ Comment.ofPieces pre.length (row bs ++ gap), c.start ≤ i ∧ i < c.stop) ∨
        ∃ x, (pre ++ (textOf (row bs ++ gap) ++ post))[i]? = some x ∧
          (isSpace x = true ∨ isLineTerminator x = true) := by
  induction bs generalizing pre with
  | nil => exact .inr (Comment.covers_gap post hps hgap hle hlt)
  | cons b bs ih =>
    have hrow : row (b :: bs) ++ gap = b.gap ++ (b.run ++ (row bs ++ gap)) := by simp
    rw [ofPieces_row_cons]
    rw [hrow] at hps hlt ⊢
    simp only [Piece.textOf_append, List.length_append] at hlt
    by_cases hfirst : i < pre.length + (textOf b.gap).length
    · rcases Comment.covers_gap (textOf (b.run ++ (row bs ++ gap)) ++ post)
        (fun p hp => hps p (List.mem_append_left _ hp)) b.isGap hle hfirst with
        ⟨c, hc, hin⟩ | ⟨x, hx, hblank⟩
      · exact .inr (.inl ⟨c, List.mem_append_left _ hc, hin⟩)
      · refine .inr (.inr ⟨x, ?_, hblank⟩)
        rw [← hx]
        simp
    · by_cases hsecond : i < pre.length + (textOf b.gap).length + (textOf b.run).length
      · exact .inl ⟨_, List.mem_cons_self, Nat.not_lt.1 hfirst, hsecond⟩
      · have hrest := @ih (pre ++ (textOf b.gap ++ textOf b.run))
          (fun p hp => hps p (List.mem_append_right _ (List.mem_append_right _ hp)))
          (by simp only [List.length_append]; omega)
          (by simp only [Piece.textOf_append, List.length_append]; omega)
        simp only [List.length_append, ← Nat.add_assoc] at hrest
        rcases hrest with ⟨s, hs, hin⟩ | ⟨c, hc, hin⟩ | ⟨x, hx, hblank⟩
        · exact .inl ⟨s, List.mem_cons_of_mem _ hs, hin⟩
        · exact .inr (.inl ⟨c, List.mem_append_right _ (List.mem_append_right _ hc), hin⟩)
        · refine .inr (.inr ⟨x, ?_, hblank⟩)
          rw [← hx]
          simp

end Block

/-! ## Segments as blocks -/

/-- A sentence starts with `import` and ends with a string, a brace or a semicolon. -/
theorem Sentence.IsValid.isRun {d : Dialect} {s : Sentence} (h : s.IsValid d) :
    Token.IsRun s.pieces := by
  obtain ⟨ps, hclause, -⟩ := h.clause
  constructor
  · refine ⟨⟨.name, "import".toList⟩,
      ps ++ ⟨.string, s.target⟩ :: (s.attributePieces ++ s.semicolonPieces), ?_, rfl⟩
    simp [Sentence.pieces, hclause]
  · cases hsemicolon : s.semicolon with
    | some gap =>
      refine ⟨s.clause ++ ⟨.string, s.target⟩ :: (s.attributePieces ++ gap), ⟨.punct, [';']⟩, ?_,
        rfl⟩
      simp [Sentence.pieces, Sentence.semicolonPieces, hsemicolon]
    | none =>
      cases hattributes : s.attributes with
      | some a =>
        obtain ⟨gap, as⟩ := a
        obtain ⟨-, hrun, -⟩ := h.attributes gap as hattributes
        obtain ⟨init, p, rfl, hp⟩ := hrun.last
        refine ⟨s.clause ++ ⟨.string, s.target⟩ :: (gap ++ init), p, ?_, hp⟩
        simp [Sentence.pieces, Sentence.attributePieces, Sentence.semicolonPieces, hsemicolon,
          hattributes]
      | none =>
        refine ⟨s.clause, ⟨.string, s.target⟩, ?_, rfl⟩
        simp [Sentence.pieces, Sentence.attributePieces, Sentence.semicolonPieces, hsemicolon,
          hattributes]

/-- The blocks of segments stand where the declarations stand. -/
theorem Segment.exists_blocks {d : Dialect} {gs : List Segment} {tail : List Piece}
    (hgs : AreValid d gs tail) :
    ∃ bs : List Block, Block.row bs = row gs ∧
      ∀ offset, Block.spans offset bs = (decls offset gs).map (·.span) := by
  induction gs with
  | nil => exact ⟨[], rfl, fun _ => rfl⟩
  | cons g gs ih =>
    obtain ⟨hgap, hs, -, hgs⟩ := hgs
    obtain ⟨bs, hrow, hspans⟩ := ih hgs
    refine ⟨⟨g.gap, g.sentence.pieces, hgap, hs.isRun⟩ :: bs, ?_, fun offset => ?_⟩
    · rw [Block.row_cons, row_cons, hrow]
    · rw [Block.spans, decls, List.map_cons, hspans]
      rfl

end ImportOrder
