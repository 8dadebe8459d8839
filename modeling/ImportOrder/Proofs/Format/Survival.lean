import ImportOrder.Platform.Usual
import ImportOrder.Proofs.Format.Pass
import ImportOrder.Proofs.Format.Splice
import ImportOrder.Proofs.Render.Kept

/-!
# The code below the imports

Formatting puts other imports in front of the code. The code stays what it was exactly if it is set
apart from the last one: by a semicolon or the end of a line, and not by a line comment on the same
line. Besides, no list of names may come to end in `type as,`, which cannot be read again.

## Main definitions

* `Head.Keeps`: the shebang, the directives and the code of a source are those of another
* `Statement.Separates`: whether a statement may stand before a token

## Main results

* `keeps_format_iff`: when formatting keeps the code
* `not_keeps_format_glued`: an input where it does not
-/

namespace ImportOrder

open Piece Grammar

variable {d : Dialect} {s : Settings} {eol : Eol}

/-! ## Statements before code -/

namespace Statement

/-- Whether a line comment stands behind a statement. -/
def endsInLineComment (st : Statement) : Bool :=
  st.trailingComment.any fun t => (scan t).getLast?.any (·.kind == .lineComment)

/-- Whether a line ends in the comment behind a statement. -/
def breaksLine (st : Statement) : Bool := st.trailingComment.any fun t => (scan t).any endsLine

/-- **A statement set apart from the token behind it**: the token is not on the line of a line
comment, and without semicolon it starts a line and is none. -/
def Separates (s : Settings) (st : Statement) (next : Token) : Prop :=
  (st.endsInLineComment = true → next.newlineBefore = true) ∧
    (st.endsInSemicolon s = false →
      next.text ≠ [';'] ∧ (next.newlineBefore = true ∨ st.breaksLine = true))

/-- The trailing comment of a statement, as it is written. -/
theorem trail_eq {st : Statement} (hst : ∀ t ∈ st.trailingComment, IsCommentLine t)
    {trail : List Piece} (h : IsTrail (st.trailingComment.map (Text.withEol eol)) trail) :
    (st.trailingComment = none ∧ trail = []) ∨
      ∃ t, st.trailingComment = some t ∧
        trail = ⟨.space, [' ']⟩ :: (scan t).map (Piece.withEol eol) := by
  cases hcomment : st.trailingComment with
  | none =>
    rw [hcomment] at h
    cases h
    exact .inl ⟨rfl, rfl⟩
  | some t =>
    rw [hcomment] at h
    obtain ⟨ps, rfl, -, hgap, hchain⟩ := hst t hcomment
    have hscan : scan (textOf ps) = ps := by simpa using @scan_of_chained ps [] hchain
    have hnot : ∀ p ∈ ps, p.Endures eol := by
      intro p hp hstring
      have := (hgap p hp).1
      simp [Piece.isGap, hstring, PieceKind.token?] at this
    generalize hsome : Option.map (Text.withEol eol) (some (textOf ps)) = u at h
    cases h with
    | absent => cases hsome
    | @present core _ _ hcore =>
      have htext : textOf (ps.map (Piece.withEol eol)) = textOf core := by
        rw [textOf_withEol hchain]
        exact Option.some.inj hsome
      have hps := @scan_of_chained _ [] (chained_withEol hchain hnot)
      have hcs := @scan_of_chained _ [] hcore
      rw [List.append_nil, scan_nil, List.append_nil] at hps hcs
      refine .inr ⟨_, rfl, ?_⟩
      rw [hscan, ← hps, htext, hcs]

theorem endsInLineComment_iff {st : Statement} (hst : ∀ t ∈ st.trailingComment, IsCommentLine t)
    {trail : List Piece} (h : IsTrail (st.trailingComment.map (Text.withEol eol)) trail) :
    st.endsInLineComment = true ↔ ∃ c, trail.getLast? = some c ∧ c.kind = .lineComment := by
  rcases trail_eq hst h with ⟨hnone, rfl⟩ | ⟨t, hsome, rfl⟩
  · simp [endsInLineComment, hnone]
  · rw [endsInLineComment, hsome, Option.any_some, List.getLast?_cons, List.getLast?_map]
    cases hlast : (scan t).getLast? with
    | none => simp
    | some p => simp [Piece.withEol]

theorem breaksLine_eq {st : Statement} (hst : ∀ t ∈ st.trailingComment, IsCommentLine t)
    {trail : List Piece} (h : IsTrail (st.trailingComment.map (Text.withEol eol)) trail) :
    trail.any endsLine = st.breaksLine := by
  rcases trail_eq hst h with ⟨hnone, rfl⟩ | ⟨t, hsome, rfl⟩
  · simp [breaksLine, hnone]
  · rw [breaksLine, hsome, Option.any_some, List.any_cons, List.any_map]
    simp only [Function.comp_def, endsLine_withEol]
    rfl

end Statement

/-! ## Written statements, readable or not -/

/-- **A written statement**: it ends in a semicolon if it should, and it is a sentence of the
grammar unless its list ends in `type as,`. -/
structure Rendered.IsOutcome (d : Dialect) (s : Settings) (eol : Eol) (st : Statement)
    (r : Rendered) : Prop where
  pieces : r.IsFor eol (st.leadingComments.map (Text.withEol eol))
    (st.trailingComment.map (Text.withEol eol))
  semicolon : r.sentence.semicolon.isSome = st.endsInSemicolon s
  sentence : (¬st.EndsInBareAs s ∧ r.sentence.IsValid d) ∨
    (st.EndsInBareAs s ∧ ∃ ps cs rest, r.sentence.clause = Statement.importPiece :: ps ∧
      words ps = cs ++ rest ∧ StuckClause d cs)

theorem exists_isOutcome [Platform] {st : Statement} (h : st.WellFormed d)
    (hopen : ∀ b ∈ st.bindings, b.name ∉ openings)
    (hend : st.innerComments = true → ∀ raw ∈ st.raw, ∀ p ∈ scan raw, p.Endures eol)
    {ls : List Text} (hls : st.renderLines s eol = .ok ls) :
    ∃ r, Rendered.IsOutcome d s eol st r ∧ r.text = Text.join eol.text ls := by
  obtain ⟨text, htext, -⟩ := Parser.ok_of_bind hls
  by_cases hinner : st.innerComments = true
  · obtain ⟨x, rfl, hvalid, hchain, hopens, hsemicolon⟩ :=
      Statement.exists_kept h hopen hinner (hend hinner) htext
    obtain ⟨lead, trail, hlead, htrail, hjoin⟩ := exists_comments h htext hls
    refine ⟨⟨lead, x, trail⟩, ⟨⟨hlead, hchain, hopens, htrail⟩, hsemicolon, .inl ⟨?_, hvalid⟩⟩,
      hjoin⟩
    rintro ⟨hfalse, -⟩
    rw [hinner] at hfalse
    cases hfalse
  · rw [Bool.not_eq_true] at hinner
    obtain ⟨ps, rfl, hchain, hcases⟩ := Statement.exists_sentence h hopen hinner htext
    obtain ⟨lead, trail, hlead, htrail, hjoin⟩ := exists_comments h htext hls
    refine ⟨⟨lead, _, trail⟩, ⟨⟨hlead, hchain, ⟨ps, rfl⟩, htrail⟩, ?_, ?_⟩, hjoin⟩
    · show (if st.endsInSemicolon s then some [] else none : Option (List Piece)).isSome = _
      cases st.endsInSemicolon s <;> rfl
    · rcases hcases with hvalid | ⟨hbare, cs, rest, hwords, hstuck⟩
      · exact .inl hvalid
      · exact .inr ⟨hbare, ps, cs, rest, rfl, hwords, hstuck⟩

/-! ## Reading written statements before code -/

namespace Rendered

/-- Whether reading imports from pieces behind a text leaves the given code. -/
def LeavesCode (d : Dialect) (pre : Text) (ps code : List Piece) : Prop :=
  ∃ ds rest, Parser.imports (pre ++ textOf ps).length d (pre ++ textOf ps)
      (Token.ofPieces pre.length false ps) = .ok (ds, rest) ∧
    (rest.head?.map Token.start).map (pre ++ textOf ps).drop =
      if code.isEmpty then none else some (textOf code)

/-- The code is left where it starts. -/
theorem LeavesCode.exists_token {pre : Text} {ps code : List Piece} (h : LeavesCode d pre ps code)
    (hps : ∀ p ∈ ps, StandsBefore p []) (hne : textOf code ≠ []) :
    ∃ ds rest v, Parser.imports (pre ++ textOf ps).length d (pre ++ textOf ps)
        (Token.ofPieces pre.length false ps) = .ok (ds, v :: rest) ∧
      v ∈ Token.ofPieces pre.length false ps ∧
      v.start + (textOf code).length = (pre ++ textOf ps).length := by
  obtain ⟨ds, rest, himports, hrest⟩ := h
  have hsuffix := Parser.suffix_of_imports
    (fun t ht => Token.whole_of_mem_ofPieces hps ht) himports
  have hcode : code.isEmpty = false := by
    cases code with
    | nil => exact absurd rfl hne
    | cons p code => rfl
  rw [hcode, if_neg (by simp)] at hrest
  cases rest with
  | nil => cases hrest
  | cons v rest =>
    have hdrop : (pre ++ textOf ps).drop v.start = textOf code := Option.some.inj hrest
    have hlen := congrArg List.length hdrop
    have hpos := List.length_pos_of_ne_nil hne
    rw [List.length_drop] at hlen
    exact ⟨ds, rest, v, himports, hsuffix.subset (by simp), by omega⟩

theorem segments_append (trail : List Piece) (qs rs : List (Nat × Rendered)) :
    segments eol trail (qs ++ rs) =
      segments eol trail qs ++ segments eol (lastTrail trail qs) rs := by
  induction qs generalizing trail with
  | nil => rfl
  | cons q qs ih => simp [segments, lastTrail, ih]

theorem isGap_lastTrail {trail : List Piece} (htrail : ∀ p ∈ trail, p.isGap = true)
    {rs : List (Nat × Rendered)} (hrs : AreFor eol rs) :
    ∀ p ∈ lastTrail trail rs, p.isGap = true := by
  induction rs generalizing trail with
  | nil => exact htrail
  | cons r rs ih =>
    obtain ⟨lines, trailing, hr⟩ := hrs r (by simp)
    exact ih (fun p hp => (hr.trail.isGap p hp).1) fun q hq => hrs q (by simp [hq])

/-- A row of written statements, cut before one of them. -/
theorem row_append (us tail : List Piece) (qs rs : List (Nat × Rendered)) (k : Nat) (r : Rendered) :
    Segment.row (segments eol us (qs ++ (k, r) :: rs)) ++ tail =
      Segment.row (segments eol us qs) ++ (lastTrail us qs ++
        (List.replicate k (ofEol eol) ++ r.lead) ++
          (r.sentence.pieces ++ (Segment.row (segments eol r.trail rs) ++ tail))) := by
  simp [segments_append, segments, Segment.row, Segment.pieces]

/-- A line comment takes along the code on its line. -/
theorem not_leavesCode_of_lineComment {pre : Text} {trail blanks code : List Piece}
    {t : Option Text}
    (hcode : IsFollowed blanks [] code) (htrail : IsTrail t trail) {c : Piece}
    (hc : trail.getLast? = some c) (hkind : c.kind = .lineComment) (hne : code ≠ [])
    {row : List Piece} (hrow : ∀ p ∈ row, StandsBefore p []) :
    ¬LeavesCode d pre (row ++ scan (textOf trail ++ textOf (blanks ++ code))) code := by
  intro h
  have hps : ∀ p ∈ row ++ scan (textOf trail ++ textOf (blanks ++ code)), StandsBefore p [] := by
    intro p hp
    rcases List.mem_append.1 hp with hp | hp
    · exact hrow p hp
    · exact standsBefore_of_mem_scan hp
  obtain ⟨e, rest, htext, -⟩ := hcode.head?_code hne
  obtain ⟨ds, rest, v, -, hv, hstart⟩ := h.exists_token hps (by simp [htext])
  rw [Token.ofPieces_append] at hv
  simp only [textOf_append, textOf_scan, List.length_append] at hstart
  rcases List.mem_append.1 hv with hv | hv
  · have hle := (Token.mem_ofPieces_le hv).2
    have hpos : 0 < (textOf trail).length := by
      obtain ⟨init, u, rfl, -, -⟩ := IsFollowed.exists_lineComment htrail hc hkind
      simp only [textOf_append, textOf_cons, List.length_append, List.length_cons]
      omega
    simp only [Token.stop] at hle
    omega
  · have hlt := hcode.lt_start htrail hc hkind hne hv
    simp only [textOf_append, List.length_append] at hlt
    omega

section Row

variable {pre : Text} {us tail code : List Piece} {qs rs : List (Nat × Rendered)} {k : Nat}
  {r : Rendered} (hus : ∀ p ∈ us, p.isGap = true)
include hus

/-- Statements that are sentences are segments of the grammar, whatever the statements behind them
are: the next one starts on another line. -/
theorem areValid_before (hfor : AreFor eol (qs ++ (k, r) :: rs))
    (hk : ∀ q ∈ (qs ++ (k, r) :: rs).tail, 1 ≤ q.1) (hvalid : ∀ q ∈ qs, q.2.sentence.IsValid d)
    (tail : List Piece) :
    Segment.AreValid d (segments eol us qs) (lastTrail us qs ++
      (List.replicate k (ofEol eol) ++ r.lead) ++
        (r.sentence.pieces ++ (Segment.row (segments eol r.trail rs) ++ tail))) := by
  refine areValid_segments hus (fun q hq => hfor q (List.mem_append_left _ hq)) ?_ hvalid ?_
  · intro q hq
    cases qs with
    | nil => cases hq
    | cons q' qs => exact hk q (List.mem_append_left _ hq)
  · intro last hlast _
    have hne : qs ≠ [] := by
      rintro rfl
      cases hlast
    have hnext := @startsLine_segments eol (lastTrail us qs)
      (isGap_lastTrail hus fun q hq => hfor q (List.mem_append_left _ hq)) ((k, r) :: rs)
      (fun q hq => hfor q (List.mem_append_right _ hq))
      (fun q hq => hk q (by
        obtain ⟨q', qs', rfl⟩ := List.exists_cons_of_ne_nil hne
        exact List.mem_append_right _ hq)) tail (by simp)
    simpa [segments] using hnext

/-- Reading goes on behind the statements that are sentences. -/
theorem imports_of_append {size : Nat} {ds : List ImportDecl} {rest : List Token}
    (hfor : AreFor eol (qs ++ (k, r) :: rs)) (hk : ∀ q ∈ (qs ++ (k, r) :: rs).tail, 1 ≤ q.1)
    (hvalid : ∀ q ∈ qs, q.2.sentence.IsValid d)
    (hps : ∀ p ∈ Segment.row (segments eol us (qs ++ (k, r) :: rs)) ++ tail, StandsBefore p [])
    (h : Parser.imports size d
      (pre ++ textOf (Segment.row (segments eol us (qs ++ (k, r) :: rs)) ++ tail))
      (Token.ofPieces pre.length false
        (Segment.row (segments eol us (qs ++ (k, r) :: rs)) ++ tail)) = .ok (ds, rest)) :
    ∃ pre' newline ds',
      pre ++ textOf (Segment.row (segments eol us (qs ++ (k, r) :: rs)) ++ tail) =
        pre' ++ textOf (r.sentence.pieces ++ (Segment.row (segments eol r.trail rs) ++ tail)) ∧
      Parser.imports size d
        (pre ++ textOf (Segment.row (segments eol us (qs ++ (k, r) :: rs)) ++ tail))
        (Token.ofPieces pre'.length newline
          (r.sentence.pieces ++ (Segment.row (segments eol r.trail rs) ++ tail))) =
        .ok (ds', rest) := by
  obtain ⟨lines, trailing, hr⟩ := hfor (k, r) (by simp)
  have hgap := isGap_of_mem_gap
    (isGap_lastTrail hus fun q hq => hfor q (List.mem_append_left _ hq)) hr k
  rw [row_append] at h hps ⊢
  rw [Parser.imports_append hps (areValid_before hus hfor hk hvalid tail)] at h
  cases hread : Parser.imports size d _ _ with
  | error e =>
    rw [hread] at h
    cases h
  | ok out =>
    rw [hread] at h
    obtain ⟨ds', rest'⟩ := out
    obtain ⟨-, rfl⟩ := Prod.mk.inj (Except.ok.inj h)
    rw [Token.ofPieces_gap_append hgap] at hread
    rw [← List.length_append, ← List.length_append] at hread
    exact ⟨_, _, ds', by simp, hread⟩

/-- A statement in which reading gets stuck leaves no code. -/
theorem not_leavesCode_of_stuck {ps : List Piece} {ws ws' : List Word}
    (hfor : AreFor eol (qs ++ (k, r) :: rs)) (hk : ∀ q ∈ (qs ++ (k, r) :: rs).tail, 1 ≤ q.1)
    (hvalid : ∀ q ∈ qs, q.2.sentence.IsValid d)
    (hps : ∀ p ∈ Segment.row (segments eol us (qs ++ (k, r) :: rs)) ++ tail, StandsBefore p [])
    (hclause : r.sentence.clause = Statement.importPiece :: ps) (hwords : words ps = ws ++ ws')
    (hstuck : StuckClause d ws) :
    ¬LeavesCode d pre (Segment.row (segments eol us (qs ++ (k, r) :: rs)) ++ tail) code := by
  rintro ⟨ds, rest, himports, -⟩
  obtain ⟨pre', newline, ds', -, hread⟩ := imports_of_append hus hfor hk hvalid hps himports
  have hmem : ∀ p ∈ r.sentence.pieces ++ (Segment.row (segments eol r.trail rs) ++ tail),
      p ∈ Segment.row (segments eol us (qs ++ (k, r) :: rs)) ++ tail := by
    intro p hp
    rw [row_append]
    exact List.mem_append_right _ (List.mem_append_right _ hp)
  rw [Sentence.pieces, hclause] at hread hmem
  simp only [List.cons_append, List.append_assoc] at hread hmem
  obtain ⟨e, he⟩ := Parser.imports_of_stuck
    (fun p hp => hps p (hmem p (List.mem_cons_of_mem _ hp))) hwords hstuck
  rw [Statement.importPiece, he] at hread
  cases hread

/-- The code is left if it starts a line or the last statement ends in a semicolon. -/
theorem leavesCode_of_valid {gap : List Piece} (hfor : AreFor eol rs)
    (hk : ∀ q ∈ rs.tail, 1 ≤ q.1) (hvalid : ∀ q ∈ rs, q.2.sentence.IsValid d)
    (hgap : ∀ p ∈ gap, p.isGap = true)
    (hps : ∀ p ∈ Segment.row (segments eol us rs) ++ (gap ++ code), StandsBefore p [])
    (hcode : ∀ p ∈ code.head?, p.isGap = false)
    (hstart : Parser.startsImport 0 (Token.ofPieces 0 false (gap ++ code)) = false)
    (hlast : ∀ q ∈ rs.getLast?, q.2.sentence.semicolon = none →
      Parser.StartsLine (Token.ofPieces 0 false (gap ++ code))) :
    LeavesCode d pre (Segment.row (segments eol us rs) ++ (gap ++ code)) code := by
  have hsegments := areValid_segments hus hfor hk hvalid hlast
  refine ⟨_, _, Parser.imports_of_segments hps hsegments hstart, ?_⟩
  rw [Bool.false_and, Token.ofPieces_gap_append hgap]
  cases code with
  | nil => rfl
  | cons p code =>
    obtain ⟨kind, hkind⟩ := exists_token_of_isGap (hcode p rfl)
    have hdrop : (pre ++ textOf (Segment.row (segments eol us rs) ++ (gap ++ p :: code))).drop
        (pre.length + (textOf (Segment.row (segments eol us rs))).length + (textOf gap).length) =
        textOf (p :: code) := by
      rw [textOf_append, textOf_append, ← List.append_assoc, ← List.append_assoc,
        ← List.length_append, ← List.length_append, List.drop_left]
    simpa [Token.ofPieces, hkind] using hdrop

/-- A statement without semicolon takes along code on its line. -/
theorem not_leavesCode_of_not_startsLine {gap : List Piece} (hfor : AreFor eol (qs ++ [(k, r)]))
    (hk : ∀ q ∈ (qs ++ [(k, r)]).tail, 1 ≤ q.1)
    (hvalid : ∀ q ∈ qs ++ [(k, r)], q.2.sentence.IsValid d)
    (hgap : ∀ p ∈ gap, p.isGap = true)
    (hps : ∀ p ∈ Segment.row (segments eol us (qs ++ [(k, r)])) ++ (gap ++ code), StandsBefore p [])
    (hcode : ∀ p ∈ code.head?, p.isGap = false) (hnone : r.sentence.semicolon = none)
    (hline : ¬Parser.StartsLine (Token.ofPieces 0 false (gap ++ code))) :
    ¬LeavesCode d pre (Segment.row (segments eol us (qs ++ [(k, r)])) ++ (gap ++ code)) code := by
  intro h
  obtain ⟨p, code', rfl⟩ : ∃ p code', code = p :: code' := by
    cases code with
    | nil =>
      rw [List.append_nil, Token.ofPieces_of_gaps hgap] at hline
      exact absurd (by simp [Parser.StartsLine]) hline
    | cons p code => exact ⟨p, code, rfl⟩
  have hp := (hps p (by simp)).text_ne_nil
  obtain ⟨ds, rest, v, himports, -, hstart⟩ := h.exists_token hps (by simp [hp])
  obtain ⟨pre', newline, ds', hpre, hread⟩ := imports_of_append hus hfor hk
    (fun q hq => hvalid q (List.mem_append_left _ hq)) hps himports
  have hstands : ∀ q ∈ r.sentence.pieces ++ (gap ++ p :: code'), StandsBefore q [] := by
    intro q hq
    refine hps q ?_
    rw [row_append]
    exact List.mem_append_right _ (List.mem_append_right _ hq)
  simp only [segments, Segment.row_nil, List.nil_append] at hread hpre
  have hlt := Parser.length_of_imports_of_not_startsLine hstands
    (hvalid (k, r) (by simp)) hnone hline hread
  have hsuffix := Parser.suffix_of_imports
    (fun t ht => Token.whole_of_mem_ofPieces hstands ht) hread
  -- What is left are the last tokens, and fewer than those of the code.
  obtain ⟨kind, hkind⟩ := exists_token_of_isGap (hcode p rfl)
  rw [Token.ofPieces_append, Token.ofPieces_gap_cons hgap hkind] at hsuffix
  rw [Token.ofPieces_gap_cons hgap hkind] at hlt
  have hv : v ∈ Token.ofPieces (pre'.length + (textOf r.sentence.pieces).length +
      (textOf gap).length + p.text.length) false code' := by
    have hlast := List.suffix_of_suffix_length_le hsuffix (List.suffix_append _ _) (by
      simp only [List.length_cons] at hlt ⊢
      omega)
    rcases List.suffix_cons_iff.1 hlast with heq | hlast
    · rw [heq] at hlt
      simp at hlt
    · exact hlast.subset (by simp)
  have hle := (Token.mem_ofPieces_le hv).1
  have hpos := List.length_pos_of_ne_nil hp
  rw [hpre] at hstart
  simp only [textOf_append, textOf_cons, List.length_append] at hstart
  omega

end Row

/-! ## When the code is left -/

/-- The first of some related pairs that does not meet a condition. -/
theorem exists_first_of_forall₂ {α β : Type} {R : α → β → Prop} {P : α → Prop} {xs : List α}
    {ys : List β} (h : List.Forall₂ R xs ys) (hnot : ¬∀ x ∈ xs, P x) :
    ∃ xs₁ x ys₁ y ys₂, ys = ys₁ ++ y :: ys₂ ∧ List.Forall₂ R xs₁ ys₁ ∧ R x y ∧
      (∀ x ∈ xs₁, P x) ∧ ¬P x := by
  induction h with
  | nil => simp at hnot
  | @cons x y xs ys hxy hrest ih =>
    by_cases hx : P x
    · obtain ⟨xs₁, x', ys₁, y', ys₂, rfl, hall, hxy', hP, hnotP⟩ := ih (by
        intro hall
        exact hnot (by simpa [hx] using hall))
      exact ⟨x :: xs₁, x', y :: ys₁, y', ys₂, rfl, .cons hxy hall, hxy', by simpa [hx] using hP,
        hnotP⟩
    · exact ⟨[], x, [], y, ys, rfl, .nil, hxy, by simp, hx⟩

theorem exists_getLast?_of_forall₂ {α β : Type} {R : α → β → Prop} {xs : List α} {ys : List β}
    (h : List.Forall₂ R xs ys) {x : α} (hx : xs.getLast? = some x) :
    ∃ y, ys.getLast? = some y ∧ R x y := by
  rw [← List.head?_reverse] at hx
  obtain ⟨xs', hxs⟩ := List.head?_eq_some_iff.1 hx
  have hrev := List.forall₂_reverse_iff.2 h
  rw [hxs] at hrev
  obtain ⟨y, ys', hxy, -, hys⟩ := List.forall₂_cons_left_iff.1 hrev
  exact ⟨y, by rw [← List.head?_reverse, hys]; rfl, hxy⟩

theorem lastTrail_eq {rs : List (Nat × Rendered)} {q : Nat × Rendered} (hq : rs.getLast? = some q)
    (trail : List Piece) : lastTrail trail rs = q.2.trail := by
  induction rs generalizing trail with
  | nil => cases hq
  | cons r rs ih =>
    rw [List.getLast?_cons] at hq
    cases hlast : rs.getLast? with
    | none =>
      rw [List.getLast?_eq_none_iff] at hlast
      subst hlast
      obtain rfl : r = q := by simpa using hq
      rfl
    | some q' =>
      rw [hlast] at hq
      obtain rfl : q' = q := by simpa using hq
      exact ih hlast r.2.trail

theorem standsBefore_row {trail : List Piece} (htrail : ∀ p ∈ trail, StandsBefore p [])
    {rs : List (Nat × Rendered)} (hrs : AreFor eol rs) :
    ∀ p ∈ Segment.row (segments eol trail rs), StandsBefore p [] := by
  induction rs generalizing trail with
  | nil => simp [segments]
  | cons r rs ih =>
    obtain ⟨lines, trailing, hr⟩ := hrs r (by simp)
    have hrest := ih hr.trail.chained.standsBefore fun q hq => hrs q (by simp [hq])
    intro p hp
    simp only [segments, Segment.row_cons, List.mem_append] at hp
    rcases hp with (hp | hp | hp) | hp | hp
    · exact htrail p hp
    · rw [List.eq_of_mem_replicate hp]
      exact standsBefore_ofEol eol
    · exact (hr.lead.chained none).standsBefore p hp
    · exact (hr.chained none).standsBefore p hp
    · exact hrest p hp

/-- The first token of the code, behind other gaps. -/
theorem startsLine_iff {gap gap' code : List Piece} (hgap : ∀ p ∈ gap, p.isGap = true)
    (hgap' : ∀ p ∈ gap', p.isGap = true) (hcode : ∀ p ∈ code.head?, p.isGap = false)
    (hps : ∀ p ∈ code, StandsBefore p []) :
    Parser.StartsLine (Token.ofPieces 0 false (gap ++ code)) ↔
      ∀ next ∈ (Token.ofPieces 0 false (gap' ++ code)).head?,
        next.text ≠ [';'] ∧ gap.any endsLine = true := by
  cases code with
  | nil =>
    rw [List.append_nil, List.append_nil, Token.ofPieces_of_gaps hgap,
      Token.ofPieces_of_gaps hgap']
    simp [Parser.StartsLine]
  | cons p code =>
    obtain ⟨kind, hkind⟩ := exists_token_of_isGap (hcode p rfl)
    rw [Token.ofPieces_gap_cons hgap hkind, Token.ofPieces_gap_cons hgap' hkind]
    have hsemi : (⟨kind, p.text⟩ : Word) = .punct ';' ↔ p.text = [';'] := by
      constructor
      · exact congrArg Word.text
      · intro htext
        have hwhole : (⟨kind, p.text⟩ : Word).Whole := ⟨p.kind, hkind, hps p (by simp)⟩
        exact hwhole.eq_of_text (w := .punct ';') ⟨.punct, rfl, rfl⟩ htext
    simp only [Parser.StartsLine, List.head?_cons, Option.mem_def, Option.some.injEq,
      forall_eq', Bool.false_or, Token.word, Ne, hsemi]
    exact and_comm

theorem areFor_of_forall₂ {sts : List Statement} {rs : List (Nat × Rendered)}
    (h : List.Forall₂ (fun st q => IsOutcome d s eol st q.2) sts rs) : AreFor eol rs := by
  intro q hq
  obtain ⟨st, -, hst⟩ := exists_mem_of_forall₂ h hq
  exact ⟨_, _, hst.pieces⟩

/-- Statements are sentences if no list of theirs ends in `type as,`. -/
theorem isValid_of_forall₂ {sts : List Statement} {rs : List (Nat × Rendered)}
    (h : List.Forall₂ (fun st q => IsOutcome d s eol st q.2) sts rs)
    (hbare : ∀ st ∈ sts, ¬st.EndsInBareAs s) : ∀ q ∈ rs, q.2.sentence.IsValid d := by
  intro q hq
  obtain ⟨st, hmem, hst⟩ := exists_mem_of_forall₂ h hq
  rcases hst.sentence with ⟨-, hvalid⟩ | ⟨htrue, -⟩
  · exact hvalid
  · exact absurd htrue (hbare st hmem)

/-- Code that no line comment has on its line is set apart from a statement with a semicolon, and
from one without if it starts a line. -/
theorem startsLine_iff_separates {last : Statement} {blanks lines gap code : List Piece}
    (hcode : IsFollowed blanks lines code) (hgap : ∀ p ∈ gap, p.isGap = true)
    (hps : ∀ p ∈ gap ++ code, StandsBefore p [])
    (hends : gap.any endsLine = (last.breaksLine || lines.any endsLine))
    (hapart : ¬(last.endsInLineComment = true ∧ lines = [] ∧ code ≠ [])) :
    (last.endsInSemicolon s = false → Parser.StartsLine (Token.ofPieces 0 false (gap ++ code))) ↔
      ∀ next ∈ (Token.ofPieces 0 false (blanks ++ (lines ++ code))).head?,
        last.Separates s next := by
  rw [startsLine_iff hgap hcode.isGap_append hcode.codeStart fun p hp => hps p (by simp [hp]),
    hends, List.append_assoc]
  constructor
  · intro h next hnext
    have hnewline := hcode.newlineBefore_next hnext
    refine ⟨fun hline => ?_, fun hsemi => ?_⟩
    · rw [hnewline]
      refine hcode.any_endsLine_lines fun hnil => hapart ⟨hline, hnil, ?_⟩
      rintro rfl
      rw [List.append_nil, Token.ofPieces_of_gaps hcode.isGap_append] at hnext
      cases hnext
    · obtain ⟨htext, hbreak⟩ := h hsemi next hnext
      refine ⟨htext, ?_⟩
      rw [hnewline, or_comm]
      simpa using hbreak
  · intro h hsemi next hnext
    obtain ⟨htext, hbreak⟩ := (h next hnext).2 hsemi
    refine ⟨htext, ?_⟩
    rw [hcode.newlineBefore_next hnext, or_comm] at hbreak
    simpa using hbreak

section Code

variable {pre : Text} {us blanks lines code : List Piece} {sts : List Statement}
  {rs : List (Nat × Rendered)} (hus : ∀ p ∈ us, p.isGap = true)
  (hstands : ∀ p ∈ us, StandsBefore p []) (hk : ∀ q ∈ rs.tail, 1 ≤ q.1)
include hus hstands hk

/-- Sentences leave the code if it is set apart from the last one. -/
theorem leavesCode_iff_of_valid {gap : List Piece} {q : Nat × Rendered} (hfor : AreFor eol rs)
    (hvalid : ∀ q ∈ rs, q.2.sentence.IsValid d) (hq : rs.getLast? = some q)
    (hgap : ∀ p ∈ gap, p.isGap = true) (hps : ∀ p ∈ gap ++ code, StandsBefore p [])
    (hcode : ∀ p ∈ code.head?, p.isGap = false)
    (hstart : Parser.startsImport 0 (Token.ofPieces 0 false code) = false) :
    LeavesCode d pre (Segment.row (segments eol us rs) ++ (gap ++ code)) code ↔
      (q.2.sentence.semicolon = none →
        Parser.StartsLine (Token.ofPieces 0 false (gap ++ code))) := by
  have hall : ∀ p ∈ Segment.row (segments eol us rs) ++ (gap ++ code), StandsBefore p [] := by
    intro p hp
    rcases List.mem_append.1 hp with hp | hp
    · exact standsBefore_row hstands hfor p hp
    · exact hps p hp
  constructor
  · -- A sentence without semicolon would go on with what is on its line.
    intro h hnone
    by_contra hline
    obtain ⟨qs, rfl⟩ := List.getLast?_eq_some_iff.1 hq
    exact not_leavesCode_of_not_startsLine hus hfor hk hvalid hgap hall hcode hnone hline h
  · intro hline
    refine leavesCode_of_valid hus hfor hk hvalid hgap hall hcode ?_ ?_
    · rw [Token.ofPieces_gap_append hgap, ← hstart]
      exact Parser.startsImport_ofPieces _ _ _ _ _
    · intro q' hq'
      obtain rfl : q = q' := Option.some.inj (hq.symm.trans hq')
      exact hline

/-- Sentences leave the code if no line comment has it on its line and it is set apart from the last
one. -/
theorem leavesCode_iff_of_apart {last : Statement} {q : Nat × Rendered} (hfor : AreFor eol rs)
    (hvalid : ∀ q ∈ rs, q.2.sentence.IsValid d) (hq : rs.getLast? = some q)
    (hout : IsOutcome d s eol last q.2) (hst : ∀ t ∈ last.trailingComment, IsCommentLine t)
    (hcode : IsFollowed blanks lines code)
    (hstart : Parser.startsImport 0 (Token.ofPieces 0 false code) = false)
    (hapart : ¬(last.endsInLineComment = true ∧ lines = [] ∧ code ≠ [])) :
    LeavesCode d pre (Segment.row (segments eol us rs) ++
        scan (textOf q.2.trail ++ textOf (blanks ++ (lines ++ code)))) code ↔
      ∀ next ∈ (Token.ofPieces 0 false (blanks ++ (lines ++ code))).head?,
        last.Separates s next := by
  have htrail := hout.pieces.trail
  obtain ⟨gap, hscan, -, hgap, hends⟩ := hcode.exists_gap htrail (by
    intro c hc hkind
    have hline := (Statement.endsInLineComment_iff hst htrail).2 ⟨c, hc, hkind⟩
    by_contra hnot
    exact hapart ⟨hline, by simpa using not_or.1 hnot⟩)
  have hps : ∀ p ∈ gap ++ code, StandsBefore p [] := by
    rw [← hscan]
    exact fun p hp => standsBefore_of_mem_scan hp
  have hsemicolon : q.2.sentence.semicolon = none ↔ last.endsInSemicolon s = false := by
    rw [← hout.semicolon, Option.isSome_eq_false_iff, Option.isNone_iff_eq_none]
  rw [hscan, leavesCode_iff_of_valid hus hstands hk hfor hvalid hq hgap hps hcode.codeStart hstart,
    hsemicolon]
  refine startsLine_iff_separates hcode hgap hps ?_ hapart
  rw [hends, Statement.breaksLine_eq hst htrail]

/-- **Written statements leave the code** exactly if they can be read and the last one is set apart
from it. -/
theorem leavesCode_iff (hall : List.Forall₂ (fun st q => IsOutcome d s eol st q.2) sts rs)
    {last : Statement} (hlast : sts.getLast? = some last)
    (hst : ∀ t ∈ last.trailingComment, IsCommentLine t) (hcode : IsFollowed blanks lines code)
    (hstart : Parser.startsImport 0 (Token.ofPieces 0 false code) = false) :
    LeavesCode d pre (Segment.row (segments eol us rs) ++
        scan (textOf (lastTrail us rs) ++ textOf (blanks ++ (lines ++ code)))) code ↔
      (∀ st ∈ sts, ¬st.EndsInBareAs s) ∧
        ∀ next ∈ (Token.ofPieces 0 false (blanks ++ (lines ++ code))).head?,
          last.Separates s next := by
  have hfor := areFor_of_forall₂ hall
  have hrow := standsBefore_row hstands hfor
  obtain ⟨q, hq, hout⟩ := exists_getLast?_of_forall₂ hall hlast
  rw [lastTrail_eq hq]
  by_cases hbare : ∀ st ∈ sts, ¬st.EndsInBareAs s
  · rw [and_iff_right hbare]
    by_cases hswallow : last.endsInLineComment = true ∧ lines = [] ∧ code ≠ []
    · -- The trailing comment swallows the code.
      have htrail := hout.pieces.trail
      obtain ⟨hline, rfl, hne⟩ := hswallow
      obtain ⟨c, hc, hkind⟩ := (Statement.endsInLineComment_iff hst htrail).1 hline
      refine iff_of_false (not_leavesCode_of_lineComment hcode htrail hc hkind hne hrow) fun h => ?_
      obtain ⟨next, hnext⟩ := hcode.exists_next hne
      have hbreak := (h next hnext).1 hline
      rw [hcode.newlineBefore_next hnext] at hbreak
      cases hbreak
    · exact leavesCode_iff_of_apart hus hstands hk hfor (isValid_of_forall₂ hall hbare) hq hout hst
        hcode hstart hswallow
  · refine iff_of_false ?_ fun h => hbare h.1
    obtain ⟨sts₁, st, qs, ⟨k, r⟩, rs', rfl, hqs, hst, hfine, hnot⟩ :=
      exists_first_of_forall₂ hall hbare
    rcases hst.sentence with ⟨hfalse, -⟩ | ⟨-, ps, cs, rest, hclause, hwords, hstuck⟩
    · exact absurd hfalse hnot
    · refine not_leavesCode_of_stuck hus hfor hk (isValid_of_forall₂ hqs hfine) ?_ hclause hwords
        hstuck
      intro p hp
      rcases List.mem_append.1 hp with hp | hp
      · exact hrow p hp
      · exact standsBefore_of_mem_scan hp

end Code

end Rendered

/-- Written statements are cut as they are laid out, whatever follows them. -/
theorem Rendered.scan_text {r : Rendered} {rs : List (Nat × Rendered)} {lines : List Text}
    {trailing : Option Text} (hr : r.IsFor eol lines trailing) (hrs : Rendered.AreFor eol rs)
    (hk : ∀ q ∈ rs, 1 ≤ q.1) (rest : Text) :
    scan (r.text ++ rs.flatMap (fun q => eol.text.times q.1 ++ q.2.text) ++ rest) =
      Segment.row (segments eol [] ((0, r) :: rs)) ++
        scan (textOf (lastTrail [] ((0, r) :: rs)) ++ rest) := by
  have htext := @textOf_segments eol [] ((0, r) :: rs)
  have hchain : Chained (Segment.row (segments eol [] ((0, r) :: rs)))
      (textOf (lastTrail [] ((0, r) :: rs)) ++ rest).head? := by
    simp only [segments, Segment.row_cons, List.replicate_zero, List.nil_append]
    rw [chained_append, chained_append]
    exact ⟨hr.lead.chained _, hr.chained _, chained_row hr.trail hrs hk _⟩
  rw [← scan_of_chained hchain, ← List.append_assoc, ← textOf_append, htext]
  rfl

/-- Behind its leading comments, the text of written statements starts with the keyword. -/
theorem Rendered.exists_scan_text {r : Rendered} {rs : List (Nat × Rendered)} {lines : List Text}
    {trailing : Option Text} (hr : r.IsFor eol lines trailing) (hrs : Rendered.AreFor eol rs)
    (hk : ∀ q ∈ rs, 1 ≤ q.1) (rest : Text) :
    ∃ more, scan (r.text ++ rs.flatMap (fun q => eol.text.times q.1 ++ q.2.text) ++ rest) =
      r.lead ++ Statement.importPiece :: more := by
  obtain ⟨ps, hps⟩ := hr.opens
  rw [scan_text hr hrs hk]
  simp only [segments, Segment.row_cons, Sentence.pieces, hps, List.cons_append,
    List.append_assoc, List.nil_append, List.replicate_zero]
  exact ⟨_, rfl⟩

/-! ## Formatting -/

/-- **What a source must keep**: its shebang, its directives and its code. -/
structure Head.Keeps (h h' : Head) : Prop where
  shebang : h'.source.take h'.shebangEnd = h.source.take h.shebangEnd
  directives : h'.directives.map (fun s => h'.source.slice s.start s.stop) =
    h.directives.map fun s => h.source.slice s.start s.stop
  code : h'.codeStart.map h'.source.drop = h.codeStart.map h.source.drop

namespace Layout

variable {l : Layout} {ps : List Piece}

theorem drop_codeStart (l : Layout) :
    (l.head d).codeStart.map l.source.drop =
      if l.code.isEmpty then none else some (textOf l.code) := by
  have hdrop : l.source.drop l.headEnd = textOf l.code := by
    rw [source, pieces_eq, textOf_append, ← List.append_assoc, headEnd, ← List.length_append,
      List.drop_left]
  cases hcode : l.code with
  | nil => simp [head, hcode]
  | cons p code => simp [head, hcode, hdrop]

/-- Directives end where the prologue does. -/
theorem stop_le_floor (h : l.IsValid d) : ∀ s ∈ l.spans, s.stop ≤ l.floor := by
  intro s hs
  obtain ⟨isOpen, hdir, -⟩ := h.directives
  obtain ⟨t, ht, hstop⟩ := hdir.stop_mem hs
  rw [hstop]
  exact (Token.mem_ofPieces_le ht).2

/-- A source with the same prologue keeps what it must if it keeps the code. -/
theorem keeps_iff_code (h : l.IsValid d) (head' : Head)
    (hsource : head'.source = l.prologue.source ps) (hshebang : head'.shebangEnd = l.shebang.length)
    (hspans : head'.directives = l.spans) :
    (l.head d).Keeps head' ↔ head'.codeStart.map head'.source.drop =
      if l.code.isEmpty then none else some (textOf l.code) := by
  refine ⟨fun hkeeps => hkeeps.code.trans (drop_codeStart l), fun hcode => ⟨?_, ?_, ?_⟩⟩
  · rw [hsource, hshebang]
    exact (List.take_left).trans List.take_left.symm
  · have htake : ∀ s ∈ l.spans, ∀ qs : List Piece, (l.prologue.source qs).take s.stop =
        (l.shebang ++ textOf l.directives).take s.stop := by
      intro s hs qs
      have hle : s.stop ≤ (l.shebang ++ textOf l.directives).length := by
        simpa [floor] using stop_le_floor h s hs
      rw [Prologue.source, prologue, textOf_append, ← List.append_assoc,
        List.take_append_of_le_length hle]
    rw [hspans, hsource]
    refine List.map_congr_left fun s hs => ?_
    show _ = l.source.slice s.start s.stop
    rw [Text.slice, Text.slice, htake s hs]
    exact congrArg _ (htake s hs _).symm
  · rw [hcode]
    exact (drop_codeStart l).symm

/-- **A source with the same prologue** keeps what it must if reading it leaves the code. -/
theorem keeps_iff (h : l.IsValid d) (hps : l.prologue.IsBefore ps) :
    (∃ head', Head.parse (l.prologue.source ps) d = .ok head' ∧ (l.head d).Keeps head') ↔
      Rendered.LeavesCode d (l.shebang ++ textOf l.directives) ps l.code := by
  have hsource : l.shebang ++ textOf l.directives ++ textOf ps = l.prologue.source ps := by
    simp [Prologue.source, prologue]
  have hfloor : (l.shebang ++ textOf l.directives).length = l.prologue.floor := by
    simp [Prologue.floor, prologue]
  rw [Prologue.parse_source hps.isRead, Rendered.LeavesCode, hsource, hfloor]
  cases hread : Parser.imports (l.prologue.source ps).length d (l.prologue.source ps)
      (Token.ofPieces l.prologue.floor false ps) with
  | error e => simp [Except.map]
  | ok out =>
    obtain ⟨ds, rest⟩ := out
    constructor
    · rintro ⟨head', hhead, hkeeps⟩
      obtain rfl := Except.ok.inj hhead
      exact ⟨ds, rest, rfl, (keeps_iff_code h _ rfl rfl rfl).1 hkeeps⟩
    · rintro ⟨ds', rest', heq, hcode⟩
      obtain ⟨rfl, rfl⟩ := Prod.mk.inj (Except.ok.inj heq)
      exact ⟨_, rfl, (keeps_iff_code h _ rfl rfl rfl).2 hcode⟩

/-- A source whose region is replaced by written statements. -/
theorem keeps_rendered_iff (h : l.IsValid d) {g : Segment} {gs : List Segment}
    {us vs blanks lines : List Piece} (hsegments : l.segments = g :: gs) (hgap : g.gap = us ++ vs)
    (hvs : ∀ p ∈ vs.head?, p.isComment = true)
    (hbreak : l.floor ≠ 0 → vs ≠ [] → us.any isBreak = true)
    (hfollowed : IsFollowed blanks lines l.code) {sts : List Statement} {last : Statement}
    {r : Rendered} {rs : List (Nat × Rendered)}
    (hall : List.Forall₂ (fun st q => Rendered.IsOutcome d s eol st q.2) sts ((0, r) :: rs))
    (hk : ∀ q ∈ rs, 1 ≤ q.1) (hlast : sts.getLast? = some last)
    (hst : ∀ t ∈ last.trailingComment, IsCommentLine t) :
    (∃ head', Head.parse (l.prologue.source (us ++ scan
          (r.text ++ rs.flatMap (fun q => eol.text.times q.1 ++ q.2.text) ++
            textOf (blanks ++ (lines ++ l.code))))) d = .ok head' ∧ (l.head d).Keeps head') ↔
      (∀ st ∈ sts, ¬st.EndsInBareAs s) ∧
        ∀ next ∈ (Token.ofPieces 0 false (blanks ++ (lines ++ l.code))).head?,
          last.Separates s next := by
  have hfor := Rendered.areFor_of_forall₂ hall
  obtain ⟨leading, trailing, (hr : r.IsFor eol leading trailing)⟩ := hfor (0, r) (by simp)
  have hscan := Rendered.scan_text hr (fun q hq => hfor q (by simp [hq])) hk
    (textOf (blanks ++ (lines ++ l.code)))
  obtain ⟨e, hhead, he⟩ := hr.head?_text
    (rs.flatMap (fun q => eol.text.times q.1 ++ q.2.text) ++ textOf (blanks ++ (lines ++ l.code)))
  rw [← List.append_assoc] at hhead
  -- Behind its leading comments the text starts with the keyword, so that the prologue stays.
  obtain ⟨more, hmore⟩ := Rendered.exists_scan_text hr (fun q hq => hfor q (by simp [hq])) hk
    (textOf (blanks ++ (lines ++ l.code)))
  have hbefore := h.prologue_append hsegments hgap hvs hbreak hmore (by rw [textOf_scan])
    hr.lead.isGap (by rw [textOf_scan]; exact hhead) he
  have hrow : us ++ (Segment.row (Rendered.segments eol [] ((0, r) :: rs)) ++
      scan (textOf (Rendered.lastTrail [] ((0, r) :: rs)) ++
        textOf (blanks ++ (lines ++ l.code)))) =
      Segment.row (Rendered.segments eol us ((0, r) :: rs)) ++
        scan (textOf (Rendered.lastTrail us ((0, r) :: rs)) ++
          textOf (blanks ++ (lines ++ l.code))) := by
    simp [Rendered.segments, Rendered.lastTrail]
  have hgaps : ∀ p ∈ us, p.isGap = true := by
    intro p hp
    have hvalid := h.segments
    rw [hsegments] at hvalid
    exact hvalid.1 p (by simp [hgap, hp])
  have hstands : ∀ p ∈ us, StandsBefore p [] := by
    intro p hp
    refine h.standsBefore p ?_
    simp [pieces, hsegments, hgap, hp]
  have hstart : Parser.startsImport 0 (Token.ofPieces 0 false l.code) = false := by
    rw [← h.codeStart, Token.ofPieces_gap_append h.gap]
    exact Parser.startsImport_ofPieces _ _ _ _ _
  rw [keeps_iff h hbefore, hscan, hrow]
  refine Rendered.leavesCode_iff hgaps hstands ?_ hall hlast hst hfollowed hstart
  exact hk

end Layout

theorem Head.attached_ne_nil {head : Head} {gap : Nat} {region : Span}
    (h : head.region gap = some region) : head.attached gap ≠ [] := by
  intro hnil
  rw [Head.region, hnil] at h
  cases h

/-- The text of arranged statements as written statements in a row. -/
theorem exists_outcomes [Platform] {groups : List (List Statement)} {t : Text}
    (hgroups : ∀ group ∈ groups, group ≠ [] ∧ ∀ st ∈ group, st.WellFormed d) (hne : groups ≠ [])
    (hlines : 0 ≤ s.emptyLinesBetweenGroups)
    (hnames : ∀ st ∈ groups.flatten, ∀ b ∈ st.bindings, b.name ∉ openings)
    (hkept : ∀ st ∈ groups.flatten, st.innerComments = true →
      ∀ raw ∈ st.raw, ∀ p ∈ scan raw, p.Endures eol)
    (h : renderRegion s eol groups = .ok t) :
    ∃ r, ∃ rs : List (Nat × Rendered),
      t = r.text ++ rs.flatMap (fun q => eol.text.times q.1 ++ q.2.text) ∧
      (∀ q ∈ rs, 1 ≤ q.1) ∧
      List.Forall₂ (fun st q => Rendered.IsOutcome d s eol st q.2) groups.flatten
        ((0, r) :: rs) := by
  obtain ⟨r, rs, ht, hk, hall⟩ := exists_rendered (fun st hst ls hls => by
    obtain ⟨group, hgroup, hmem⟩ := List.mem_flatten.1 hst
    exact exists_isOutcome ((hgroups group hgroup).2 st hmem) (hnames st hst) (hkept st hst) hls)
    (fun group hgroup => (hgroups group hgroup).1) hne hlines h
  exact ⟨r, rs, ht, hk, List.forall₂_map_right_iff.1 hall⟩

/-- **When formatting keeps the code.** A text that formatting gives is read again, with the same
shebang, directives and code, exactly if no list of names comes to end in `type as,` and the last
statement is set apart from the code. Fewer blank lines than none are left out, since groups then
share a line, and so are names that open a string or comment which never ends and kept strings that
go over the end of a line: what is written may join with them to anything. -/
theorem keeps_format_iff [Platform] {c : FormatContext} {source text : Text} {head : Head}
    {region : Span}
    {groups : List (List Statement)} (hd : Dialect.ofPath? (Path.ofString c.file) = some d)
    (hparse : Head.parse source d = .ok head)
    (hregion : head.region c.settings.gap = some region)
    (hgroups : (arrange c.settings c.project
      (head.statements c.settings.gap)).result = .ok groups)
    (hlines : 0 ≤ c.settings.emptyLinesBetweenGroups)
    (hnames : ∀ st ∈ groups.flatten, ∀ b ∈ st.bindings, b.name ∉ openings)
    (hkept : ∀ st ∈ groups.flatten, st.innerComments = true →
      ∀ raw ∈ st.raw, ∀ p ∈ scan raw, p.Endures (c.eolFor source))
    (hformat : (c.format source).result = .ok (some text)) :
    (∃ head', Head.parse text d = .ok head' ∧ head.Keeps head') ↔
      (∀ st ∈ groups.flatten, ¬st.EndsInBareAs c.settings) ∧
        ∀ last ∈ groups.flatten.getLast?,
          ∀ next ∈ (Token.ofPieces 0 false (scan (source.drop region.stop))).head?,
            last.Separates c.settings next := by
  obtain ⟨honce, -, -⟩ := FormatContext.format_eq_some hformat
  obtain ⟨d', head', region', groups', rendered, hd', hparse', hregion', -, hgroups', hrender,
    rfl⟩ := FormatContext.formatOnce_eq_some honce
  obtain rfl := Option.some.inj (hd.symm.trans hd')
  obtain rfl := Except.ok.inj (hparse.symm.trans hparse')
  obtain rfl := Option.some.inj (hregion.symm.trans hregion')
  obtain rfl := Except.ok.inj (hgroups.symm.trans hgroups')
  have hattached := Head.attached_ne_nil hregion
  have himports : head.imports ≠ [] := by
    intro hnil
    exact hattached (by rw [Head.attached, hnil])
  obtain ⟨l, hl, rfl, rfl⟩ := Layout.exists_of_parse hparse himports
  obtain ⟨g, gs, us, vs, blanks, lines, region', hsegments, hgap, hvs, hbreak, hfollowed, hreg,
    hdrop, hsplice⟩ := Layout.exists_region hl c.settings.gap
  obtain rfl := Option.some.inj (hregion.symm.trans hreg)
  have hformed := wellFormed_arrange (Layout.wellFormed_statements hl _) hgroups
  obtain ⟨r, rs, hrendered, hk, hall⟩ := exists_outcomes hformed
    (arrange_ne_nil (by simpa [Head.statements] using hattached) hgroups) hlines hnames hkept
    hrender
  obtain ⟨last, hlast⟩ : ∃ last, groups.flatten.getLast? = some last := by
    obtain ⟨st, sts, -, -, hflat⟩ := List.forall₂_cons_right_iff.1 hall
    exact ⟨_, by rw [hflat]; exact List.getLast?_cons⟩
  have hst : last.WellFormed d := by
    obtain ⟨group, hgroup, hmem⟩ := List.mem_flatten.1 (List.mem_of_getLast? hlast)
    exact (hformed group hgroup).2 last hmem
  have hiff := Layout.keeps_rendered_iff hl hsegments hgap hvs hbreak hfollowed hall hk hlast
    hst.trailing
  rw [hsplice, hrendered, hiff, hdrop, hfollowed.pieces, hlast]
  simp

/-- An import and code on its line. -/
def gluedSource : Text := "import a from 'a'; foo();".toList

/-- Semicolons are to go. -/
def gluedContext : FormatContext := { file := "a.ts", settings := { semicolon := "never" } }

/-- The statement of the source. -/
def gluedStatement : Statement where
  specifier := ['a']
  bindings := [⟨.defaultExport, ['a'], none, false⟩]
  stop := 18
  raw := some "import a from 'a';".toList

section Usual

attribute [local instance] Platform.usual

/-- **Formatting can lose the code**: without its semicolon the statement runs into what follows it
on its line, and the new text cannot be read. -/
theorem not_keeps_format_glued : ∃ head text,
    Head.parse gluedSource ⟨true, false⟩ = .ok head ∧
      (gluedContext.format gluedSource).result = .ok (some text) ∧
      ¬∃ head', Head.parse text ⟨true, false⟩ = .ok head' ∧ head.Keeps head' := by
  have hread : (Head.parse gluedSource ⟨true, false⟩).toOption.bind (fun head =>
      ((arrange gluedContext.settings none (head.statements 1)).result.toOption).map
        fun groups => (groups, head.region 1)) = some ([[gluedStatement]], some ⟨0, 18⟩) := by
    decide +kernel
  obtain ⟨head, hparse, hgroups⟩ := Option.bind_eq_some_iff.1 hread
  obtain ⟨groups, hgroups, hpair⟩ := Option.map_eq_some_iff.1 hgroups
  obtain ⟨rfl, hregion⟩ := Prod.mk.inj hpair
  have hformat : (gluedContext.format gluedSource).result =
      .ok (some "import a from 'a' foo();".toList) :=
    Except.eq_ok_of_toOption (by decide +kernel)
  have hiff := @keeps_format_iff ⟨true, false⟩ _ gluedContext _ _ _ _ _ rfl
    (Except.eq_ok_of_toOption hparse) hregion (Except.eq_ok_of_toOption hgroups) (by decide)
    (by decide)
    (by
      intro st hst hinner
      obtain rfl : st = gluedStatement := by simpa using hst
      cases hinner)
    hformat
  refine ⟨head, _, Except.eq_ok_of_toOption hparse, hformat, fun hkeeps => ?_⟩
  have hsep := (hiff.1 hkeeps).2 gluedStatement rfl ⟨.name, "foo".toList, 1, false⟩
    (by decide +kernel)
  rcases (hsep.2 rfl).2 with hline | hline
  · cases hline
  · cases hline

end Usual

end ImportOrder
