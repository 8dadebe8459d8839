import ImportOrder.Proofs.Source.Attachment
import ImportOrder.Proofs.Source.Coverage
import Mathlib.Data.List.Forall2

/-!
# The ends of the region

The region of a head starts with a comment or a declaration and ends with one. A layout, cut at
these ends, tells what stands in between: declarations in order, comments in order, and blanks.
Comments end inside a declaration if they start there, and none reaches over an end of the region.

## Main definitions

* `Layout.Frame`: a layout cut at the ends of its region

## Main results

* `Segment.covers`: an offset of the region falls into a declaration, a comment or a blank
* `Layout.exists_frame`: every layout has a frame
* `Layout.Frame.IsOf.flatMap_attached`: the recorded comments are those of the region that no
  declaration holds
-/

namespace ImportOrder

open Piece (textOf sameLine below)

/-! ## Comments and declarations in order -/

namespace Text

/-- Stretches that meet are one. -/
theorem slice_append_slice {t : Text} {a b c : Nat} (hab : a ≤ b) (hbc : b ≤ c) :
    t.slice a b ++ t.slice b c = t.slice a c := by
  have htake : t.take b = (t.take c).take b := by rw [List.take_take, Nat.min_eq_left hbc]
  rw [slice, slice, slice, htake]
  by_cases hb : b ≤ (t.take c).length
  · have hle : a ≤ ((t.take c).take b).length := by
      rw [List.length_take]
      omega
    rw [← List.drop_append_of_le_length hle, List.take_append_drop]
  · have hlen : (t.take c).length ≤ b := by omega
    rw [List.take_of_length_le hlen, List.drop_eq_nil_of_le hlen, List.append_nil]

end Text

namespace Comment

/-- A stretch of comments that follow one another, with one more in front. -/
theorem stretch?_cons {source : Text} {c d : Comment} {ds : List Comment} {line : Text}
    (hcs : (c :: d :: ds).Pairwise (·.stop ≤ ·.start))
    (h : stretch? source (d :: ds) = some line) :
    stretch? source (c :: d :: ds) =
      some (source.slice c.start c.stop ++ source.slice c.stop d.start ++ line) := by
  obtain ⟨e, he⟩ : ∃ e, (d :: ds).getLast? = some e := ⟨_, List.getLast?_cons⟩
  have hcd : c.stop ≤ d.start := (List.pairwise_cons.1 hcs).1 d List.mem_cons_self
  have hde : d.start ≤ e.stop := by
    rcases List.mem_cons.1 (List.mem_of_getLast? he) with rfl | hmem
    · exact e.start_le_stop
    · have hle := (List.pairwise_cons.1 (List.pairwise_cons.1 hcs).2).1 e hmem
      exact Nat.le_trans d.start_le_stop (Nat.le_trans hle e.start_le_stop)
  have hlast : (c :: d :: ds).getLast? = some e := by rwa [List.getLast?_cons_cons]
  obtain rfl : source.slice d.start e.stop = line := by
    simpa only [stretch?, List.head?_cons, he, Option.some.injEq] using h
  rw [stretch?, hlast]
  show some (source.slice c.start e.stop) = _
  rw [Text.slice_append_slice c.start_le_stop hcd,
    Text.slice_append_slice (Nat.le_trans c.start_le_stop hcd) hde]

/-- The lines of comments in order: each is a stretch of one or more of them. -/
theorem exists_lines {source : Text} {cs : List Comment}
    (hcs : cs.Pairwise (·.stop ≤ ·.start))
    (htext : ∀ c ∈ cs, source.slice c.start c.stop = c.text) :
    ∃ groups : List (List Comment), groups.flatten = cs ∧
      List.Forall₂ (fun group line => stretch? source group = some line) groups
        (lines source cs) := by
  induction cs with
  | nil => exact ⟨[], rfl, .nil⟩
  | cons c cs ih =>
    have hctext := htext c List.mem_cons_self
    obtain ⟨groups, hflatten, hlines⟩ :=
      ih (List.pairwise_cons.1 hcs).2 fun d hd => htext d (List.mem_cons_of_mem c hd)
    have halone : stretch? source [c] = some c.text := congrArg some hctext
    cases cs with
    | nil => exact ⟨[[c]], rfl, .cons halone .nil⟩
    | cons d cs =>
      cases hmore : lines source (d :: cs) with
      | nil =>
        rw [hmore] at hlines
        cases hlines
        cases hflatten
      | cons line more =>
        rw [hmore] at hlines
        obtain ⟨group, groups, hgroup, hgroups, rfl⟩ := List.forall₂_cons_right_iff.1 hlines
        rw [lines_cons hmore]
        split
        · cases group with
          | nil => cases hgroup
          | cons e es =>
            obtain ⟨rfl, hrest⟩ : e = d ∧ es ++ groups.flatten = cs := List.cons.inj hflatten
            refine ⟨(c :: e :: es) :: groups, by simp [hrest], .cons ?_ hgroups⟩
            have hsub : (c :: e :: es).Sublist (c :: e :: cs) := by
              rw [← hrest]
              exact ((List.sublist_append_left es _).cons_cons e).cons_cons c
            rw [stretch?_cons (hcs.sublist hsub) hgroup, hctext]
        · exact ⟨[c] :: group :: groups, by simpa using hflatten,
            .cons halone (.cons hgroup hgroups)⟩

end Comment

namespace Segment

variable {offset : Nat} {gs : List Segment} {decl : ImportDecl}

theorem stop_le_of_mem_decls (h : decl ∈ decls offset gs) :
    decl.span.stop ≤ offset + (textOf (row gs)).length := by
  induction gs generalizing offset with
  | nil => cases h
  | cons g gs ih =>
    rw [row_cons, Piece.textOf_append, Piece.textOf_append, List.length_append, List.length_append]
    rcases List.mem_cons.1 h with rfl | h
    · show offset + (textOf g.gap).length + (textOf g.sentence.pieces).length ≤ _
      omega
    · have := ih h
      omega

theorem start_lt_stop_of_mem_decls {d : Dialect} {tail : List Piece} (hgs : AreValid d gs tail)
    (h : decl ∈ decls offset gs) : decl.span.start < decl.span.stop := by
  induction gs generalizing offset with
  | nil => cases h
  | cons g gs ih =>
    obtain ⟨-, hs, -, hgs⟩ := hgs
    rcases List.mem_cons.1 h with rfl | h
    · obtain ⟨ps, hclause, -⟩ := hs.clause
      refine Nat.lt_add_of_pos_right ?_
      simp [Sentence.pieces, hclause]
    · exact ih hgs h

/-- Declarations follow one another. -/
theorem pairwise_decls (offset : Nat) (gs : List Segment) :
    (decls offset gs).Pairwise (·.span.stop ≤ ·.span.start) := by
  induction gs generalizing offset with
  | nil => exact List.Pairwise.nil
  | cons g gs ih => exact List.pairwise_cons.2 ⟨fun _ h => le_start_of_mem_decls h, ih _⟩

/-- A comment that starts inside a declaration ends there. -/
theorem stop_le_of_holds {d : Dialect} {gap tail : List Piece} {c : Comment}
    (hgs : AreValid d gs tail) (hps : ∀ p ∈ row gs ++ gap, p.text ≠ [])
    (hc : c ∈ Comment.ofPieces offset (row gs ++ gap)) (h : decl ∈ decls offset gs)
    (hholds : decl.holds c = true) : c.stop ≤ decl.span.stop := by
  obtain ⟨bs, hrow, hspans⟩ := exists_blocks hgs
  rw [← hrow] at hps hc
  have hspan : decl.span ∈ Block.spans offset bs := by
    rw [hspans]
    exact List.mem_map_of_mem h
  simp only [ImportDecl.holds, Bool.and_eq_true, decide_eq_true_eq] at hholds
  have hle := c.start_le_stop
  rcases Block.comment_cases hps hc hspan with hin | hbefore | hbehind <;> omega

/-- What an offset of segments and the gap behind them falls into: a declaration, a comment or a
blank. -/
theorem covers {d : Dialect} {pre : Text} {gap tail : List Piece} {i : Nat} (post : Text)
    (hgs : AreValid d gs tail) (hps : ∀ p ∈ row gs ++ gap, Piece.StandsBefore p [])
    (hgap : ∀ p ∈ gap, p.isGap = true) (hle : pre.length ≤ i)
    (hlt : i < pre.length + (textOf (row gs ++ gap)).length) :
    (∃ decl ∈ decls pre.length gs, decl.span.start ≤ i ∧ i < decl.span.stop) ∨
      (∃ c ∈ Comment.ofPieces pre.length (row gs ++ gap), c.start ≤ i ∧ i < c.stop) ∨
        ∃ x, (pre ++ (textOf (row gs ++ gap) ++ post))[i]? = some x ∧
          (isSpace x = true ∨ isLineTerminator x = true) := by
  obtain ⟨bs, hrow, hspans⟩ := exists_blocks hgs
  rw [← hrow] at hps hlt ⊢
  rcases Block.covers post hps hgap hle hlt with ⟨s, hs, hin⟩ | hrest
  · rw [hspans] at hs
    obtain ⟨decl, hdecl, rfl⟩ := List.mem_map.1 hs
    exact .inl ⟨decl, hdecl, hin⟩
  · exact .inr hrest

end Segment

/-! ## The ends of the region -/

namespace Layout

variable {d : Dialect} {l : Layout}

theorem outer_append (offset : Nat) (gs : List Segment) (ps qs : List Piece) :
    outer offset gs (ps ++ qs) = outer offset gs ps ++
      Comment.ofPieces (offset + (textOf (Segment.row gs ++ ps)).length) qs := by
  induction gs generalizing offset with
  | nil => exact Comment.ofPieces_append offset ps qs
  | cons g gs ih =>
    rw [outer, outer, ih, List.append_assoc]
    simp [Nat.add_assoc]

/-- The comments of attached segments are those of the gaps, up to the line of the last one. -/
theorem flatMap_attachedFrom (offset : Nat) (decl : ImportDecl) (leading : List Comment)
    (gs : List Segment) (gap : List Piece) :
    (attachedFrom offset decl leading gs gap).flatMap (fun a => a.leading ++ a.trailing) =
      leading ++ outer offset gs (sameLine gap) := by
  induction gs generalizing offset decl leading with
  | nil => simp [attachedFrom, outer]
  | cons g gs ih =>
    have hgap := Comment.ofPieces_append offset (sameLine g.gap) (below g.gap)
    rw [Piece.sameLine_append_below] at hgap
    rw [attachedFrom, List.flatMap_cons, ih, outer, hgap]
    simp

/-- **A layout cut at the ends of its region**: the pieces above it, the segments (the first one
from its leading comments on), the pieces up to the last comment behind them on their line, and the
pieces below. -/
structure Frame where
  above : List Piece
  segments : List Segment
  line : List Piece
  rest : List Piece

namespace Frame

/-- The pieces of the region. -/
def pieces (f : Frame) : List Piece := Segment.row f.segments ++ f.line

/-- Where the region starts. -/
def start (f : Frame) (l : Layout) : Nat := l.shebang.length + (textOf f.above).length

/-- Where the region ends. -/
def stop (f : Frame) (l : Layout) : Nat := f.start l + (textOf f.pieces).length

/-- **The frame of a layout**, where `gap` blank lines set a comment apart. -/
structure IsOf (d : Dialect) (l : Layout) (gap : Nat) (f : Frame) : Prop where
  headPieces : l.headPieces = f.above ++ (f.pieces ++ f.rest)
  floor : l.floor ≤ f.start l
  region : (l.head d).region gap = some ⟨f.start l, f.stop l⟩
  imports : (l.head d).imports = Segment.decls (f.start l) f.segments
  segments : Segment.AreValid d f.segments (l.gap ++ l.code)
  line : ∀ p ∈ f.line, p.isGap = true
  recorded : ((l.head d).attached gap).flatMap (fun a => a.leading ++ a.trailing) =
    outer (f.start l) f.segments f.line

end Frame

/-- Every layout has a frame. -/
theorem exists_frame (h : l.IsValid d) (gap : Nat) : ∃ f : Frame, f.IsOf d l gap := by
  obtain ⟨g, gs, hsegments⟩ := List.exists_cons_of_ne_nil h.nonempty
  obtain ⟨us, vs, hgap, hleading, hvs, -⟩ := exists_leading h hsegments gap
  obtain ⟨tr, rs, hline, hrs, -, hstop⟩ := exists_trailing (sameLine l.gap)
  have hvalid := h.segments
  rw [hsegments] at hvalid
  obtain ⟨hggap, hs, hsemi, hgs⟩ := hvalid
  have hlgap : l.gap = tr ++ (rs ++ below l.gap) := by
    rw [← List.append_assoc, ← hline, Piece.sameLine_append_below]
  -- The first segment keeps only its leading comments, and what is above them goes with the
  -- directives.
  let f : Frame := ⟨l.directives ++ us, ⟨vs, g.sentence⟩ :: gs, tr, rs ++ below l.gap⟩
  have hstart : f.start l = l.floor + (textOf us).length := by
    simp [f, Frame.start, floor, Nat.add_assoc]
  have hfirst : f.start l + (textOf vs).length = l.floor + (textOf g.gap).length := by
    rw [hstart, hgap]
    simp [Nat.add_assoc]
  refine ⟨f, ?_, ?_, ?_, ?_, ?_, ?_, ?_⟩
  · conv => lhs; rw [headPieces, hsegments, hlgap]
    simp [f, Frame.pieces, hgap]
  · omega
  · have hend : f.stop l =
        l.floor + (textOf (Segment.row l.segments)).length + (textOf tr).length := by
      rw [Frame.stop, hstart, hsegments]
      simp [f, Frame.pieces, hgap]
      omega
    rw [region_head h hsegments hgap hleading hvs hstop, hstart, hend]
  · show Segment.decls l.floor l.segments = _
    rw [hsegments, Segment.decls, Segment.decls, hfirst]
  · exact ⟨fun p hp => hggap p (by simp [hgap, hp]), hs, hsemi, hgs⟩
  · intro p hp
    refine h.gap p ?_
    rw [hlgap]
    exact List.mem_append_left _ hp
  · rw [attached_head h hsegments, flatMap_attachedFrom, hleading, hline, outer_append,
      Comment.ofPieces_blank hrs, List.append_nil, outer, hfirst, hstart]

end Layout

/-! ## Regions in full -/

namespace Layout

variable {d : Dialect} {l : Layout} {gap : Nat} {f : Frame} {c : Comment}

theorem IsValid.text_ne_nil_of_mem_headPieces (h : l.IsValid d) :
    ∀ p ∈ l.headPieces, p.text ≠ [] := fun p hp =>
  h.text_ne_nil p (by rw [pieces_eq]; exact List.mem_append_left _ hp)

/-- The comments of a head are not empty, and have their text from the source. -/
theorem slice_of_mem_comments (h : l.IsValid d) (hc : c ∈ (l.head d).comments) :
    c.start < c.stop ∧ (l.head d).source.slice c.start c.stop = c.text :=
  h.isFound.isExhaustive.commentText c hc

theorem pairwise_comments (h : l.IsValid d) :
    (l.head d).comments.Pairwise (·.stop ≤ ·.start) :=
  h.isFound.isExhaustive.commentOrder

namespace Frame.IsOf

variable (h : l.IsValid d) (hf : f.IsOf d l gap)
include h hf

theorem standsBefore : ∀ p ∈ f.pieces, Piece.StandsBefore p [] := by
  intro p hp
  refine h.standsBefore p ?_
  rw [pieces_eq, hf.headPieces]
  simp [hp]

theorem text_ne_nil : ∀ p ∈ f.pieces, p.text ≠ [] := fun p hp =>
  (standsBefore h hf p hp).text_ne_nil

omit h in
theorem comments_eq : (l.head d).comments = Comment.ofPieces l.shebang.length f.above ++
    (Comment.ofPieces (f.start l) f.pieces ++ Comment.ofPieces (f.stop l) f.rest) := by
  show Comment.ofPieces _ l.headPieces = _
  rw [hf.headPieces, Comment.ofPieces_append, Comment.ofPieces_append]
  rfl

omit h in
/-- The source, cut at the ends of the region. -/
theorem exists_source : ∃ pre post, pre.length = f.start l ∧
    (l.head d).source = pre ++ (textOf f.pieces ++ post) := by
  refine ⟨l.shebang ++ textOf f.above, textOf f.rest ++ textOf l.code, List.length_append, ?_⟩
  simp [head, source, pieces_eq, hf.headPieces]

omit h in
theorem stop_le_length : f.stop l ≤ l.source.length := by
  obtain ⟨pre, post, hpre, hsource⟩ := exists_source hf
  rw [show l.source = _ from hsource, Frame.stop, ← hpre]
  simp only [List.length_append]
  omega

/-- No comment reaches over an end of the region. -/
theorem region_cases (hc : c ∈ (l.head d).comments) :
    (c ∈ Comment.ofPieces (f.start l) f.pieces ∧ f.start l ≤ c.start ∧ c.stop ≤ f.stop l) ∨
      c ∉ Comment.ofPieces (f.start l) f.pieces ∧ (c.stop ≤ f.start l ∨ f.stop l ≤ c.start) := by
  have hpos := (slice_of_mem_comments h hc).1
  have hin : c ∈ Comment.ofPieces (f.start l) f.pieces →
      f.start l ≤ c.start ∧ c.stop ≤ f.stop l := fun hc =>
    ⟨(Comment.mem_ofPieces_lt (text_ne_nil h hf) hc).1, Comment.stop_le_of_mem_ofPieces hc⟩
  have hrest : ∀ p ∈ f.rest, p.text ≠ [] := fun p hp =>
    h.text_ne_nil_of_mem_headPieces p (by rw [hf.headPieces]; simp [hp])
  rw [comments_eq hf] at hc
  rcases List.mem_append.1 hc with hc | hc
  · have hstop : c.stop ≤ f.start l := Comment.stop_le_of_mem_ofPieces hc
    exact .inr ⟨fun hmem => absurd (hin hmem) (by omega), .inl hstop⟩
  · rcases List.mem_append.1 hc with hc | hc
    · exact .inl ⟨hc, hin hc⟩
    · have hstart : f.stop l ≤ c.start := (Comment.mem_ofPieces_lt hrest hc).1
      exact .inr ⟨fun hmem => absurd (hin hmem) (by omega), .inr hstart⟩

omit h in
/-- Each declaration lies in the region. -/
theorem within {decl : ImportDecl} (hdecl : decl ∈ (l.head d).imports) :
    f.start l ≤ decl.span.start ∧ decl.span.stop ≤ f.stop l := by
  rw [hf.imports] at hdecl
  have hstop := Segment.stop_le_of_mem_decls hdecl
  have hregion : f.start l + (textOf (Segment.row f.segments)).length ≤ f.stop l := by
    simp [Frame.stop, Frame.pieces]
  exact ⟨Segment.le_start_of_mem_decls hdecl, Nat.le_trans hstop hregion⟩

/-- A comment is held by a declaration if it stands in it from start to end. -/
theorem holds_iff (hc : c ∈ (l.head d).comments) {decl : ImportDecl}
    (hdecl : decl ∈ (l.head d).imports) :
    decl.holds c = true ↔ decl.span.start < c.start ∧ c.stop ≤ decl.span.stop := by
  have hpos := (slice_of_mem_comments h hc).1
  have hregion := within hf hdecl
  rw [hf.imports] at hdecl
  constructor
  · intro hholds
    have hlt : decl.span.start < c.start ∧ c.start < decl.span.stop := by
      simpa only [ImportDecl.holds, Bool.and_eq_true, decide_eq_true_eq] using hholds
    rcases region_cases h hf hc with ⟨hmem, -⟩ | ⟨-, hout⟩
    · exact ⟨hlt.1, Segment.stop_le_of_holds hf.segments (text_ne_nil h hf) hmem hdecl hholds⟩
    · omega
  · intro hin
    simp only [ImportDecl.holds, Bool.and_eq_true, decide_eq_true_eq]
    omega

/-- **The recorded comments** are those of the region that no declaration holds. -/
theorem flatMap_attached :
    ((l.head d).attached gap).flatMap (fun a => a.leading ++ a.trailing) =
      (Comment.ofPieces (f.start l) f.pieces).filter
        fun c => !(l.head d).imports.any (·.holds c) := by
  rw [hf.recorded, hf.imports]
  exact (filter_holds hf.segments (text_ne_nil h hf)).symm

theorem mem_recorded_iff :
    (c ∈ ((l.head d).attached gap).flatMap fun a => a.leading ++ a.trailing) ↔
      c ∈ (l.head d).comments ∧ f.start l ≤ c.start ∧ c.stop ≤ f.stop l ∧
        ∀ decl ∈ (l.head d).imports, ¬(decl.span.start < c.start ∧ c.stop ≤ decl.span.stop) := by
  have hcomment : c ∈ Comment.ofPieces (f.start l) f.pieces → c ∈ (l.head d).comments := by
    intro hc
    rw [comments_eq hf]
    exact List.mem_append_right _ (List.mem_append_left _ hc)
  have hholds : c ∈ (l.head d).comments → ((!(l.head d).imports.any (·.holds c)) = true ↔
      ∀ decl ∈ (l.head d).imports,
        ¬(decl.span.start < c.start ∧ c.stop ≤ decl.span.stop)) := by
    intro hc
    rw [Bool.not_eq_true', List.any_eq_false]
    exact forall₂_congr fun decl hdecl => not_congr (holds_iff h hf hc hdecl)
  rw [flatMap_attached h hf, List.mem_filter]
  constructor
  · rintro ⟨hmem, hnone⟩
    have hc := hcomment hmem
    rcases region_cases h hf hc with ⟨-, hin⟩ | ⟨hnot, -⟩
    · exact ⟨hc, hin.1, hin.2, (hholds hc).1 hnone⟩
    · exact absurd hmem hnot
  · rintro ⟨hc, hstart, hstop, hnone⟩
    rcases region_cases h hf hc with ⟨hmem, -⟩ | ⟨-, hout⟩
    · exact ⟨hmem, (hholds hc).2 hnone⟩
    · have := (slice_of_mem_comments h hc).1
      omega

/-- The recorded comments follow one another. -/
theorem pairwise_recorded :
    (((l.head d).attached gap).flatMap fun a => a.leading ++ a.trailing).Pairwise
      (·.stop ≤ ·.start) := by
  rw [flatMap_attached h hf]
  exact (Comment.pairwise_ofPieces _ _ (text_ne_nil h hf)).filter _

theorem start_lt_of_recorded :
    (((l.head d).attached gap).flatMap fun a => a.leading ++ a.trailing).Pairwise
      (·.start < ·.start) := by
  refine (pairwise_recorded h hf).imp_of_mem fun {c c'} hc _ hle => ?_
  exact Nat.lt_of_lt_of_le (slice_of_mem_comments h ((mem_recorded_iff h hf).1 hc).1).1 hle

end Frame.IsOf

end Layout

end ImportOrder
