import ImportOrder.Proofs.Source.Head

/-!
# Comments in a gap

Which comments of a gap stand on the line where it starts, and which lines the comments make up,
is told by the pieces of the gap alone: lines end at the line breaks between comments, and a block
comment does not end a line.

## Main definitions

* `Piece.sameLine`, `Piece.below`: the pieces up to the first line break, and the others
* `Piece.stretch?`: the text from the first comment to the last
* `Piece.lines`: the lines that comments make up

## Main results

* `Comment.splitTrailing_ofPieces`, `Comment.stretch?_ofPieces`, `Comment.lines_ofPieces`: what the
  comments of a source give is what its pieces give
-/

namespace ImportOrder

namespace Text

theorem lineBreaks_eq_zero_iff (t : Text) :
    t.lineBreaks = 0 ↔ ∀ c ∈ t, isLineTerminator c = false := by
  fun_induction lineBreaks t with
  | case1 => simp
  | case2 t ih => simp [isLineTerminator]
  | case3 c t _ hc => simp [hc]
  | case4 c t _ hc ih => simp [ih, hc]

end Text

namespace Piece

/-- Whether a piece is a comment. -/
def isComment (p : Piece) : Bool := p.kind.isComment

/-- Whether a piece is a line break. -/
def isBreak (p : Piece) : Bool := p.kind == .newline

/-- The pieces up to the first line break. -/
def sameLine (ps : List Piece) : List Piece := ps.takeWhile (!isBreak ·)

/-- The pieces from the first line break on. -/
def below (ps : List Piece) : List Piece := ps.dropWhile (!isBreak ·)

@[simp] theorem sameLine_append_below (ps : List Piece) : sameLine ps ++ below ps = ps :=
  List.takeWhile_append_dropWhile

/-- The lines below start with a line break. -/
theorem isBreak_head?_below (ps : List Piece) : ∀ p ∈ (below ps).head?, p.isBreak = true := by
  intro p hp
  have hhead := List.head?_dropWhile_not (!isBreak ·) ps
  rw [show ps.dropWhile (!isBreak ·) = below ps from rfl, Option.mem_def.1 hp] at hhead
  simpa using hhead

theorem sameLine_append_of_not_break {ps : List Piece} (h : ∀ p ∈ ps, p.isBreak = false)
    (qs : List Piece) : sameLine (ps ++ qs) = ps ++ sameLine qs :=
  List.takeWhile_append_of_pos fun p hp => by simp [h p hp]

theorem below_append_of_not_break {ps : List Piece} (h : ∀ p ∈ ps, p.isBreak = false)
    (qs : List Piece) : below (ps ++ qs) = below qs :=
  List.dropWhile_append_of_pos fun p hp => by simp [h p hp]

/-- A list with a line break, up to the break and from there on. -/
theorem split_at_break {ps : List Piece} (h : ¬∀ p ∈ ps, p.isBreak = false) :
    ∃ us b vs, ps = us ++ b :: vs ∧ (∀ p ∈ us, p.isBreak = false) ∧ b.isBreak = true := by
  induction ps with
  | nil => simp at h
  | cons p ps ih =>
    cases hp : p.isBreak with
    | true => exact ⟨[], p, ps, rfl, by simp, hp⟩
    | false =>
      obtain ⟨us, b, vs, rfl, hus, hb⟩ := ih (by simpa [hp] using h)
      exact ⟨p :: us, b, vs, rfl, by simpa [hp] using hus, hb⟩

theorem sameLine_break {us : List Piece} {b : Piece} (hus : ∀ p ∈ us, p.isBreak = false)
    (hb : b.isBreak = true) (vs : List Piece) : sameLine (us ++ b :: vs) = us := by
  rw [sameLine_append_of_not_break hus]
  simp [sameLine, hb]

theorem below_break {us : List Piece} {b : Piece} (hus : ∀ p ∈ us, p.isBreak = false)
    (hb : b.isBreak = true) (vs : List Piece) : below (us ++ b :: vs) = b :: vs := by
  rw [below_append_of_not_break hus]
  simp [below, hb]

theorem head?_of_isComment {p : Piece} (h : p.isComment = true) (hp : StandsBefore p []) :
    p.text.head? = some '/' := by
  have hshape := hp.shape
  cases hshape <;> simp [isComment, PieceKind.isComment] at h <;> rfl

theorem isBreak_of_isComment {p : Piece} (h : p.isComment = true) : p.isBreak = false := by
  obtain ⟨kind, text⟩ := p
  cases kind <;> simp_all [isComment, isBreak, PieceKind.isComment]

/-- The pieces from the first comment to the last. -/
def trim (ps : List Piece) : List Piece :=
  ((ps.dropWhile (!isComment ·)).reverse.dropWhile (!isComment ·)).reverse

/-- The text from the first comment to the last. -/
def stretch? (ps : List Piece) : Option Text :=
  if ps.any isComment then some (textOf (trim ps)) else none

/-- The pieces of each line. -/
def splitLines : List Piece → List (List Piece)
  | [] => [[]]
  | p :: ps =>
    if p.isBreak then [] :: splitLines ps
    else match splitLines ps with
      | [] => [[p]]
      | l :: ls => (p :: l) :: ls

/-- The lines that the comments among pieces make up. -/
def lines (ps : List Piece) : List Text := (splitLines ps).filterMap stretch?

/-! ## Line breaks and spaces -/

theorem exists_terminator_of_isBreak {p : Piece} (h : StandsBefore p []) (hk : p.isBreak = true) :
    ∃ c ∈ p.text, isLineTerminator c = true := by
  have hshape := h.shape
  cases hshape <;> simp [isBreak] at hk
  case newline c hc => exact ⟨c, by simp, hc⟩
  case crlf => exact ⟨'\r', by simp, rfl⟩

/-- The pieces of a gap that are no comments are line breaks and spaces. -/
theorem not_terminator_of_blank {p : Piece} (h : StandsBefore p []) (hgap : p.isGap = true)
    (hc : p.isComment = false) (hk : p.isBreak = false) :
    ∀ c ∈ p.text, isLineTerminator c = false := by
  have hshape := h.shape
  cases hshape <;> simp [isGap, isComment, isBreak, PieceKind.token?, PieceKind.isComment] at *
  case space t hne hall => exact fun c hc => not_terminator_of_isSpace (hall c hc)

theorem lineBreaks_textOf_eq_zero_iff {ps : List Piece} (hps : ∀ p ∈ ps, StandsBefore p [])
    (hgap : ∀ p ∈ ps, p.isGap = true) (hc : ∀ p ∈ ps, p.isComment = false) :
    (textOf ps).lineBreaks = 0 ↔ ∀ p ∈ ps, p.isBreak = false := by
  rw [Text.lineBreaks_eq_zero_iff]
  constructor
  · intro h p hp
    rw [← Bool.not_eq_true]
    intro hbreak
    obtain ⟨c, hcp, hterm⟩ := exists_terminator_of_isBreak (hps p hp) hbreak
    have hmem : c ∈ textOf ps := List.mem_flatMap.2 ⟨p, hp, hcp⟩
    rw [h c hmem] at hterm
    cases hterm
  · intro h c hmem
    obtain ⟨p, hp, hcp⟩ := List.mem_flatMap.1 hmem
    exact not_terminator_of_blank (hps p hp) (hgap p hp) (hc p hp) (h p hp) c hcp

/-! ## Gaps, one comment after another -/

/-- Any pieces are pieces without comments, or such pieces, a comment, and more. -/
theorem comment_induction {motive : List Piece → Prop}
    (blank : ∀ bs, (∀ p ∈ bs, p.isComment = false) → motive bs)
    (comment : ∀ bs c ps, (∀ p ∈ bs, p.isComment = false) → c.isComment = true → motive ps →
      motive (bs ++ c :: ps)) (ps : List Piece) : motive ps := by
  induction hn : ps.length using Nat.strongRecOn generalizing ps with
  | _ n ih =>
    have hsplit : ps.takeWhile (!isComment ·) ++ ps.dropWhile (!isComment ·) = ps :=
      List.takeWhile_append_dropWhile
    have hblank : ∀ p ∈ ps.takeWhile (!isComment ·), p.isComment = false := by
      intro p hp
      simpa using List.mem_takeWhile_imp hp
    cases hdrop : ps.dropWhile (!isComment ·) with
    | nil =>
      rw [hdrop, List.append_nil] at hsplit
      rw [hsplit] at hblank
      exact blank ps hblank
    | cons c qs =>
      have hc : c.isComment = true := by
        have hhead := List.head?_dropWhile_not (!isComment ·) ps
        rw [hdrop] at hhead
        simpa using hhead
      rw [hdrop] at hsplit
      rw [← hsplit]
      refine comment _ c qs hblank hc (ih qs.length ?_ qs rfl)
      rw [← hn, ← hsplit]
      simp
      omega

/-! ## Stretches of comments -/

/-- **Pieces that start and end with a comment.** -/
structure IsStretch (ps : List Piece) : Prop where
  first : ∃ p qs, ps = p :: qs ∧ p.isComment = true
  last : ∃ qs p, ps = qs ++ [p] ∧ p.isComment = true

theorem exists_stretch_cons {c : Piece} (hc : c.isComment = true) (ps : List Piece) :
    ∃ core bs, c :: ps = core ++ bs ∧ IsStretch core ∧ ∀ p ∈ bs, p.isComment = false := by
  induction ps using comment_induction generalizing c with
  | blank bs hbs => exact ⟨[c], bs, rfl, ⟨⟨c, [], rfl, hc⟩, ⟨[], c, rfl, hc⟩⟩, hbs⟩
  | comment bs d ps hbs hd ih =>
    obtain ⟨core, bs', hrow, hcore, hbs'⟩ := ih hd
    obtain ⟨qs, p, rfl, hp⟩ := hcore.last
    refine ⟨c :: bs ++ (qs ++ [p]), bs', ?_, ⟨⟨c, _, rfl, hc⟩,
      ⟨c :: bs ++ qs, p, by simp, hp⟩⟩, hbs'⟩
    rw [List.append_assoc, ← hrow]
    simp

theorem trim_eq {bs core bs' : List Piece} (hbs : ∀ p ∈ bs, p.isComment = false)
    (hcore : IsStretch core) (hbs' : ∀ p ∈ bs', p.isComment = false) :
    trim (bs ++ (core ++ bs')) = core := by
  obtain ⟨p, qs, hp, hpc⟩ := hcore.first
  obtain ⟨rs, q, hq, hqc⟩ := hcore.last
  have hfront : (bs ++ (core ++ bs')).dropWhile (!isComment ·) = core ++ bs' := by
    rw [List.dropWhile_append_of_pos fun b hb => by simp [hbs b hb], hp]
    simp [hpc]
  have hback : (core ++ bs').reverse.dropWhile (!isComment ·) = core.reverse := by
    rw [List.reverse_append, List.dropWhile_append_of_pos fun b hb => by
      simp [hbs' b (List.mem_reverse.1 hb)], hq]
    simp [hqc]
  rw [trim, hfront, hback, List.reverse_reverse]

theorem stretch?_eq_some {bs core bs' : List Piece} (hbs : ∀ p ∈ bs, p.isComment = false)
    (hcore : IsStretch core) (hbs' : ∀ p ∈ bs', p.isComment = false) :
    stretch? (bs ++ (core ++ bs')) = some (textOf core) := by
  obtain ⟨p, qs, hp, hpc⟩ := hcore.first
  rw [stretch?, if_pos, trim_eq hbs hcore hbs']
  rw [List.any_eq_true]
  exact ⟨p, by simp [hp], hpc⟩

theorem stretch?_eq_none {ps : List Piece} (h : ∀ p ∈ ps, p.isComment = false) :
    stretch? ps = none := by
  rw [stretch?, if_neg]
  simpa using h

/-! ## Lines of comments -/

theorem splitLines_eq (ps : List Piece) : ∃ ls, splitLines ps = sameLine ps :: ls := by
  induction ps with
  | nil => exact ⟨[], rfl⟩
  | cons p ps ih =>
    obtain ⟨ls, hls⟩ := ih
    by_cases hp : p.isBreak = true
    · exact ⟨splitLines ps, by simp [splitLines, sameLine, hp]⟩
    · exact ⟨ls, by simp [splitLines, sameLine, hp, hls]⟩

theorem splitLines_append {bs ps l : List Piece} {ls : List (List Piece)}
    (hbs : ∀ p ∈ bs, p.isBreak = false) (h : splitLines ps = l :: ls) :
    splitLines (bs ++ ps) = (bs ++ l) :: ls := by
  induction bs with
  | nil => exact h
  | cons b bs ih =>
    have hb : b.isBreak = false := hbs b (by simp)
    have ih := ih fun p hp => hbs p (by simp [hp])
    simp [splitLines, hb, ih]

theorem lines_cons_blank {p : Piece} (hp : p.isComment = false) (ps : List Piece) :
    lines (p :: ps) = lines ps := by
  obtain ⟨ls, hls⟩ := splitLines_eq ps
  by_cases hb : p.isBreak = true
  · rw [lines, splitLines, if_pos hb, List.filterMap_cons, stretch?_eq_none (by simp)]
    rfl
  · have hstretch : stretch? (p :: sameLine ps) = stretch? (sameLine ps) := by
      simp [stretch?, trim, hp]
    rw [lines, lines, splitLines, if_neg hb, hls, List.filterMap_cons, hstretch,
      List.filterMap_cons]

theorem lines_append_blank {bs : List Piece} (hbs : ∀ p ∈ bs, p.isComment = false)
    (ps : List Piece) : lines (bs ++ ps) = lines ps := by
  induction bs with
  | nil => rfl
  | cons b bs ih =>
    rw [List.cons_append, lines_cons_blank (hbs b (by simp)), ih fun p hp => hbs p (by simp [hp])]

theorem lines_of_blank {bs : List Piece} (hbs : ∀ p ∈ bs, p.isComment = false) : lines bs = [] := by
  have h := lines_append_blank hbs []
  rw [List.append_nil] at h
  rw [h]
  rfl

/-- A comment with no other one behind it on its line is a line. -/
theorem lines_cons_comment_alone {c : Piece} (hc : c.isComment = true) {ps : List Piece}
    (hps : ∀ p ∈ sameLine ps, p.isComment = false) : lines (c :: ps) = c.text :: lines ps := by
  obtain ⟨ls, hls⟩ := splitLines_eq ps
  have hstretch : stretch? (c :: sameLine ps) = some c.text := by
    have h := @stretch?_eq_some [] [c] _ (by simp)
      ⟨⟨c, [], rfl, hc⟩, ⟨[], c, rfl, hc⟩⟩ hps
    simpa using h
  have hnone : stretch? (sameLine ps) = none := stretch?_eq_none hps
  rw [lines, lines, splitLines, if_neg (by simp [isBreak_of_isComment hc]), hls,
    List.filterMap_cons, hstretch, List.filterMap_cons, hnone]

/-- A comment with another one behind it on its line is the start of that line. -/
theorem lines_cons_comment_with {c d : Piece} (hc : c.isComment = true) (hd : d.isComment = true)
    {bs : List Piece} (hbreak : ∀ p ∈ bs, p.isBreak = false) (ps : List Piece) :
    ∃ line more, lines (d :: ps) = line :: more ∧
      lines (c :: (bs ++ d :: ps)) = (c.text ++ textOf bs ++ line) :: more := by
  obtain ⟨ls, hls⟩ := splitLines_eq ps
  obtain ⟨core, bs', hrow, hcore, hbs'⟩ := exists_stretch_cons hd (sameLine ps)
  obtain ⟨qs, q, hq, hqc⟩ := hcore.last
  have hd' : stretch? (d :: sameLine ps) = some (textOf core) := by
    have h := @stretch?_eq_some [] core bs' (by simp) hcore hbs'
    rwa [List.nil_append, ← hrow] at h
  have hc' : stretch? (c :: (bs ++ d :: sameLine ps)) =
      some (c.text ++ textOf bs ++ textOf core) := by
    have hstretch : IsStretch (c :: (bs ++ core)) :=
      ⟨⟨c, _, rfl, hc⟩, ⟨c :: (bs ++ qs), q, by simp [hq], hqc⟩⟩
    have h := @stretch?_eq_some [] _ bs' (by simp) hstretch hbs'
    rw [hrow]
    simpa using h
  have hdline : ∀ p ∈ [d], p.isBreak = false := by simpa using isBreak_of_isComment hd
  have hcline : ∀ p ∈ c :: (bs ++ [d]), p.isBreak = false := by
    simpa [isBreak_of_isComment hc, isBreak_of_isComment hd, or_imp, forall_and] using hbreak
  have hdsplit : splitLines (d :: ps) = (d :: sameLine ps) :: ls := splitLines_append hdline hls
  have hcsplit : splitLines (c :: (bs ++ d :: ps)) = (c :: (bs ++ d :: sameLine ps)) :: ls := by
    simpa using splitLines_append hcline hls
  refine ⟨textOf core, ls.filterMap stretch?, ?_, ?_⟩
  · rw [lines, hdsplit, List.filterMap_cons, hd']
  · rw [lines, hcsplit, List.filterMap_cons, hc']

end Piece

namespace Comment

open Piece (textOf sameLine below)

theorem ofPieces_blank {offset : Nat} {bs : List Piece} (h : ∀ p ∈ bs, p.isComment = false) :
    ofPieces offset bs = [] := by
  induction bs generalizing offset with
  | nil => rfl
  | cons p bs ih =>
    have hp : p.kind.isComment = false := h p (by simp)
    simp [ofPieces, hp, ih fun q hq => h q (by simp [hq])]

theorem ofPieces_blank_comment {offset : Nat} {bs ps : List Piece} {c : Piece}
    (h : ∀ p ∈ bs, p.isComment = false) (hc : c.isComment = true) :
    ofPieces offset (bs ++ c :: ps) =
      ⟨c.text, offset + (textOf bs).length⟩ ::
        ofPieces (offset + (textOf bs).length + c.text.length) ps := by
  have hk : c.kind.isComment = true := hc
  rw [ofPieces_append, ofPieces_blank h]
  simp [ofPieces, hk]

/-- The comments on the line where a gap starts. -/
theorem splitTrailing_ofPieces {pre : Text} {ps : List Piece} (post : Text)
    (hps : ∀ p ∈ ps, Piece.StandsBefore p []) (hgap : ∀ p ∈ ps, p.isGap = true) :
    splitTrailing (pre ++ (textOf ps ++ post)) pre.length (ofPieces pre.length ps) =
      (ofPieces pre.length (sameLine ps),
        ofPieces (pre.length + (textOf (sameLine ps)).length) (below ps)) := by
  induction ps using Piece.comment_induction generalizing pre with
  | blank bs hbs =>
    have hsame : ∀ p ∈ sameLine bs, p.isComment = false :=
      fun p hp => hbs p (List.takeWhile_subset _ hp)
    have hbelow : ∀ p ∈ below bs, p.isComment = false :=
      fun p hp => hbs p (List.dropWhile_subset _ hp)
    rw [ofPieces_blank hbs, ofPieces_blank hsame, ofPieces_blank hbelow]
    rfl
  | comment bs c ps hbs hc ih =>
    have hslice : (pre ++ (textOf (bs ++ c :: ps) ++ post)).slice pre.length
        (pre.length + (textOf bs).length) = textOf bs := by
      simp
    have hzero : (textOf bs).lineBreaks = 0 ↔ ∀ p ∈ bs, p.isBreak = false :=
      Piece.lineBreaks_textOf_eq_zero_iff (fun p hp => hps p (by simp [hp]))
        (fun p hp => hgap p (by simp [hp])) hbs
    rw [ofPieces_blank_comment hbs hc]
    simp only [splitTrailing, hslice, hzero]
    by_cases hbreak : ∀ p ∈ bs, p.isBreak = false
    · have hline : ∀ p ∈ bs ++ [c], p.isBreak = false := by
        intro p hp
        rcases List.mem_append.1 hp with hp | hp
        · exact hbreak p hp
        · rw [List.mem_singleton.1 hp]
          exact Piece.isBreak_of_isComment hc
      have hrest := @ih (pre ++ (textOf bs ++ c.text)) (fun p hp => hps p (by simp [hp]))
        (fun p hp => hgap p (by simp [hp]))
      have hrow : bs ++ c :: ps = (bs ++ [c]) ++ ps := by simp
      rw [if_pos hbreak, hrow, Piece.sameLine_append_of_not_break hline,
        Piece.below_append_of_not_break hline]
      simp only [List.append_assoc, List.length_append, ← Nat.add_assoc] at hrest
      simp only [stop, List.append_assoc, List.singleton_append, Piece.textOf_append,
        Piece.textOf_cons, hrest, ofPieces_blank_comment hbs hc]
      simp [Nat.add_assoc]
    · -- A line break comes first: no comment is on the line, and all of them are below.
      obtain ⟨us, b, vs, rfl, hus, hb⟩ := Piece.split_at_break hbreak
      have hrow : us ++ b :: vs ++ c :: ps = us ++ b :: (vs ++ c :: ps) := by simp
      have hnone : ofPieces pre.length us = [] := ofPieces_blank fun p hp => hbs p (by simp [hp])
      rw [if_neg hbreak, hrow, Piece.sameLine_break hus hb, Piece.below_break hus hb, hnone,
        ← List.cons_append,
        ofPieces_blank_comment (fun p hp => hbs p (List.mem_append_right us hp)) hc]
      simp [Nat.add_assoc]

theorem head?_ofPieces_of_isStretch {core : List Piece} (h : Piece.IsStretch core)
    (offset : Nat) : ∃ c, (ofPieces offset core).head? = some c ∧ c.start = offset := by
  obtain ⟨p, qs, rfl, hp⟩ := h.first
  have hk : p.kind.isComment = true := hp
  exact ⟨⟨p.text, offset⟩, by simp [ofPieces, hk], rfl⟩

theorem getLast?_ofPieces_of_isStretch {core : List Piece} (h : Piece.IsStretch core)
    (offset : Nat) :
    ∃ c, (ofPieces offset core).getLast? = some c ∧ c.stop = offset + (textOf core).length := by
  obtain ⟨qs, p, rfl, hp⟩ := h.last
  have hk : p.kind.isComment = true := hp
  refine ⟨⟨p.text, offset + (textOf qs).length⟩, ?_, ?_⟩
  · rw [ofPieces_append, List.getLast?_append]
    simp [ofPieces, hk]
  · simp [stop, Nat.add_assoc]

/-- The stretch of the comments of pieces. -/
theorem stretch?_ofPieces (pre : Text) (ps : List Piece) (post : Text) :
    stretch? (pre ++ (textOf ps ++ post)) (ofPieces pre.length ps) = Piece.stretch? ps := by
  induction ps using Piece.comment_induction with
  | blank bs hbs =>
    rw [ofPieces_blank hbs, Piece.stretch?_eq_none hbs]
    rfl
  | comment bs c ps hbs hc _ =>
    obtain ⟨core, bs', hrow, hcore, hbs'⟩ := Piece.exists_stretch_cons hc ps
    obtain ⟨d, hd, hstart⟩ := head?_ofPieces_of_isStretch hcore (pre.length + (textOf bs).length)
    obtain ⟨e, he, hstop⟩ := getLast?_ofPieces_of_isStretch hcore (pre.length + (textOf bs).length)
    have hcomments : ofPieces pre.length (bs ++ (core ++ bs')) =
        ofPieces (pre.length + (textOf bs).length) core := by
      rw [ofPieces_append, ofPieces_blank hbs, ofPieces_append, ofPieces_blank hbs']
      simp
    have hslice := Text.slice_append (pre ++ textOf bs) (textOf core) (textOf bs' ++ post)
    rw [hrow, Piece.stretch?_eq_some hbs hcore hbs', hcomments, stretch?, hd, he]
    simp only [hstart, hstop, Option.some.injEq]
    simpa [Nat.add_assoc] using hslice

theorem lines_cons {source : Text} {c d : Comment} {cs : List Comment} {line : Text}
    {more : List Text} (h : lines source (d :: cs) = line :: more) :
    lines source (c :: d :: cs) =
      if (source.slice c.stop d.start).lineBreaks = 0 then
        (c.text ++ source.slice c.stop d.start ++ line) :: more
      else c.text :: line :: more := by
  rw [lines, h]

/-- The lines of the comments of pieces. -/
theorem lines_ofPieces {pre : Text} {ps : List Piece} (post : Text)
    (hps : ∀ p ∈ ps, Piece.StandsBefore p []) (hgap : ∀ p ∈ ps, p.isGap = true) :
    lines (pre ++ (textOf ps ++ post)) (ofPieces pre.length ps) = Piece.lines ps := by
  induction ps using Piece.comment_induction generalizing pre with
  | blank bs hbs =>
    rw [ofPieces_blank hbs, Piece.lines_of_blank hbs]
    rfl
  | comment bs c ps hbs hc ih =>
    have hrest := @ih (pre ++ (textOf bs ++ c.text)) (fun p hp => hps p (by simp [hp]))
      (fun p hp => hgap p (by simp [hp]))
    simp only [List.append_assoc, List.length_append, ← Nat.add_assoc] at hrest
    rw [ofPieces_blank_comment hbs hc, Piece.lines_append_blank hbs]
    simp only [Piece.textOf_append, Piece.textOf_cons, List.append_assoc]
    induction ps using Piece.comment_induction with
    | blank ds hds =>
      have hsame : ∀ p ∈ sameLine ds, p.isComment = false :=
        fun p hp => hds p (List.takeWhile_subset _ hp)
      rw [ofPieces_blank hds, Piece.lines_cons_comment_alone hc hsame, Piece.lines_of_blank hds]
      rfl
    | comment ds d qs hds hd _ =>
      have hslice := Text.slice_append (pre ++ (textOf bs ++ c.text)) (textOf ds)
        (d.text ++ (textOf qs ++ post))
      have hzero : (textOf ds).lineBreaks = 0 ↔ ∀ p ∈ ds, p.isBreak = false :=
        Piece.lineBreaks_textOf_eq_zero_iff (fun p hp => hps p (by simp [hp]))
          (fun p hp => hgap p (by simp [hp])) hds
      simp only [Piece.textOf_append, Piece.textOf_cons, List.append_assoc, List.length_append,
        ← Nat.add_assoc] at hslice hrest ⊢
      rw [ofPieces_blank_comment hds hd, Piece.lines_append_blank hds] at hrest
      rw [ofPieces_blank_comment hds hd]
      by_cases hbreak : ∀ p ∈ ds, p.isBreak = false
      · obtain ⟨line, more, hline, hwith⟩ := Piece.lines_cons_comment_with hc hd hbreak qs
        rw [lines_cons (hrest.trans hline), hwith]
        simp only [stop, hslice, if_pos (hzero.2 hbreak)]
      · obtain ⟨line, more, hline, -⟩ :=
          @Piece.lines_cons_comment_with c d hc hd [] (by simp) qs
        have hsame : ∀ p ∈ sameLine (ds ++ d :: qs), p.isComment = false := by
          obtain ⟨us, b, vs, rfl, hus, hb⟩ := Piece.split_at_break hbreak
          rw [List.append_assoc, List.cons_append, Piece.sameLine_break hus hb]
          exact fun p hp => hds p (by simp [hp])
        rw [lines_cons (hrest.trans hline), Piece.lines_cons_comment_alone hc hsame,
          Piece.lines_append_blank hds, hline]
        simp only [stop, hslice, if_neg fun h => hbreak (hzero.1 h)]

/-- The lines of the comments among the last pieces. -/
theorem lines_ofPieces_append {pre : Text} {ps : List Piece} (us : List Piece) (post : Text)
    (hps : ∀ p ∈ ps, Piece.StandsBefore p []) (hgap : ∀ p ∈ ps, p.isGap = true) :
    lines (pre ++ (textOf (us ++ ps) ++ post)) (ofPieces (pre.length + (textOf us).length) ps) =
      Piece.lines ps := by
  have hlines := @lines_ofPieces (pre ++ textOf us) ps post hps hgap
  simpa using hlines

end Comment

end ImportOrder
