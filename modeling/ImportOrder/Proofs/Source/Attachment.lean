import ImportOrder.Proofs.Source.Blocks

/-!
# Comments of laid out declarations

Where the comments of a layout go: those on the line where a declaration ends trail it, those of
the gap below lead the next one. The first declaration is led by a part of its gap only, and what
stands above that part stays where it is.

## Main definitions

* `Layout.outer`: the comments in the gaps of segments
* `Layout.attachedFrom`: segments with their comments

## Main results

* `Layout.attached_head`: the declarations of a head with their comments
-/

namespace ImportOrder

open Piece (textOf sameLine below)

namespace Segment

theorem le_start_of_mem_decls {offset : Nat} {gs : List Segment} {decl : ImportDecl}
    (h : decl ∈ decls offset gs) : offset ≤ decl.span.start := by
  induction gs generalizing offset with
  | nil => simp [decls] at h
  | cons g gs ih =>
    rcases List.mem_cons.1 h with rfl | h
    · exact Nat.le_add_right _ _
    · exact Nat.le_trans (by omega) (ih h)

end Segment

namespace Layout

/-- The comments in the gaps of segments, and in the gap behind them. -/
def outer (offset : Nat) : List Segment → List Piece → List Comment
  | [], gap => Comment.ofPieces offset gap
  | g :: gs, gap =>
    Comment.ofPieces offset g.gap ++
      outer (offset + (textOf g.gap).length + (textOf g.sentence.pieces).length) gs gap

theorem le_start_of_mem_outer {offset : Nat} {gs : List Segment} {gap : List Piece} {c : Comment}
    (hps : ∀ p ∈ Segment.row gs ++ gap, p.text ≠ []) (h : c ∈ outer offset gs gap) :
    offset ≤ c.start := by
  induction gs generalizing offset with
  | nil => exact (Comment.mem_ofPieces_lt hps h).1
  | cons g gs ih =>
    rcases List.mem_append.1 h with h | h
    · exact (Comment.mem_ofPieces_lt (fun p hp => hps p (by simp [hp])) h).1
    · have := ih (fun p hp => hps p (by
        simp only [Segment.row_cons, List.append_assoc, List.mem_append] at hp ⊢
        exact .inr (.inr hp))) h
      omega

theorem holds_decl_iff {s : Sentence} {offset : Nat} {c : Comment} :
    (s.decl offset).holds c = true ↔
      offset < c.start ∧ c.start < offset + (textOf s.pieces).length := by
  rw [ImportDecl.holds, Bool.and_eq_true, decide_eq_true_iff, decide_eq_true_iff]
  rfl

/-- A comment among the pieces of a sentence stands inside the declaration. -/
theorem holds_of_mem_sentence {d : Dialect} {s : Sentence} (hs : s.IsValid d) {offset : Nat}
    {c : Comment} (hps : ∀ p ∈ s.pieces, p.text ≠ [])
    (h : c ∈ Comment.ofPieces offset s.pieces) : (s.decl offset).holds c = true := by
  obtain ⟨ps, hclause, -⟩ := hs.clause
  have hstop := (Comment.mem_ofPieces_lt hps h).2
  have hstart : offset < c.start := by
    have hrow : s.pieces = ⟨.name, "import".toList⟩ ::
        (ps ++ ⟨.string, s.target⟩ :: (s.attributePieces ++ s.semicolonPieces)) := by
      simp [Sentence.pieces, hclause]
    rw [hrow] at h hps
    have hrest := (Comment.mem_ofPieces_lt (fun p hp => hps p (List.mem_cons_of_mem _ hp)) h).1
    exact Nat.lt_of_lt_of_le (by simp) hrest
  exact holds_decl_iff.2 ⟨hstart, hstop⟩

/-- Without the comments inside declarations, those in the gaps remain. -/
theorem filter_holds {d : Dialect} {offset : Nat} {gs : List Segment} {tail gap : List Piece}
    (hgs : Segment.AreValid d gs tail) (hps : ∀ p ∈ Segment.row gs ++ gap, p.text ≠ []) :
    (Comment.ofPieces offset (Segment.row gs ++ gap)).filter
        (fun c => !(Segment.decls offset gs).any (·.holds c)) = outer offset gs gap := by
  induction gs generalizing offset with
  | nil => simp [outer, Segment.decls]
  | cons g gs ih =>
    obtain ⟨-, hs, -, hgs⟩ := hgs
    simp only [Segment.row_cons, List.append_assoc, List.mem_append] at hps
    have hgap : ∀ p ∈ g.gap, p.text ≠ [] := fun p hp => hps p (.inl hp)
    have hsen : ∀ p ∈ g.sentence.pieces, p.text ≠ [] := fun p hp => hps p (.inr (.inl hp))
    have hmore : ∀ p ∈ Segment.row gs ++ gap, p.text ≠ [] := fun p hp =>
      hps p (.inr (.inr (List.mem_append.1 hp)))
    rw [Segment.row_cons, List.append_assoc, List.append_assoc, Comment.ofPieces_append,
      Comment.ofPieces_append, List.filter_append, List.filter_append, outer]
    -- The comments of the gap stay, those of the sentence go, and the first declaration holds
    -- none of the others.
    have h₁ : (Comment.ofPieces offset g.gap).filter
        (fun c => !(Segment.decls offset (g :: gs)).any (·.holds c)) =
          Comment.ofPieces offset g.gap := by
      refine List.filter_eq_self.2 fun c hc => ?_
      have hlt := (Comment.mem_ofPieces_lt hgap hc).2
      rw [Bool.not_eq_true', List.any_eq_false]
      intro decl hdecl
      have hle : offset + (textOf g.gap).length ≤ decl.span.start := by
        rcases List.mem_cons.1 hdecl with rfl | hdecl
        · exact Nat.le_refl _
        · exact Nat.le_trans (by omega) (Segment.le_start_of_mem_decls hdecl)
      simp only [ImportDecl.holds, Bool.and_eq_true, decide_eq_true_eq, not_and]
      omega
    have h₂ : (Comment.ofPieces (offset + (textOf g.gap).length) g.sentence.pieces).filter
        (fun c => !(Segment.decls offset (g :: gs)).any (·.holds c)) = [] := by
      refine List.filter_eq_nil_iff.2 fun c hc => ?_
      simp [Segment.decls, holds_of_mem_sentence hs hsen hc]
    have h₃ : (Comment.ofPieces (offset + (textOf g.gap).length +
        (textOf g.sentence.pieces).length) (Segment.row gs ++ gap)).filter
        (fun c => !(Segment.decls offset (g :: gs)).any (·.holds c)) =
          outer (offset + (textOf g.gap).length + (textOf g.sentence.pieces).length) gs gap := by
      rw [← ih hgs hmore]
      refine List.filter_congr fun c hc => ?_
      have hle := (Comment.mem_ofPieces_lt hmore hc).1
      have hfirst : (g.sentence.decl (offset + (textOf g.gap).length)).holds c = false := by
        rw [← Bool.not_eq_true, holds_decl_iff]
        omega
      simp [Segment.decls, hfirst]
    rw [h₁, h₂, h₃, List.nil_append]

/-! ## The comments of a head -/

theorem foldl_max_eq {ds : List Span} {start stop : Nat} (hstart : start ≤ stop)
    (hds : ∀ s ∈ ds, s.stop ≤ stop) (hmem : start = stop ∨ ∃ s ∈ ds, s.stop = stop) :
    ds.foldl (fun n s => max n s.stop) start = stop := by
  induction ds generalizing start with
  | nil => simpa using hmem
  | cons s ds ih =>
    have hs := hds s (by simp)
    refine ih (Nat.max_le.2 ⟨hstart, hs⟩) (fun t ht => hds t (by simp [ht])) ?_
    rcases hmem with rfl | ⟨t, ht, rfl⟩
    · exact .inl (Nat.max_eq_left hs)
    · rcases List.mem_cons.1 ht with rfl | ht
      · exact .inl (Nat.max_eq_right hstart)
      · exact .inr ⟨t, ht, rfl⟩

variable {d : Dialect} {l : Layout}

/-- The directives end where their pieces end. -/
theorem floor_head (h : l.IsValid d) : (l.head d).floor = l.floor := by
  obtain ⟨isOpen, hdir, -⟩ := h.directives
  refine foldl_max_eq (Nat.le_add_right _ _) ?_ ?_
  · intro s hs
    obtain ⟨t, ht, hstop⟩ := hdir.stop_mem hs
    rw [hstop]
    exact (Token.mem_ofPieces_le ht).2
  · cases hlast : l.directives.getLast? with
    | none =>
      obtain hnil := List.getLast?_eq_none_iff.1 hlast
      left
      simp [floor, hnil, head]
    | some p =>
      obtain ⟨ps, hps⟩ := List.getLast?_eq_some_iff.1 hlast
      obtain ⟨k, hk⟩ := Piece.exists_token_of_isGap (h.directivesEnd p hlast)
      obtain ⟨s, hs, hstop⟩ := @Parser.Directives.getLast _ _ _ hdir
        ⟨k, p.text, l.shebang.length + (textOf ps).length, Token.pending false ps⟩ (by
          rw [hps, Token.ofPieces_append, List.getLast?_append]
          simp [Token.ofPieces, hk])
      refine .inr ⟨s, hs, ?_⟩
      rw [hstop, floor, hps]
      simp [Token.stop, Nat.add_assoc]

theorem IsValid.text_ne_nil (h : l.IsValid d) : ∀ p ∈ l.pieces, p.text ≠ [] :=
  fun p hp => (h.standsBefore p hp).text_ne_nil

theorem commentsBelowFloor_head (h : l.IsValid d) :
    (l.head d).commentsBelowFloor =
      Comment.ofPieces l.floor (Segment.row l.segments ++ l.gap) := by
  have hne := h.text_ne_nil
  rw [pieces] at hne
  rw [Head.commentsBelowFloor, floor_head h, head, headPieces, Comment.ofPieces_append,
    List.filter_append]
  have h₁ : (Comment.ofPieces l.shebang.length l.directives).filter (l.floor ≤ ·.start) = [] := by
    refine List.filter_eq_nil_iff.2 fun c hc => ?_
    have hlt := (Comment.mem_ofPieces_lt (fun p hp => hne p (by simp [hp])) hc).2
    rw [decide_eq_true_iff, floor]
    omega
  have h₂ : (Comment.ofPieces l.floor (Segment.row l.segments ++ l.gap)).filter
      (l.floor ≤ ·.start) = Comment.ofPieces l.floor (Segment.row l.segments ++ l.gap) := by
    refine List.filter_eq_self.2 fun c hc => decide_eq_true ?_
    refine (Comment.mem_ofPieces_lt (fun p hp => hne p ?_) hc).1
    simp only [List.mem_append] at hp ⊢
    exact .inr (hp.imp id .inl)
  rw [h₁, ← floor, h₂, List.nil_append]

theorem outerComments_head (h : l.IsValid d) :
    (l.head d).outerComments = outer l.floor l.segments l.gap := by
  have hne := h.text_ne_nil
  rw [pieces] at hne
  rw [Head.outerComments, commentsBelowFloor_head h]
  refine filter_holds h.segments fun p hp => hne p ?_
  simp only [List.mem_append] at hp ⊢
  exact .inr (hp.imp id .inl)

/-! ## Declarations with their comments -/

/-- Segments with their comments, where `decl` is the declaration before them that ends at an
offset. -/
def attachedFrom (offset : Nat) (decl : ImportDecl) (leading : List Comment) :
    List Segment → List Piece → List Attached
  | [], gap => [⟨decl, leading, Comment.ofPieces offset (sameLine gap)⟩]
  | g :: gs, gap =>
    ⟨decl, leading, Comment.ofPieces offset (sameLine g.gap)⟩ ::
      attachedFrom (offset + (textOf g.gap).length + (textOf g.sentence.pieces).length)
        (g.sentence.decl (offset + (textOf g.gap).length))
        (Comment.ofPieces (offset + (textOf (sameLine g.gap)).length) (below g.gap)) gs gap

theorem takeWhile_append_eq {α : Type} {f : α → Bool} {as bs : List α} (has : ∀ a ∈ as, f a = true)
    (hbs : ∀ b ∈ bs, f b = false) : (as ++ bs).takeWhile f = as := by
  rw [List.takeWhile_append_of_pos has]
  cases bs with
  | nil => simp
  | cons b bs => simp [hbs b (by simp)]

theorem attach_eq {pre : Text} {decl : ImportDecl} {leading : List Comment} {gs : List Segment}
    {gap : List Piece} {tail : List Piece} (post : Text)
    (hps : ∀ p ∈ Segment.row gs ++ gap, Piece.StandsBefore p [])
    (hgs : Segment.AreValid d gs tail) (hgap : ∀ p ∈ gap, p.isGap = true)
    (hstop : decl.span.stop = pre.length) :
    Attached.attach (pre ++ (textOf (Segment.row gs ++ gap) ++ post)) decl leading
        (outer pre.length gs gap) (Segment.decls pre.length gs) =
      attachedFrom pre.length decl leading gs gap := by
  induction gs generalizing pre decl leading with
  | nil =>
    rw [Segment.row_nil, List.nil_append] at hps ⊢
    rw [Segment.decls, Attached.attach, outer, attachedFrom, hstop,
      Comment.splitTrailing_ofPieces post hps hgap]
  | cons g gs ih =>
    obtain ⟨hggap, hs, -, hgs⟩ := hgs
    simp only [Segment.row_cons, List.append_assoc, List.mem_append] at hps
    have hgstands : ∀ p ∈ g.gap, Piece.StandsBefore p [] := fun p hp => hps p (.inl hp)
    have hrest : ∀ p ∈ Segment.row gs ++ gap, Piece.StandsBefore p [] :=
      fun p hp => hps p (.inr (.inr (List.mem_append.1 hp)))
    have hbetween : (outer pre.length (g :: gs) gap).takeWhile
        (·.start < (g.sentence.decl (pre.length + (textOf g.gap).length)).span.start) =
          Comment.ofPieces pre.length g.gap := by
      refine takeWhile_append_eq (fun c hc => decide_eq_true ?_) fun c hc => decide_eq_false ?_
      · exact (Comment.mem_ofPieces_lt (fun p hp => (hgstands p hp).text_ne_nil) hc).2
      · have := le_start_of_mem_outer (fun p hp => (hrest p hp).text_ne_nil) hc
        show ¬c.start < pre.length + (textOf g.gap).length
        omega
    have hsource : pre ++ (textOf (Segment.row (g :: gs) ++ gap) ++ post) =
        pre ++ (textOf g.gap ++ (textOf g.sentence.pieces ++
          (textOf (Segment.row gs ++ gap) ++ post))) := by
      simp
    have hsplit := @Comment.splitTrailing_ofPieces pre g.gap
      (textOf g.sentence.pieces ++ (textOf (Segment.row gs ++ gap) ++ post)) hgstands hggap
    have hnext := @ih (pre ++ (textOf g.gap ++ textOf g.sentence.pieces))
      (g.sentence.decl (pre.length + (textOf g.gap).length))
      (Comment.ofPieces (pre.length + (textOf (sameLine g.gap)).length) (below g.gap)) hrest hgs
      (by simp [Sentence.decl, Nat.add_assoc])
    simp only [List.append_assoc, List.length_append, ← Nat.add_assoc] at hnext
    rw [hsource, Segment.decls, Attached.attach, attachedFrom]
    dsimp only
    rw [hbetween, hstop, hsplit, outer, List.drop_left, ← hnext]

theorem dropWhile_append_eq {α : Type} {f : α → Bool} {as bs : List α} (has : ∀ a ∈ as, f a = true)
    (hbs : ∀ b ∈ bs, f b = false) : (as ++ bs).dropWhile f = bs := by
  rw [List.dropWhile_append_of_pos has]
  cases bs with
  | nil => rfl
  | cons b bs => simp [hbs b (by simp)]

/-- Which comments stand above the first declaration. -/
theorem start_lt_iff (h : l.IsValid d) {g : Segment} {gs : List Segment}
    (hsegments : l.segments = g :: gs) :
    (∀ c ∈ Comment.ofPieces l.floor g.gap,
        decide (c.start < l.floor + (textOf g.gap).length) = true) ∧
      ∀ c ∈ outer (l.floor + (textOf g.gap).length + (textOf g.sentence.pieces).length) gs l.gap,
        decide (c.start < l.floor + (textOf g.gap).length) = false := by
  have hne := h.text_ne_nil
  simp only [pieces, hsegments, Segment.row_cons, List.append_assoc, List.mem_append] at hne
  refine ⟨fun c hc => decide_eq_true ?_, fun c hc => decide_eq_false ?_⟩
  · exact (Comment.mem_ofPieces_lt (fun p hp => hne p (.inr (.inl hp))) hc).2
  · have hmore : ∀ p ∈ Segment.row gs ++ l.gap, p.text ≠ [] := by
      intro p hp
      rcases List.mem_append.1 hp with hp | hp
      · exact hne p (.inr (.inr (.inr (.inl hp))))
      · exact hne p (.inr (.inr (.inr (.inr (.inl hp)))))
    have := le_start_of_mem_outer hmore hc
    omega

/-- The declarations of a head with their comments. -/
theorem attached_head (h : l.IsValid d) {g : Segment} {gs : List Segment}
    (hsegments : l.segments = g :: gs) (gap : Nat) :
    (l.head d).attached gap =
      attachedFrom (l.floor + (textOf g.gap).length + (textOf g.sentence.pieces).length)
        (g.sentence.decl (l.floor + (textOf g.gap).length))
        ((l.head d).firstLeading gap (l.floor + (textOf g.gap).length)) gs l.gap := by
  obtain ⟨hlt, hge⟩ := start_lt_iff h hsegments
  have himports : (l.head d).imports = g.sentence.decl (l.floor + (textOf g.gap).length) ::
      Segment.decls (l.floor + (textOf g.gap).length + (textOf g.sentence.pieces).length) gs := by
    rw [head, hsegments, Segment.decls]
  have hdrop : (l.head d).outerComments.dropWhile
      (·.start < (g.sentence.decl (l.floor + (textOf g.gap).length)).span.start) =
        outer (l.floor + (textOf g.gap).length + (textOf g.sentence.pieces).length) gs l.gap := by
    rw [outerComments_head h, hsegments, outer]
    exact dropWhile_append_eq hlt hge
  have hvalid := h.segments
  rw [hsegments] at hvalid
  obtain ⟨-, -, -, hgs⟩ := hvalid
  have hstands := h.standsBefore
  simp only [pieces, hsegments, Segment.row_cons, List.append_assoc, List.mem_append] at hstands
  -- The declarations behind the first one, in the source cut at the end of the first.
  have hattach := @attach_eq d
    (l.shebang ++ (textOf l.directives ++ (textOf g.gap ++ textOf g.sentence.pieces)))
    (g.sentence.decl (l.floor + (textOf g.gap).length))
    ((l.head d).firstLeading gap (l.floor + (textOf g.gap).length)) gs l.gap (l.gap ++ l.code)
    (textOf l.code) (by
      intro p hp
      rcases List.mem_append.1 hp with hp | hp
      · exact hstands p (.inr (.inr (.inr (.inl hp))))
      · exact hstands p (.inr (.inr (.inr (.inr (.inl hp)))))) hgs h.gap
    (by simp [Sentence.decl, floor, Nat.add_assoc])
  have hsource : (l.head d).source =
      l.shebang ++ (textOf l.directives ++ (textOf g.gap ++ textOf g.sentence.pieces)) ++
        (textOf (Segment.row gs ++ l.gap) ++ textOf l.code) := by
    simp [head, source, pieces, hsegments]
  have hlen : (l.shebang ++ (textOf l.directives ++ (textOf g.gap ++
      textOf g.sentence.pieces))).length =
      l.floor + (textOf g.gap).length + (textOf g.sentence.pieces).length := by
    simp [floor, Nat.add_assoc]
  rw [← hsource, hlen] at hattach
  rw [Head.attached, himports]
  dsimp only
  rw [hdrop]
  exact hattach

/-- The comments that may lead the first declaration. -/
theorem firstLeading_head (h : l.IsValid d) {g : Segment} {gs : List Segment}
    (hsegments : l.segments = g :: gs) (gap : Nat) :
    (l.head d).firstLeading gap (l.floor + (textOf g.gap).length) =
      Comment.belowFileLevel l.source gap (l.floor + (textOf g.gap).length)
        (if l.floor = 0 then Comment.ofPieces l.floor g.gap
          else Comment.ofPieces (l.floor + (textOf (sameLine g.gap)).length) (below g.gap)) := by
  obtain ⟨hlt, hge⟩ := start_lt_iff h hsegments
  have habove : (l.head d).outerComments.takeWhile
      (·.start < l.floor + (textOf g.gap).length) = Comment.ofPieces l.floor g.gap := by
    rw [outerComments_head h, hsegments, outer]
    exact takeWhile_append_eq hlt hge
  have hvalid := h.segments
  rw [hsegments] at hvalid
  have hstands := h.standsBefore
  simp only [pieces, hsegments, Segment.row_cons, List.append_assoc, List.mem_append] at hstands
  have hsplit := @Comment.splitTrailing_ofPieces (l.shebang ++ textOf l.directives) g.gap
    (textOf g.sentence.pieces ++ textOf (Segment.row gs ++ (l.gap ++ l.code)))
    (fun p hp => hstands p (.inr (.inl hp))) hvalid.1
  have hsource : (l.head d).source = l.shebang ++ textOf l.directives ++ (textOf g.gap ++
      (textOf g.sentence.pieces ++ textOf (Segment.row gs ++ (l.gap ++ l.code)))) := by
    simp [head, source, pieces, hsegments]
  rw [← hsource, List.length_append, ← floor] at hsplit
  rw [Head.firstLeading, habove, floor_head h, hsplit]
  rfl

end Layout

namespace Comment

/-- The comments below the last file-level one are the last ones. -/
theorem belowFileLevel_suffix (source : Text) (gap first : Nat) (cs : List Comment) :
    belowFileLevel source gap first cs <:+ cs := by
  have hzip : (cs.zip (cs.tail.map Comment.start ++ [first])).map Prod.fst = cs := by
    rw [List.map_fst_zip]
    simp
    omega
  rw [belowFileLevel]
  conv => rhs; rw [← hzip]
  refine List.IsSuffix.map _ ?_
  rw [← List.reverse_prefix, List.reverse_reverse]
  exact List.takeWhile_prefix _

theorem any_ofPieces {offset : Nat} {ps : List Piece} {f : Comment → Bool}
    (h : ∀ c ∈ ofPieces offset ps, f c = true) :
    (ofPieces offset ps).any f = ps.any Piece.isComment := by
  induction ps using Piece.comment_induction with
  | blank bs hbs =>
    rw [ofPieces_blank hbs]
    simpa using hbs
  | comment bs c ps hbs hc _ =>
    rw [ofPieces_blank_comment hbs hc] at h ⊢
    simp [h _ List.mem_cons_self, hc]

theorem start_le_of_mem_append {offset : Nat} {before : List Comment} {ps : List Piece}
    (hps : ∀ p ∈ ps, p.text ≠ []) (hbefore : ∀ c ∈ before, c.start ≤ offset) :
    ∀ c ∈ before ++ ofPieces offset ps, c.start ≤ offset + (textOf ps).length := by
  intro c hc
  rcases List.mem_append.1 hc with hc | hc
  · exact Nat.le_trans (hbefore c hc) (Nat.le_add_right _ _)
  · exact Nat.le_of_lt (mem_ofPieces_lt hps hc).2

/-- The last comments of pieces are the comments of the last pieces. -/
theorem exists_of_suffix_ofPieces {offset : Nat} {ps : List Piece} {cs : List Comment}
    (h : cs <:+ ofPieces offset ps) :
    ∃ us vs, ps = us ++ vs ∧ cs = ofPieces (offset + (textOf us).length) vs ∧
      ∀ p ∈ vs.head?, p.isComment = true := by
  induction ps generalizing offset with
  | nil =>
    obtain rfl : cs = [] := List.suffix_nil.1 h
    exact ⟨[], [], rfl, rfl, by simp⟩
  | cons p ps ih =>
    by_cases hp : p.kind.isComment = true
    · rw [ofPieces, if_pos hp] at h
      rcases List.suffix_cons_iff.1 h with rfl | h
      · refine ⟨[], p :: ps, rfl, by simp [ofPieces, hp], fun q hq => ?_⟩
        obtain rfl := Option.some.inj hq
        exact hp
      · obtain ⟨us, vs, rfl, rfl, hvs⟩ := ih h
        exact ⟨p :: us, vs, rfl, by simp [Nat.add_assoc], hvs⟩
    · rw [ofPieces, if_neg hp] at h
      obtain ⟨us, vs, rfl, rfl, hvs⟩ := ih h
      exact ⟨p :: us, vs, rfl, by simp [Nat.add_assoc], hvs⟩

end Comment

namespace Layout

variable {d : Dialect} {l : Layout}

/-- The first declaration is led by the comments of the last pieces of its gap. If there are
directives, a line ends above those pieces. -/
theorem exists_leading (h : l.IsValid d) {g : Segment} {gs : List Segment}
    (hsegments : l.segments = g :: gs) (gap : Nat) :
    ∃ us vs, g.gap = us ++ vs ∧
      (l.head d).firstLeading gap (l.floor + (textOf g.gap).length) =
        Comment.ofPieces (l.floor + (textOf us).length) vs ∧
      (∀ p ∈ vs.head?, p.isComment = true) ∧
      (l.floor ≠ 0 → vs ≠ [] → us.any Piece.isBreak = true) := by
  have hsuffix := Comment.belowFileLevel_suffix l.source gap (l.floor + (textOf g.gap).length)
    (if l.floor = 0 then Comment.ofPieces l.floor g.gap
      else Comment.ofPieces (l.floor + (textOf (sameLine g.gap)).length) (below g.gap))
  rw [← firstLeading_head h hsegments gap] at hsuffix
  by_cases hfloor : l.floor = 0
  · rw [if_pos hfloor] at hsuffix
    obtain ⟨us, vs, hrow, hcs, hvs⟩ := Comment.exists_of_suffix_ofPieces hsuffix
    exact ⟨us, vs, hrow, hcs, hvs, fun hne => absurd hfloor hne⟩
  · rw [if_neg hfloor] at hsuffix
    obtain ⟨us, vs, hrow, hcs, hvs⟩ := Comment.exists_of_suffix_ofPieces hsuffix
    refine ⟨sameLine g.gap ++ us, vs, ?_, ?_, hvs, fun _ hne => ?_⟩
    · rw [List.append_assoc, ← hrow, Piece.sameLine_append_below]
    · rw [hcs]
      simp [Nat.add_assoc]
    · obtain ⟨v, vs, rfl⟩ := List.exists_cons_of_ne_nil hne
      have hbreak := Piece.isBreak_head?_below g.gap
      rw [hrow] at hbreak
      cases us with
      | nil =>
        have hv := hbreak v rfl
        rw [Piece.isBreak_of_isComment (hvs v rfl)] at hv
        cases hv
      | cons u us => simp [hbreak u rfl]

/-! ## Statements -/

/-- The statement of a sentence: `leading` are the pieces of its leading comments, `trailing` those
behind it on its line. -/
def statement (s : Sentence) (offset index : Nat) (leading trailing : List Piece) : Statement where
  specifier := s.target.tail.dropLast
  bindings := s.bindings
  typeOnly := s.typeOnly
  leadingComments := Piece.lines leading
  trailingComment := Piece.stretch? trailing
  start := offset
  stop := offset + (textOf s.pieces).length
  raw := some (textOf s.pieces)
  quote := (s.target.head?.bind Quote.ofChar?).getD .single
  attributes := s.attributes.map fun (_, as) => textOf as
  hasSemicolon := s.semicolon.isSome
  innerComments := s.pieces.any Piece.isComment
  index

/-- The statements of a sentence and the segments behind it. -/
def statementsFrom (offset index : Nat) (leading : List Piece) (s : Sentence) :
    List Segment → List Piece → List Statement
  | [], gap => [statement s offset index leading (sameLine gap)]
  | g :: gs, gap =>
    statement s offset index leading (sameLine g.gap) ::
      statementsFrom (offset + (textOf s.pieces).length + (textOf g.gap).length) (index + 1)
        (below g.gap) g.sentence gs gap

theorem any_holds {s : Sentence} {offset : Nat} {comments before : List Comment}
    {after : List Piece}
    (hcomments : comments = before ++ Comment.ofPieces offset (s.pieces ++ after))
    (hs : s.IsValid d) (hps : ∀ p ∈ s.pieces ++ after, p.text ≠ [])
    (hbefore : ∀ c ∈ before, c.start ≤ offset) :
    comments.any (s.decl offset).holds = s.pieces.any Piece.isComment := by
  have hbefore : before.any (s.decl offset).holds = false := by
    rw [List.any_eq_false]
    intro c hc hholds
    have hle := hbefore c hc
    rw [holds_decl_iff] at hholds
    omega
  have hafter : (Comment.ofPieces (offset + (textOf s.pieces).length) after).any
      (s.decl offset).holds = false := by
    rw [List.any_eq_false]
    intro c hc hholds
    have hle := (Comment.mem_ofPieces_lt (fun p hp => hps p (List.mem_append_right _ hp)) hc).1
    rw [holds_decl_iff] at hholds
    omega
  rw [hcomments, Comment.ofPieces_append, List.any_append, List.any_append, hbefore, hafter,
    Bool.false_or, Bool.or_false]
  have hinner : ∀ c ∈ Comment.ofPieces offset s.pieces, (s.decl offset).holds c = true :=
    fun c hc => holds_of_mem_sentence hs (fun p hp => hps p (List.mem_append_left _ hp)) hc
  exact Comment.any_ofPieces hinner

theorem statement_attached {source pre post : Text} {s : Sentence} {leading : List Comment}
    {lead : List Piece} {gap : List Piece} {index : Nat}
    (hsource : source = pre ++ (textOf s.pieces ++ (textOf gap ++ post)))
    (hlead : Comment.lines source leading = Piece.lines lead) :
    Attached.statement source (s.pieces.any Piece.isComment) index
        ⟨s.decl pre.length, leading,
          Comment.ofPieces (pre.length + (textOf s.pieces).length) (sameLine gap)⟩ =
      statement s pre.length index lead (sameLine gap) := by
  have hstretch := Comment.stretch?_ofPieces (pre ++ textOf s.pieces) (sameLine gap)
    (textOf (below gap) ++ post)
  have hgap : textOf (sameLine gap) ++ textOf (below gap) = textOf gap := by
    rw [← Piece.textOf_append, Piece.sameLine_append_below]
  rw [← List.append_assoc (textOf (sameLine gap)), hgap, List.append_assoc,
    List.length_append] at hstretch
  subst hsource
  simp only [Attached.statement, statement, Sentence.decl, hlead, hstretch, Text.slice_append]

/-- What stands below the line of a declaration gives the lines that lead the next one. -/
theorem lines_below {source pre post : Text} {gap : List Piece}
    (hsource : source = pre ++ (textOf gap ++ post))
    (hstands : ∀ p ∈ gap, Piece.StandsBefore p []) (hgap : ∀ p ∈ gap, p.isGap = true) :
    Comment.lines source
        (Comment.ofPieces (pre.length + (textOf (sameLine gap)).length) (below gap)) =
      Piece.lines (below gap) := by
  have hmem : ∀ p ∈ below gap, p ∈ gap := fun p hp => List.dropWhile_subset _ hp
  have hlines := @Comment.lines_ofPieces_append pre (below gap) (sameLine gap) post
    (fun p hp => hstands p (hmem p hp)) (fun p hp => hgap p (hmem p hp))
  rwa [Piece.sameLine_append_below, ← hsource] at hlines

/-- The statements of attached segments. -/
theorem mapIdx_attachedFrom {source pre post : Text} {comments before : List Comment}
    {s : Sentence} {gs : List Segment} {gap tail : List Piece} {leading : List Comment}
    {lead : List Piece} {index : Nat}
    (hsource : source = pre ++ (textOf s.pieces ++ (textOf (Segment.row gs ++ gap) ++ post)))
    (hcomments : comments =
      before ++ Comment.ofPieces pre.length (s.pieces ++ (Segment.row gs ++ gap)))
    (hs : s.IsValid d) (hgs : Segment.AreValid d gs tail)
    (hps : ∀ p ∈ s.pieces ++ (Segment.row gs ++ gap), Piece.StandsBefore p [])
    (hbefore : ∀ c ∈ before, c.start ≤ pre.length)
    (hlead : Comment.lines source leading = Piece.lines lead) :
    (attachedFrom (pre.length + (textOf s.pieces).length) (s.decl pre.length) leading gs
        gap).mapIdx (fun i a => a.statement source (comments.any a.decl.holds) (i + index)) =
      statementsFrom pre.length index lead s gs gap := by
  have hinner := any_holds hcomments hs (fun p hp => (hps p hp).text_ne_nil) hbefore
  induction gs generalizing pre s before leading lead index with
  | nil =>
    rw [Segment.row_nil, List.nil_append] at hsource
    rw [attachedFrom, statementsFrom, List.mapIdx_cons, List.mapIdx_nil, hinner, Nat.zero_add,
      statement_attached hsource hlead]
  | cons g gs ih =>
    obtain ⟨hggap, hsg, -, hgs⟩ := hgs
    have hrow : Segment.row (g :: gs) ++ gap =
        g.gap ++ (g.sentence.pieces ++ (Segment.row gs ++ gap)) := by simp
    rw [hrow] at hsource hcomments hps
    rw [Piece.textOf_append, List.append_assoc] at hsource
    have hnext : ∀ p ∈ g.sentence.pieces ++ (Segment.row gs ++ gap), Piece.StandsBefore p [] :=
      fun p hp => hps p (List.mem_append_right _ (List.mem_append_right _ hp))
    have hsource' : source = pre ++ (textOf s.pieces ++ textOf g.gap) ++
        (textOf g.sentence.pieces ++ (textOf (Segment.row gs ++ gap) ++ post)) := by
      rw [hsource]
      simp
    have hcomments' : comments = before ++ Comment.ofPieces pre.length (s.pieces ++ g.gap) ++
        Comment.ofPieces (pre ++ (textOf s.pieces ++ textOf g.gap)).length
          (g.sentence.pieces ++ (Segment.row gs ++ gap)) := by
      rw [hcomments, List.append_assoc, ← List.append_assoc s.pieces,
        Comment.ofPieces_append _ (_ ++ g.gap)]
      simp
    have hbefore' : ∀ c ∈ before ++ Comment.ofPieces pre.length (s.pieces ++ g.gap),
        c.start ≤ (pre ++ (textOf s.pieces ++ textOf g.gap)).length := by
      rw [List.length_append, ← Piece.textOf_append]
      refine Comment.start_le_of_mem_append (fun p hp => (hps p ?_).text_ne_nil) hbefore
      rw [← List.append_assoc]
      exact List.mem_append_left _ hp
    have hlead' := @lines_below source (pre ++ textOf s.pieces) _ g.gap
      (by rw [hsource, List.append_assoc])
      (fun p hp => hps p (List.mem_append_right _ (List.mem_append_left _ hp))) hggap
    have hrest := @ih _ _ _ _ _ (index + 1) hsource' hcomments' hsg hgs hnext hbefore' hlead'
      (any_holds hcomments' hsg (fun p hp => (hnext p hp).text_ne_nil) hbefore')
    rw [attachedFrom, statementsFrom, List.mapIdx_cons, hinner, Nat.zero_add,
      statement_attached hsource hlead]
    have hlen : (pre ++ (textOf s.pieces ++ textOf g.gap)).length =
        pre.length + (textOf s.pieces).length + (textOf g.gap).length := by
      simp [Nat.add_assoc]
    rw [hlen] at hrest
    simp only [Nat.add_assoc, Nat.add_comm 1 index, List.length_append] at hrest ⊢
    rw [hrest]

/-- **The statements of a head**: the first is led by the pieces `vs` of its gap. -/
theorem statements_head (h : l.IsValid d) {g : Segment} {gs : List Segment}
    (hsegments : l.segments = g :: gs) {gap : Nat} {us vs : List Piece} (hgap : g.gap = us ++ vs)
    (hleading : (l.head d).firstLeading gap (l.floor + (textOf g.gap).length) =
      Comment.ofPieces (l.floor + (textOf us).length) vs) :
    (l.head d).statements gap =
      statementsFrom (l.floor + (textOf g.gap).length) 0 vs g.sentence gs l.gap := by
  have hvalid := h.segments
  rw [hsegments] at hvalid
  obtain ⟨hggap, hs, -, hgs⟩ := hvalid
  have hrow : Segment.row l.segments ++ l.gap =
      g.gap ++ (g.sentence.pieces ++ (Segment.row gs ++ l.gap)) := by simp [hsegments]
  have hstands : ∀ p ∈ g.gap ++ (g.sentence.pieces ++ (Segment.row gs ++ l.gap)),
      Piece.StandsBefore p [] := by
    intro p hp
    refine h.standsBefore p ?_
    rw [← hrow] at hp
    simp only [pieces, List.mem_append] at hp ⊢
    exact .inr (hp.imp id .inl)
  have hsource : (l.head d).source = l.shebang ++ (textOf l.directives ++ textOf g.gap) ++
      (textOf g.sentence.pieces ++ (textOf (Segment.row gs ++ l.gap) ++ textOf l.code)) := by
    simp [head, source, pieces, hsegments]
  have hlen : (l.shebang ++ (textOf l.directives ++ textOf g.gap)).length =
      l.floor + (textOf g.gap).length := by
    simp [floor, Nat.add_assoc]
  have hcomments : (l.head d).commentsBelowFloor = Comment.ofPieces l.floor g.gap ++
      Comment.ofPieces (l.shebang ++ (textOf l.directives ++ textOf g.gap)).length
        (g.sentence.pieces ++ (Segment.row gs ++ l.gap)) := by
    rw [commentsBelowFloor_head h, hrow, Comment.ofPieces_append, hlen]
  have hlead : Comment.lines (l.head d).source
      ((l.head d).firstLeading gap (l.floor + (textOf g.gap).length)) = Piece.lines vs := by
    have hmem : ∀ p ∈ vs, p ∈ g.gap := fun p hp => by simp [hgap, hp]
    have hlines := @Comment.lines_ofPieces_append (l.shebang ++ textOf l.directives) vs us
      (textOf g.sentence.pieces ++ (textOf (Segment.row gs ++ l.gap) ++ textOf l.code))
      (fun p hp => hstands p (List.mem_append_left _ (hmem p hp))) (fun p hp => hggap p (hmem p hp))
    rw [← hgap, List.length_append, ← floor] at hlines
    rw [hleading, hsource]
    simpa only [List.append_assoc] using hlines
  have hbefore : ∀ c ∈ Comment.ofPieces l.floor g.gap,
      c.start ≤ (l.shebang ++ (textOf l.directives ++ textOf g.gap)).length := by
    intro c hc
    rw [hlen]
    exact Nat.le_of_lt (Comment.mem_ofPieces_lt
      (fun p hp => (hstands p (List.mem_append_left _ hp)).text_ne_nil) hc).2
  have hall := @mapIdx_attachedFrom d _ _ _ _ _ _ _ _ _ _ _ 0 hsource hcomments hs hgs
    (fun p hp => hstands p (List.mem_append_right _ hp)) hbefore hlead
  rw [hlen] at hall
  rw [Head.statements, attached_head h hsegments]
  exact hall

/-! ## The region -/

/-- The last of attached segments ends where they end, with the comments on its line. -/
theorem getLast?_attachedFrom {offset : Nat} {decl : ImportDecl} {leading : List Comment}
    {gs : List Segment} {gap : List Piece} (hstop : decl.span.stop = offset) :
    ∃ a, (attachedFrom offset decl leading gs gap).getLast? = some a ∧
      a.decl.span.stop = offset + (textOf (Segment.row gs)).length ∧
      a.trailing =
        Comment.ofPieces (offset + (textOf (Segment.row gs)).length) (sameLine gap) := by
  induction gs generalizing offset decl leading with
  | nil => exact ⟨_, rfl, by simp [hstop], by simp⟩
  | cons g gs ih =>
    obtain ⟨a, ha, hdecl, htrailing⟩ := @ih
      (offset + (textOf g.gap).length + (textOf g.sentence.pieces).length)
      (g.sentence.decl (offset + (textOf g.gap).length))
      (Comment.ofPieces (offset + (textOf (sameLine g.gap)).length) (below g.gap)) rfl
    refine ⟨a, ?_, ?_, ?_⟩
    · rw [attachedFrom, List.getLast?_cons, ha]
      rfl
    · rw [hdecl]
      simp [Nat.add_assoc]
    · rw [htrailing]
      simp [Nat.add_assoc]

/-- The pieces of a line up to the last comment, and the others. -/
theorem exists_trailing (ps : List Piece) :
    ∃ tr rs, ps = tr ++ rs ∧ (∀ p ∈ rs, p.isComment = false) ∧
      (∀ p ∈ tr.getLast?, p.isComment = true) ∧
      ∀ offset, ((Comment.ofPieces offset ps).getLast?.map Comment.stop).getD offset =
        offset + (textOf tr).length := by
  induction ps using Piece.comment_induction with
  | blank bs hbs => exact ⟨[], bs, rfl, hbs, by simp, by simp [Comment.ofPieces_blank hbs]⟩
  | comment bs c ps hbs hc _ =>
    obtain ⟨core, bs', hrow, hcore, hbs'⟩ := Piece.exists_stretch_cons hc ps
    obtain ⟨qs, q, hq, hqc⟩ := hcore.last
    refine ⟨bs ++ core, bs', by rw [hrow, List.append_assoc], hbs', ?_, ?_⟩
    · intro p hp
      obtain rfl : q = p := by simpa [hq, ← List.append_assoc] using hp
      exact hqc
    · intro offset
      obtain ⟨e, he, hstop⟩ :=
        Comment.getLast?_ofPieces_of_isStretch hcore (offset + (textOf bs).length)
      rw [hrow, Comment.ofPieces_append, Comment.ofPieces_blank hbs, Comment.ofPieces_append,
        Comment.ofPieces_blank hbs', List.append_nil, List.nil_append, he]
      simp [hstop, Nat.add_assoc]

/-- **The region of a head**: from the leading comments of the first declaration to the trailing
ones of the last. -/
theorem region_head (h : l.IsValid d) {g : Segment} {gs : List Segment}
    (hsegments : l.segments = g :: gs) {gap : Nat} {us vs tr : List Piece}
    (hgap : g.gap = us ++ vs)
    (hleading : (l.head d).firstLeading gap (l.floor + (textOf g.gap).length) =
      Comment.ofPieces (l.floor + (textOf us).length) vs)
    (hvs : ∀ p ∈ vs.head?, p.isComment = true)
    (hstop : ∀ offset, ((Comment.ofPieces offset (sameLine l.gap)).getLast?.map
      Comment.stop).getD offset = offset + (textOf tr).length) :
    (l.head d).region gap = some ⟨l.floor + (textOf us).length,
      l.floor + (textOf (Segment.row l.segments)).length + (textOf tr).length⟩ := by
  obtain ⟨a, ha, hdecl, htrailing⟩ := @getLast?_attachedFrom
    (l.floor + (textOf g.gap).length + (textOf g.sentence.pieces).length)
    (g.sentence.decl (l.floor + (textOf g.gap).length))
    (Comment.ofPieces (l.floor + (textOf us).length) vs) gs l.gap rfl
  have hfirst : ∃ b, (attachedFrom
      (l.floor + (textOf g.gap).length + (textOf g.sentence.pieces).length)
      (g.sentence.decl (l.floor + (textOf g.gap).length))
      (Comment.ofPieces (l.floor + (textOf us).length) vs) gs l.gap).head? = some b ∧
      b.start = l.floor + (textOf us).length := by
    have hstart : ((Comment.ofPieces (l.floor + (textOf us).length) vs).head?.map
        Comment.start).getD (l.floor + (textOf g.gap).length) =
          l.floor + (textOf us).length := by
      cases vs with
      | nil => simp [hgap]
      | cons v vs =>
        have hv : v.kind.isComment = true := hvs v rfl
        simp [Comment.ofPieces, hv]
    cases gs <;> exact ⟨_, rfl, hstart⟩
  obtain ⟨b, hb, hbstart⟩ := hfirst
  have hastop : a.stop =
      l.floor + (textOf (Segment.row l.segments)).length + (textOf tr).length := by
    rw [Attached.stop, htrailing, hdecl, hstop, hsegments]
    simp [Nat.add_assoc]
  rw [Head.region, attached_head h hsegments, hleading, hb, ha]
  simp only [hbstart, hastop]

end Layout

end ImportOrder
