import ImportOrder.Proofs.Render.Arranged

/-!
# Written regions

The statements of all groups are written one after another, each with its leading comments on lines
above it and its trailing comment behind it. So a written region is a row of segments: the gap
before a sentence holds the trailing comment of the one before, line breaks, and leading comments.

## Main definitions

* `IsLead`, `IsTrail`: the pieces of leading and trailing comments
* `Rendered`: a written statement with its comments as pieces
* `Rendered.segments`, `Rendered.lastTrail`: written statements in a row

## Main results

* `exists_rendered`: what is written for groups of statements
* `Rendered.chained_row`, `Rendered.areValid_segments`: the row is cut and read as laid out
-/

namespace ImportOrder

open Grammar Piece

/-! ## Comments around a statement -/

/-- The pieces of comments on lines above a statement. -/
inductive IsLead (eol : Eol) : List Text → List Piece → Prop
  | nil : IsLead eol [] []
  | cons {core : List Piece} {lines : List Text} {ps : List Piece} (hcore : IsStretch core)
      (hgap : ∀ p ∈ core, p.isGap = true ∧ p.isBreak = false) (hchain : Chained core none)
      (h : IsLead eol lines ps) : IsLead eol (textOf core :: lines) (core ++ ofEol eol :: ps)

/-- The pieces of a comment behind a statement. -/
inductive IsTrail : Option Text → List Piece → Prop
  | absent : IsTrail none []
  | present {core : List Piece} (hcore : IsStretch core)
      (hgap : ∀ p ∈ core, p.isGap = true ∧ p.isBreak = false) (hchain : Chained core none) :
      IsTrail (some (textOf core)) (⟨.space, [' ']⟩ :: core)

namespace Piece

@[simp] theorem isGap_ofEol (eol : Eol) : (ofEol eol).isGap = true := rfl

@[simp] theorem isComment_ofEol (eol : Eol) : (ofEol eol).isComment = false := rfl

@[simp] theorem isBreak_ofEol (eol : Eol) : (ofEol eol).isBreak = true := rfl

@[simp] theorem endsLine_ofEol (eol : Eol) : (ofEol eol).endsLine = true := rfl

theorem endsBefore_terminator {p : Piece} (h : p.isComment = true) {c : Char}
    (hc : isLineTerminator c = true) : p.endsBefore (some c) = true := by
  obtain ⟨kind, text⟩ := p
  cases kind <;> simp_all [isComment, PieceKind.isComment, endsBefore]

theorem IsStretch.getLast? {ps : List Piece} (h : IsStretch ps) :
    ∀ p ∈ ps.getLast?, p.isComment = true := by
  obtain ⟨qs, q, rfl, hq⟩ := h.last
  intro p hp
  obtain rfl : q = p := by simpa using hp
  exact hq

/-- A line of comments ends before a line ending. -/
theorem IsStretch.chained_eol {ps : List Piece} (h : IsStretch ps) (hchain : Chained ps none)
    (eol : Eol) : Chained ps eol.text.head? := by
  refine hchain.before ?_
  intro p hp
  cases eol
  · exact endsBefore_terminator (h.getLast? p hp) rfl
  · exact endsBefore_terminator (h.getLast? p hp) rfl

theorem head?_textOf_ofEol (eol : Eol) (ps : List Piece) (next : Option Char) :
    (textOf (ofEol eol :: ps)).head?.or next = eol.text.head? := by
  cases eol <;> rfl

end Piece

namespace IsLead

variable {eol : Eol} {lines : List Text} {ps : List Piece}

theorem isGap (h : IsLead eol lines ps) : ∀ p ∈ ps, p.isGap = true := by
  induction h with
  | nil => simp
  | cons hcore hgap hchain _ ih =>
    intro p hp
    rcases List.mem_append.1 hp with hp | hp
    · exact (hgap p hp).1
    · rcases List.mem_cons.1 hp with rfl | hp
      · exact isGap_ofEol eol
      · exact ih p hp

/-- The lines of leading comments are found again. -/
theorem lines_eq (h : IsLead eol lines ps) : Piece.lines ps = lines := by
  induction h with
  | nil => rfl
  | @cons core lines ps hcore hgap hchain _ ih =>
    have hsplit : splitLines (core ++ ofEol eol :: ps) = core :: splitLines ps := by
      have heol : splitLines (ofEol eol :: ps) = [] :: splitLines ps := by simp [splitLines]
      simpa using splitLines_append (fun p hp => (hgap p hp).2) heol
    have hstretch : Piece.stretch? core = some (textOf core) := by
      simpa using @stretch?_eq_some [] core [] (by simp) hcore (by simp)
    rw [Piece.lines, hsplit, List.filterMap_cons, hstretch]
    exact congrArg _ ih

theorem chained (h : IsLead eol lines ps) (next : Option Char) : Chained ps next := by
  induction h with
  | nil => trivial
  | @cons core lines ps hcore hgap hchain _ ih =>
    rw [chained_append, head?_textOf_ofEol]
    exact ⟨hcore.chained_eol hchain eol, by simp [ofEol], standsBefore_ofEol eol,
      endsBefore_ofEol eol _, ih⟩

theorem textOf_eq (h : IsLead eol lines ps) :
    textOf ps = lines.flatMap fun line => line ++ eol.text := by
  induction h with
  | nil => rfl
  | cons hcore hgap hchain _ ih => simp [ih, ofEol]

theorem head? (h : IsLead eol lines ps) : ∀ p ∈ ps.head?, p.isComment = true := by
  cases h with
  | nil => simp
  | cons hcore hgap hchain _ =>
    obtain ⟨q, qs, rfl, hq⟩ := hcore.first
    intro p hp
    obtain rfl : q = p := by simpa using hp
    exact hq

end IsLead

/-- Leading comments have pieces, with any line endings. -/
theorem exists_isLead {lines : List Text} (h : ∀ line ∈ lines, IsCommentLine line) (eol : Eol) :
    ∃ ps, IsLead eol lines ps := by
  induction lines with
  | nil => exact ⟨[], .nil⟩
  | cons line lines ih =>
    obtain ⟨core, rfl, hcore, hgap, hchain⟩ := h line (by simp)
    obtain ⟨ps, hps⟩ := ih fun line hline => h line (by simp [hline])
    exact ⟨_, .cons hcore hgap hchain hps⟩

namespace IsTrail

variable {t : Option Text} {ps : List Piece}

theorem isGap (h : IsTrail t ps) : ∀ p ∈ ps, p.isGap = true ∧ p.isBreak = false := by
  cases h with
  | absent => simp
  | present hcore hgap hchain =>
    intro p hp
    rcases List.mem_cons.1 hp with rfl | hp
    · exact ⟨rfl, rfl⟩
    · exact hgap p hp

theorem stretch?_eq (h : IsTrail t ps) : Piece.stretch? ps = t := by
  cases h with
  | absent => rfl
  | @present core hcore hgap hchain =>
    simpa using @stretch?_eq_some [⟨.space, [' ']⟩] core []
      (by simp [isComment, PieceKind.isComment]) hcore (by simp)

theorem chained (h : IsTrail t ps) : Chained ps none := by
  cases h with
  | absent => trivial
  | present hcore hgap hchain =>
    obtain ⟨p, qs, rfl, hp⟩ := hcore.first
    refine ⟨by simp, rfl, ?_, hchain⟩
    obtain ⟨-, hs, -⟩ := hchain
    have hshape := hs.shape
    cases hshape <;> simp [isComment, PieceKind.isComment] at hp <;> rfl

theorem getLast? (h : IsTrail t ps) : ∀ p ∈ ps.getLast?, p.isComment = true := by
  cases h with
  | absent => simp
  | present hcore hgap hchain =>
    intro p hp
    obtain ⟨qs, q, rfl, hq⟩ := hcore.last
    obtain rfl : q = p := by simpa [List.getLast?_cons] using hp
    exact hq

end IsTrail

theorem exists_isTrail {t : Option Text} (h : ∀ u ∈ t, IsCommentLine u) : ∃ ps, IsTrail t ps := by
  cases t with
  | none => exact ⟨[], .absent⟩
  | some u =>
    obtain ⟨core, rfl, hcore, hgap, hchain⟩ := h u rfl
    exact ⟨_, .present hcore hgap hchain⟩

/-! ## Written statements in a row -/

/-- **A written statement with its comments** as pieces. -/
structure Rendered where
  lead : List Piece
  sentence : Sentence
  trail : List Piece

namespace Rendered

/-- The pieces of a written statement are those of its comments and of a sentence. -/
structure IsFor (eol : Eol) (lines : List Text) (trailing : Option Text) (r : Rendered) : Prop where
  lead : IsLead eol lines r.lead
  chained : ∀ next, Chained r.sentence.pieces next
  opens : ∃ ps, r.sentence.clause = Statement.importPiece :: ps
  trail : IsTrail trailing r.trail

/-- The text of a written statement. -/
def text (r : Rendered) : Text := textOf r.lead ++ (textOf r.sentence.pieces ++ textOf r.trail)

/-- The segments of written statements, each after a number of line endings; `trail` is behind the
statement before them. -/
def segments (eol : Eol) : (trail : List Piece) → List (Nat × Rendered) → List Segment
  | _, [] => []
  | trail, (k, r) :: rs =>
    ⟨trail ++ (List.replicate k (ofEol eol) ++ r.lead), r.sentence⟩ :: segments eol r.trail rs

/-- What is behind the last of written statements. -/
def lastTrail : (trail : List Piece) → List (Nat × Rendered) → List Piece
  | trail, [] => trail
  | _, (_, r) :: rs => lastTrail r.trail rs

variable {eol : Eol}

@[simp] theorem textOf_replicate_ofEol (k : Nat) :
    textOf (List.replicate k (ofEol eol)) = eol.text.times k := by
  induction k with
  | zero => rfl
  | succ k ih =>
    rw [List.replicate_succ, textOf_cons, ih, Text.times, Text.times, List.replicate_succ]
    rfl

/-- The text of written statements in a row. -/
theorem textOf_segments (trail : List Piece) (rs : List (Nat × Rendered)) :
    textOf (Segment.row (segments eol trail rs) ++ lastTrail trail rs) =
      textOf trail ++ rs.flatMap fun r => eol.text.times r.1 ++ r.2.text := by
  induction rs generalizing trail with
  | nil => simp [segments, lastTrail]
  | cons r rs ih =>
    have hrest := ih r.2.trail
    rw [textOf_append] at hrest
    simp only [segments, lastTrail, Segment.row_cons, textOf_append, textOf_replicate_ofEol,
      List.append_assoc, hrest, List.flatMap_cons, text]

/-- Whether every statement in a row has its comments and a sentence. -/
def AreFor (eol : Eol) (rs : List (Nat × Rendered)) : Prop :=
  ∀ r ∈ rs, ∃ lines trailing, r.2.IsFor eol lines trailing

theorem head?_replicate_append {k : Nat} (hk : 1 ≤ k) (ps : List Piece) (next : Option Char) :
    (textOf (List.replicate k (ofEol eol) ++ ps)).head?.or next = eol.text.head? := by
  obtain ⟨k, rfl⟩ := Nat.exists_eq_add_of_le' hk
  rw [List.replicate_succ, List.cons_append]
  exact head?_textOf_ofEol eol _ next

theorem chained_replicate (k : Nat) (next : Option Char) :
    Chained (List.replicate k (ofEol eol)) next := by
  induction k with
  | zero => trivial
  | succ k ih => exact ⟨by simp [ofEol], standsBefore_ofEol eol, endsBefore_ofEol eol _, ih⟩

/-- Written statements in a row are cut as they are laid out, whatever follows them. -/
theorem chained_row {trail : List Piece} {t : Option Text} (htrail : IsTrail t trail)
    {rs : List (Nat × Rendered)} (hrs : AreFor eol rs) (hk : ∀ r ∈ rs, 1 ≤ r.1)
    (next : Option Char) : Chained (Segment.row (segments eol trail rs)) next := by
  induction rs generalizing trail t with
  | nil => trivial
  | cons r rs ih =>
    obtain ⟨lines, trailing, hr⟩ := hrs r (by simp)
    have hrest := ih hr.trail (fun q hq => hrs q (by simp [hq])) fun q hq => hk q (by simp [hq])
    have htrail : Chained trail eol.text.head? := by
      refine htrail.chained.before ?_
      intro p hp
      cases eol
      · exact endsBefore_terminator (htrail.getLast? p hp) rfl
      · exact endsBefore_terminator (htrail.getLast? p hp) rfl
    simp only [segments, Segment.row_cons, List.append_assoc]
    rw [chained_append, head?_replicate_append (hk r (by simp)), chained_append, chained_append,
      chained_append]
    exact ⟨htrail, chained_replicate _ _, hr.lead.chained _, hr.chained _, hrest⟩

theorem exists_isTrail_lastTrail {trail : List Piece} {t : Option Text} (htrail : IsTrail t trail)
    {rs : List (Nat × Rendered)} (hrs : AreFor eol rs) : ∃ t, IsTrail t (lastTrail trail rs) := by
  induction rs generalizing trail t with
  | nil => exact ⟨t, htrail⟩
  | cons r rs ih =>
    obtain ⟨lines, trailing, hr⟩ := hrs r (by simp)
    exact ih hr.trail fun q hq => hrs q (by simp [hq])

variable {d : Dialect}

theorem isGap_of_mem_gap {trail : List Piece} (htrail : ∀ p ∈ trail, p.isGap = true) {r : Rendered}
    {lines : List Text} {trailing : Option Text} (hr : r.IsFor eol lines trailing) (k : Nat) :
    ∀ p ∈ trail ++ (List.replicate k (ofEol eol) ++ r.lead), p.isGap = true := by
  intro p hp
  rcases List.mem_append.1 hp with hp | hp
  · exact htrail p hp
  rcases List.mem_append.1 hp with hp | hp
  · rw [List.eq_of_mem_replicate hp]
    rfl
  · exact hr.lead.isGap p hp

/-- What follows a statement in a row starts on another line. -/
theorem startsLine_segments {trail : List Piece} (htrail : ∀ p ∈ trail, p.isGap = true)
    {rs : List (Nat × Rendered)} (hrs : AreFor eol rs) (hk : ∀ r ∈ rs, 1 ≤ r.1)
    {tail : List Piece} (hlast : rs = [] → Parser.StartsLine (Token.ofPieces 0 false tail)) :
    Parser.StartsLine
      (Token.ofPieces 0 false (Segment.row (segments eol trail rs) ++ tail)) := by
  cases rs with
  | nil => exact hlast rfl
  | cons r rs =>
    obtain ⟨lines, trailing, hr⟩ := hrs r (by simp)
    obtain ⟨ps, hps⟩ := hr.opens
    have hmem : ofEol eol ∈ trail ++ (List.replicate r.1 (ofEol eol) ++ r.2.lead) := by
      obtain ⟨k, hk⟩ := Nat.exists_eq_add_of_le' (hk r (by simp))
      simp [hk, List.replicate_succ]
    intro u hu
    rw [segments, Segment.row_cons, List.append_assoc, Sentence.pieces, hps] at hu
    simp only [List.cons_append] at hu
    rw [Token.ofPieces_gap_cons (isGap_of_mem_gap htrail hr r.1) rfl] at hu
    obtain rfl := Option.some.inj hu
    refine ⟨?_, by simp [Token.word, Word.punct]⟩
    rw [Bool.false_or]
    exact List.any_eq_true.2 ⟨_, hmem, endsLine_ofEol eol⟩

/-- A written statement starts with a comment or the word `import`. -/
theorem IsFor.head?_text {lines : List Text} {trailing : Option Text} {r : Rendered}
    (h : r.IsFor eol lines trailing) (rest : Text) :
    ∃ c, (r.text ++ rest).head? = some c ∧ (c = '/' ∨ c = 'i') := by
  obtain ⟨ps, hps⟩ := h.opens
  cases hlead : r.lead with
  | nil =>
    refine ⟨'i', ?_, .inr rfl⟩
    rw [text, hlead, Sentence.pieces, hps]
    rfl
  | cons p lead =>
    have hp := h.lead.head? p (by simp [hlead])
    have hstands := (h.lead.chained none).standsBefore p (by simp [hlead])
    refine ⟨'/', ?_, .inl rfl⟩
    rw [text, hlead, textOf_cons, List.append_assoc, List.append_assoc, List.head?_append,
      head?_of_isComment hp hstands]
    rfl

/-- Written statements in a row are segments of the grammar. -/
theorem areValid_segments {trail : List Piece} (htrail : ∀ p ∈ trail, p.isGap = true)
    {rs : List (Nat × Rendered)} (hrs : AreFor eol rs) (hk : ∀ r ∈ rs.tail, 1 ≤ r.1)
    (hvalid : ∀ r ∈ rs, r.2.sentence.IsValid d) {tail : List Piece}
    (hlast : ∀ r ∈ rs.getLast?, r.2.sentence.semicolon = none →
      Parser.StartsLine (Token.ofPieces 0 false tail)) :
    Segment.AreValid d (segments eol trail rs) tail := by
  induction rs generalizing trail with
  | nil => trivial
  | cons r rs ih =>
    obtain ⟨lines, trailing, hr⟩ := hrs r (by simp)
    have htail : AreFor eol rs := fun q hq => hrs q (by simp [hq])
    have hgap : ∀ p ∈ r.2.trail, p.isGap = true := fun p hp => (hr.trail.isGap p hp).1
    refine ⟨isGap_of_mem_gap htrail hr r.1, hvalid r (by simp), ?_, ?_⟩
    · intro hnone
      refine startsLine_segments hgap htail hk ?_
      rintro rfl
      exact hlast r (by simp) hnone
    · refine ih hgap htail (fun q hq => hk q (List.mem_of_mem_tail hq))
        (fun q hq => hvalid q (by simp [hq])) ?_
      intro q hq
      exact hlast q (by rw [List.getLast?_cons, Option.mem_def.1 hq]; rfl)

end Rendered

/-! ## Groups of statements -/

/-- The items of groups, each with a number: `n` for the first of a group, 1 for the others. -/
def placed {α : Type} (n : Nat) : List (List α) → List (Nat × α)
  | [] => []
  | [] :: gs => placed n gs
  | (a :: as) :: gs => (n, a) :: (as.map (1, ·) ++ placed n gs)

theorem map_snd_placed {α : Type} (n : Nat) (gs : List (List α)) :
    (placed n gs).map (·.2) = gs.flatten := by
  fun_induction placed n gs with
  | case1 => rfl
  | case2 gs ih => simpa using ih
  | case3 a as gs ih => simp [ih, Function.comp_def]

theorem map_placed {α β : Type} (f : α → β) (n : Nat) (gs : List (List α)) :
    placed n (gs.map (List.map f)) = (placed n gs).map fun a => (a.1, f a.2) := by
  fun_induction placed n gs with
  | case1 => rfl
  | case2 gs ih => simpa [placed] using ih
  | case3 a as gs ih => simp [placed, ih]

theorem one_le_of_mem_placed {α : Type} {n : Nat} (hn : 1 ≤ n) {gs : List (List α)} :
    ∀ a ∈ placed n gs, 1 ≤ a.1 := by
  fun_induction placed n gs with
  | case1 => simp
  | case2 gs ih => exact ih
  | case3 a as gs ih =>
    intro b hb
    rcases List.mem_cons.1 hb with rfl | hb
    · exact hn
    rcases List.mem_append.1 hb with hb | hb
    · obtain ⟨c, -, rfl⟩ := List.mem_map.1 hb
      exact Nat.le_refl 1
    · exact ih b hb

theorem Text.join_cons (sep t : Text) (ts : List Text) :
    Text.join sep (t :: ts) = t ++ ts.flatMap (sep ++ ·) := by
  induction ts generalizing t with
  | nil => simp
  | cons u ts ih =>
    rw [Text.join_cons_cons, ih, List.flatMap_cons, List.append_assoc, List.append_assoc]

theorem Text.times_one (t : Text) : Text.times t 1 = t := by simp [Text.times]

/-- The blocks of groups, with `n` line endings before each group and one before other blocks. -/
theorem flatMap_placed (eol : Eol) (n : Nat) {bss : List (List Text)} (hne : ∀ bs ∈ bss, bs ≠ []) :
    (placed n bss).flatMap (fun b => eol.text.times b.1 ++ b.2) =
      (bss.map (Text.join eol.text)).flatMap (eol.text.times n ++ ·) := by
  fun_induction placed n bss with
  | case1 => rfl
  | case2 bss ih => exact absurd rfl (hne [] (by simp))
  | case3 b bs bss ih =>
    rw [List.flatMap_cons, List.flatMap_append, ih fun bs hbs => hne bs (by simp [hbs]),
      List.map_cons, List.flatMap_cons, Text.join_cons]
    simp [List.flatMap_map, Text.times_one]

theorem Text.join_flatten (sep : Text) {tss : List (List Text)} (hne : ∀ ts ∈ tss, ts ≠ []) :
    Text.join sep tss.flatten = Text.join sep (tss.map (Text.join sep)) := by
  have hflat : ∀ {uss : List (List Text)}, (∀ us ∈ uss, us ≠ []) →
      uss.flatten.flatMap (sep ++ ·) = (uss.map (Text.join sep)).flatMap (sep ++ ·) := by
    intro uss huss
    induction uss with
    | nil => rfl
    | cons us uss ih =>
      obtain ⟨u, us, rfl⟩ := List.exists_cons_of_ne_nil (huss us (by simp))
      rw [List.flatten_cons, List.flatMap_append, ih fun vs hvs => huss vs (by simp [hvs]),
        List.map_cons, List.flatMap_cons, List.flatMap_cons, Text.join_cons]
      simp only [List.append_assoc]
  cases tss with
  | nil => rfl
  | cons ts tss =>
    obtain ⟨u, us, rfl⟩ := List.exists_cons_of_ne_nil (hne ts (by simp))
    rw [List.flatten_cons, List.cons_append, Text.join_cons, List.flatMap_append,
      hflat fun vs hvs => hne vs (by simp [hvs]), List.map_cons, Text.join_cons, Text.join_cons,
      List.append_assoc]

section Choice

variable {α β γ δ : Type}

/-- A partner for each item of a list. -/
theorem exists_forall₂ {R : α → β → Prop} {P : α → γ → Prop} {f : γ → δ} {g : β → δ}
    {xs : List α} {ys : List β} (h : List.Forall₂ R xs ys)
    (hex : ∀ x ∈ xs, ∀ y, R x y → ∃ z, P x z ∧ f z = g y) :
    ∃ zs, List.Forall₂ P xs zs ∧ zs.map f = ys.map g := by
  induction h with
  | nil => exact ⟨[], .nil, rfl⟩
  | @cons x y xs ys hxy _ ih =>
    obtain ⟨z, hz, hfz⟩ := hex x (by simp) y hxy
    obtain ⟨zs, hzs, hmap⟩ := ih fun x hx => hex x (by simp [hx])
    exact ⟨z :: zs, .cons hz hzs, by simp [hfz, hmap]⟩

end Choice

section Region

variable {s : Settings} {eol : Eol} {groups : List (List Statement)} {t : Text}

theorem ne_nil_of_renderLines [Platform] {st : Statement} {ls : List Text}
    (h : Statement.renderLines s eol st = .ok ls) : ls ≠ [] := by
  obtain ⟨text, -, hret⟩ := Parser.ok_of_bind h
  obtain rfl := Except.ok.inj hret
  simp

theorem exists_lines [Platform] (h : renderRegion s eol groups = .ok t) :
    ∃ lsss, List.Forall₂ (List.Forall₂ fun st ls => Statement.renderLines s eol st = .ok ls)
        groups lsss ∧
      t = Text.join (eol.text.times s.breaks)
        ((lsss.map (List.map (Text.join eol.text))).map (Text.join eol.text)) := by
  obtain ⟨blocks, hblocks, hrest⟩ := Parser.ok_of_bind h
  obtain ⟨u, hcheck, hret⟩ := Parser.ok_of_bind hrest
  obtain rfl := Except.ok.inj hret
  obtain ⟨lsss, hlsss, hmap⟩ := exists_forall₂
    (P := List.Forall₂ fun st ls => Statement.renderLines s eol st = .ok ls)
    (f := fun lss : List (List Text) => Text.join eol.text (lss.map (Text.join eol.text)))
    (g := Text.join eol.text) (forall₂_of_mapM hblocks) (by
      intro group _ block hblock
      obtain ⟨lss, hlss, hret⟩ := Parser.ok_of_bind hblock
      obtain rfl := Except.ok.inj hret
      have hlss := forall₂_of_mapM hlss
      refine ⟨lss, hlss, (Text.join_flatten _ ?_).symm⟩
      intro ls hls
      obtain ⟨st, -, hst⟩ := exists_mem_of_forall₂ hlss hls
      exact ne_nil_of_renderLines hst)
  refine ⟨lsss, hlsss, ?_⟩
  rw [joinBlocks_eq_join, ← hmap, List.map_map]
  rfl

/-- What is written for groups of statements is a row of written statements. -/
theorem exists_rendered [Platform] {P : Statement → Rendered → Prop}
    (hP : ∀ st ∈ groups.flatten, ∀ ls, Statement.renderLines s eol st = .ok ls →
      ∃ r, P st r ∧ r.text = Text.join eol.text ls)
    (hgroups : ∀ group ∈ groups, group ≠ []) (hne : groups ≠ [])
    (hlines : 0 ≤ s.emptyLinesBetweenGroups) (h : renderRegion s eol groups = .ok t) :
    ∃ r, ∃ rs : List (Nat × Rendered),
      t = r.text ++ rs.flatMap (fun q => eol.text.times q.1 ++ q.2.text) ∧
      (∀ q ∈ rs, 1 ≤ q.1) ∧ List.Forall₂ P groups.flatten (r :: rs.map (·.2)) := by
  obtain ⟨lsss, hlsss, rfl⟩ := exists_lines h
  obtain ⟨rss, hrss, hmap⟩ := exists_forall₂ (P := List.Forall₂ P) (f := List.map Rendered.text)
    (g := List.map (Text.join eol.text)) hlsss (by
      intro group hgroup lss hlss
      refine exists_forall₂ hlss ?_
      intro st hst ls hls
      exact hP st (List.mem_flatten.2 ⟨group, hgroup, hst⟩) ls hls)
  rw [← hmap]
  generalize hn : s.breaks = n
  have hpos : 1 ≤ n := by
    rw [← hn, Settings.breaks]
    omega
  -- No group is empty, so that each has a first statement to put its line endings before.
  have hnonempty : ∀ bs ∈ rss.map (List.map Rendered.text), bs ≠ [] := by
    intro bs hbs
    obtain ⟨rs, hrs, rfl⟩ := List.mem_map.1 hbs
    obtain ⟨group, hgroup, hall⟩ := exists_mem_of_forall₂ hrss hrs
    rintro hnil
    obtain rfl := List.map_eq_nil_iff.1 hnil
    cases hall
    exact hgroups [] hgroup rfl
  have hplaced := flatMap_placed eol n hnonempty
  rw [map_placed, List.flatMap_map] at hplaced
  have hflat : List.Forall₂ P groups.flatten rss.flatten := List.rel_flatten hrss
  cases hrss with
  | nil => exact absurd rfl hne
  | @cons group rs groups rss hgroup hrest =>
    cases hgroup with
    | nil => exact absurd rfl (hgroups [] (by simp))
    | @cons st r sts rs hst hsts =>
      have hle := @one_le_of_mem_placed Rendered n hpos ((r :: rs) :: rss)
      refine ⟨r, rs.map (1, ·) ++ placed n rss, ?_, ?_, ?_⟩
      · simp only [placed, List.flatMap_cons, List.map_cons] at hplaced
        rw [List.append_assoc, List.append_assoc] at hplaced
        have hcancel := List.append_cancel_left hplaced
        rw [List.map_cons, List.map_cons, List.map_cons, Text.join_cons]
        exact hcancel.symm
      · intro q hq
        exact hle q (List.mem_cons_of_mem _ hq)
      · have hsnd := map_snd_placed n ((r :: rs) :: rss)
        rw [← hsnd] at hflat
        exact hflat

/-- The lines of a statement are its leading comments, its sentence and its trailing comment. -/
theorem exists_comments [Platform] {d : Dialect} {st : Statement} (h : st.WellFormed d)
    {x : Sentence} {ls : List Text} (hx : st.render s eol = .ok (textOf x.pieces))
    (hls : st.renderLines s eol = .ok ls) :
    ∃ lead trail, IsLead eol (st.leadingComments.map (Text.withEol eol)) lead ∧
      IsTrail (st.trailingComment.map (Text.withEol eol)) trail ∧
      (⟨lead, x, trail⟩ : Rendered).text = Text.join eol.text ls := by
  have hlines : ∀ line ∈ st.leadingComments.map (Text.withEol eol), IsCommentLine line := by
    intro line hline
    obtain ⟨u, hu, rfl⟩ := List.mem_map.1 hline
    exact (h.leading u hu).withEol eol
  obtain ⟨lead, hlead⟩ := exists_isLead hlines eol
  have htrailing : ∀ u ∈ st.trailingComment.map (Text.withEol eol), IsCommentLine u := by
    intro u hu
    obtain ⟨v, hv, rfl⟩ := Option.map_eq_some_iff.1 hu
    exact (h.trailing v hv).withEol eol
  obtain ⟨trail, htrail⟩ := exists_isTrail htrailing
  refine ⟨lead, trail, hlead, htrail, ?_⟩
  simp only [Statement.renderLines, hx] at hls
  obtain rfl := Except.ok.inj hls
  rw [Text.join_concat, Rendered.text, hlead.textOf_eq]
  apply congrArg fun t => _ ++ (textOf x.pieces ++ t)
  generalize hu : st.trailingComment.map (Text.withEol eol) = u at htrail
  cases htrail with
  | absent =>
    rw [Option.map_eq_none_iff.1 hu]
    rfl
  | @present core hcore hgap hchain =>
    obtain ⟨v, hv, hcoreText⟩ := Option.map_eq_some_iff.1 hu
    rw [hv]
    cases v with
    | nil =>
      obtain ⟨p, qs, rfl, -⟩ := hcore.first
      obtain ⟨-, hs, -⟩ := hchain
      have hnil : p.text ++ textOf qs = [] := hcoreText.symm
      exact absurd (List.append_eq_nil_iff.1 hnil).1 hs.text_ne_nil
    | cons c v =>
      rw [textOf_cons, ← hcoreText]
      rfl

end Region

end ImportOrder
