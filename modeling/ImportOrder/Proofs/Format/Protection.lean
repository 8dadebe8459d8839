import ImportOrder.Platform.Usual
import ImportOrder.Proofs.Format.Pass
import ImportOrder.Proofs.Source.LineNumbers

/-!
# Imports that comments protect

A lint directive protects the line after it, its own line, or all lines up to a directive that
enables the rule again. Lines here end at any line break. Formatting numbers lines by their line
feeds, and looks at the comments before the code only. So a comment that protects an import keeps
formatting away from it unless it stands behind code, or is about the next line and is divided from
the import by a line break that is no line feed.

## Main definitions

* `Comment.Protects`: whether a comment protects a line
* `Head.Shields`: whether formatting takes an import for protected by a comment

## Main results

* `Suppressions.rangesFrom_cons`: what one comment does
* `Suppressions.covers_find_of_protects`: protected lines are left alone
* `FormatContext.format_of_protects`: when imports that comments protect are left alone
-/

namespace ImportOrder

open Piece (textOf)

namespace Comment

/-- Whether a comment protects a line: `number` gives the line of an offset, and `later` are the
comments behind it. -/
def Protects (number : Nat → Nat) (later : List Comment) (line : Nat) (k : Comment) : Prop :=
  match k.sortAction? with
  | some .disableLine => line = number k.start
  | some .disableNextLine => line = number k.stop + 1
  | some .disable => number k.start ≤ line ∧
      ∀ e ∈ later.find? (·.sortAction? = some .enable), line ≤ number e.stop
  | some .enable | none => False

end Comment

/-! ## Ranges of lines, comment by comment -/

namespace Suppressions

/-- The action of a comment; a switch for the whole file has none. -/
def action? (c : Comment) : Option LintAction :=
  if c.text.hasFileSwitch then none else c.sortAction?

/-- The ranges that end with a comment, where a disabled stretch began at line `since`. -/
def closed (source : Text) (since : Option Int) (c : Comment) : List LineRange :=
  match action? c with
  | some .disableLine => [⟨source.lineAt c.start, source.lineAt c.start⟩]
  | some .disableNextLine => [⟨source.lineAt c.stop + 1, source.lineAt c.stop + 1⟩]
  | some .enable => since.toList.map fun line => ⟨line, source.lineAt c.stop⟩
  | _ => []

/-- The line where a disabled stretch began, behind a comment. -/
def opened (source : Text) (since : Option Int) (c : Comment) : Option Int :=
  match action? c with
  | some .disable => since.or (some (source.lineAt c.start))
  | some .enable => none
  | _ => since

/-- **One comment** ends ranges and opens or closes a stretch. -/
theorem rangesFrom_cons (source : Text) (since : Option Int) (c : Comment) (cs : List Comment) :
    rangesFrom source since (c :: cs) =
      closed source since c ++ rangesFrom source (opened source since c) cs := by
  rw [closed, opened, action?]
  cases hswitch : c.text.hasFileSwitch with
  | true => cases since <;> rw [rangesFrom.eq_def] <;> simp [hswitch]
  | false =>
    cases haction : c.sortAction? with
    | none => cases since <;> rw [rangesFrom.eq_def] <;> simp [hswitch, haction]
    | some action =>
      cases action <;> cases since <;> rw [rangesFrom.eq_def] <;> simp [hswitch, haction]

/-- Behind comments that start up to a line, a stretch is open since such a line, if one is. -/
theorem exists_rangesFrom_append {source : Text} {bound : Int} {since : Option Int}
    {before : List Comment} (cs : List Comment) (hsince : ∀ line ∈ since, line ≤ bound)
    (hbefore : ∀ b ∈ before, (source.lineAt b.start : Int) ≤ bound) :
    ∃ rs since', (∀ line ∈ since', line ≤ bound) ∧
      rangesFrom source since (before ++ cs) = rs ++ rangesFrom source since' cs := by
  induction before generalizing since with
  | nil => exact ⟨[], since, hsince, rfl⟩
  | cons b before ih =>
    have hb := hbefore b List.mem_cons_self
    have hopened : ∀ line ∈ opened source since b, line ≤ bound := by
      intro line hline
      rw [opened] at hline
      split at hline
      · rcases Option.or_eq_some_iff.1 hline with hline | ⟨-, hline⟩
        · exact hsince line hline
        · obtain rfl := Option.some.inj hline
          exact hb
      · cases hline
      · exact hsince line hline
    obtain ⟨rs, since', hsince', hranges⟩ :=
      ih hopened fun b' hb' => hbefore b' (List.mem_cons_of_mem b hb')
    refine ⟨closed source since b ++ rs, since', hsince', ?_⟩
    rw [List.cons_append, rangesFrom_cons, hranges, List.append_assoc]

/-- An open stretch has the lines up to where the rule is enabled again. -/
theorem exists_range_of_open {source : Text} {since line : Int} {cs : List Comment}
    (hno : ∀ c ∈ cs, c.text.hasFileSwitch = false) (hsince : since ≤ line)
    (hlast : line ≤ lastLine)
    (hend : ∀ e ∈ cs.find? (·.sortAction? = some .enable), line ≤ source.lineAt e.stop) :
    ∃ r ∈ rangesFrom source (some since) cs, r.first ≤ line ∧ line ≤ r.last := by
  induction cs with
  | nil => exact ⟨⟨since, lastLine⟩, List.mem_singleton_self _, hsince, hlast⟩
  | cons c cs ih =>
    have haction : action? c = c.sortAction? := by
      rw [action?, hno c List.mem_cons_self]
      rfl
    rw [rangesFrom_cons]
    -- Only a comment that enables the rule closes the stretch; behind any other it is still open.
    by_cases henable : c.sortAction? = some .enable
    · have hclosed : closed source (some since) c = [⟨since, source.lineAt c.stop⟩] := by
        rw [closed, haction, henable]
        rfl
      have hstop : line ≤ source.lineAt c.stop := by
        apply hend
        simp [henable]
      refine ⟨⟨since, source.lineAt c.stop⟩, ?_, hsince, hstop⟩
      rw [hclosed]
      exact List.mem_append_left _ (List.mem_singleton_self _)
    · have hopened : opened source (some since) c = some since := by
        rw [opened, haction]
        split
        · rfl
        · exact absurd ‹_› henable
        · rfl
      have hrest : ∀ e ∈ cs.find? (·.sortAction? = some .enable), line ≤ source.lineAt e.stop := by
        intro e he
        apply hend
        rw [List.find?_cons_of_neg (by simpa using henable)]
        exact he
      obtain ⟨r, hr, hline⟩ := ih (fun c' hc' => hno c' (List.mem_cons_of_mem c hc')) hrest
      refine ⟨r, ?_, hline⟩
      rw [hopened]
      exact List.mem_append_right _ hr

/-- A line that one of several comments protects is in a range. -/
theorem exists_range_of_protects {source : Text} {before later : List Comment} {k : Comment}
    {line : Nat} (hno : ∀ c ∈ before ++ k :: later, c.text.hasFileSwitch = false)
    (horder : ∀ b ∈ before, b.start ≤ k.start) (hlast : (line : Int) ≤ lastLine)
    (h : k.Protects source.lineAt later line) :
    ∃ r ∈ rangesFrom source none (before ++ k :: later), r.first ≤ line ∧ line ≤ r.last := by
  have haction : action? k = k.sortAction? := by
    rw [action?, hno k (by simp)]
    rfl
  obtain ⟨rs, since, hsince, hranges⟩ :=
    @exists_rangesFrom_append source (source.lineAt k.start) none before (k :: later) (by simp)
      fun b hb => Int.ofNat_le.2 (Text.lineAt_mono (horder b hb))
  rw [hranges, rangesFrom_cons]
  unfold Comment.Protects at h
  cases hk : k.sortAction? with
  | none =>
    rw [hk] at h
    exact h.elim
  | some action =>
    rw [hk] at h haction
    cases action with
    | disableLine =>
      refine ⟨⟨source.lineAt k.start, source.lineAt k.start⟩, ?_, by simp [h], by simp [h]⟩
      simp [closed, haction]
    | disableNextLine =>
      refine ⟨⟨source.lineAt k.stop + 1, source.lineAt k.stop + 1⟩, ?_, by simp [h], by simp [h]⟩
      simp [closed, haction]
    | disable =>
      obtain ⟨hstart, hend⟩ := h
      obtain ⟨first, hopened, hfirst⟩ : ∃ first, opened source since k = some first ∧
          first ≤ source.lineAt k.start := by
        rw [opened, haction]
        cases since with
        | none => exact ⟨_, rfl, Int.le_refl _⟩
        | some first => exact ⟨first, rfl, hsince first rfl⟩
      obtain ⟨r, hr, hline⟩ := @exists_range_of_open source first line later
        (fun c hc => hno c (by simp [hc])) (Int.le_trans hfirst (Int.ofNat_le.2 hstart)) hlast
        fun e he => Int.ofNat_le.2 (hend e he)
      refine ⟨r, ?_, hline⟩
      rw [hopened]
      exact List.mem_append_right _ (List.mem_append_right _ hr)
    | enable => exact h.elim

/-- Lines with a protected one among them are left alone. -/
theorem covers_find_of_protects {source : Text} {before later : List Comment} {k : Comment}
    {line : Nat} {first last : Int} (horder : ∀ b ∈ before, b.start ≤ k.start)
    (hlast : (line : Int) ≤ lastLine) (h : k.Protects source.lineAt later line)
    (hfirst : first ≤ line) (hline : line ≤ last) :
    (find source (before ++ k :: later)).covers first last = true := by
  rw [covers, find, Bool.or_eq_true]
  by_cases hswitch : (before ++ k :: later).any (·.text.hasFileSwitch) = true
  · exact .inl hswitch
  · have hno : ∀ c ∈ before ++ k :: later, c.text.hasFileSwitch = false := by
      intro c hc
      rw [← Bool.not_eq_true]
      exact fun h => hswitch (List.any_eq_true.2 ⟨c, hc, h⟩)
    obtain ⟨r, hr, hrfirst, hrlast⟩ := exists_range_of_protects hno horder hlast h
    refine .inr (List.any_eq_true.2 ⟨r, hr, ?_⟩)
    rw [Bool.and_eq_true, decide_eq_true_iff, decide_eq_true_iff]
    omega

theorem covers_union_of_left {s t : Suppressions} {first last : Int}
    (h : s.covers first last = true) : (s.union t).covers first last = true := by
  simp only [covers, union, List.any_append, Bool.or_eq_true] at h ⊢
  rcases h with h | h
  · exact .inl (.inl h)
  · exact .inr (.inl h)

end Suppressions

/-! ## Protected imports -/

/-- The comments of a source, those behind code among them. -/
def Text.comments (source : Text) : List Comment :=
  Comment.ofPieces (shebangLength source) (Piece.scan (source.drop (shebangLength source)))

/-- Whether formatting takes an import for protected by a comment. -/
def Head.Shields (h : Head) (k : Comment) (decl : ImportDecl) : Prop :=
  ∃ before seen, h.comments = before ++ k :: seen ∧
    k.Protects h.source.lineAt seen (h.source.lineAt decl.span.start)

namespace Layout

variable {d : Dialect} {l : Layout}

/-- The comments of a source are those of its head, and those behind code. -/
theorem comments_source (h : l.IsValid d) :
    l.source.comments = (l.head d).comments ++ Comment.ofPieces l.headEnd l.code := by
  have hdrop : l.source.drop l.shebang.length = textOf l.pieces := by
    rw [source, List.drop_left]
  rw [Text.comments, h.shebang, hdrop, h.pieces, pieces_eq, Comment.ofPieces_append]
  rfl

/-- A comment is in the head if it starts before the code. -/
theorem mem_comments_iff (h : l.IsValid d) {k : Comment} (hk : k ∈ l.source.comments) :
    k ∈ (l.head d).comments ↔ ∀ code ∈ (l.head d).codeStart, k.start < code := by
  have hne := h.text_ne_nil
  rw [pieces_eq] at hne
  have hcodeStart : (l.head d).codeStart = if l.code.isEmpty then none else some l.headEnd := rfl
  constructor
  · intro hmem code hcode
    have hlt := (Comment.mem_ofPieces_lt h.text_ne_nil_of_mem_headPieces hmem).2
    rw [hcodeStart] at hcode
    split at hcode
    · cases hcode
    · obtain rfl := Option.some.inj hcode
      exact hlt
  · intro hbefore
    rw [comments_source h] at hk
    rcases List.mem_append.1 hk with hk | hk
    · exact hk
    · have hle := (Comment.mem_ofPieces_lt (fun p hp => hne p (List.mem_append_right _ hp)) hk).1
      have hcode : l.code.isEmpty = false := by
        cases hcode : l.code with
        | nil =>
          rw [hcode] at hk
          cases hk
        | cons p ps => rfl
      have hlt := hbefore l.headEnd (by rw [hcodeStart, hcode]; rfl)
      omega

/-- The comments of a head go up to the code. -/
theorem exists_seen (h : l.IsValid d) {before later : List Comment} {k : Comment}
    (hcomments : l.source.comments = before ++ k :: later) (hk : k ∈ (l.head d).comments) :
    ∃ seen, (l.head d).comments = before ++ k :: seen ∧
      later = seen ++ Comment.ofPieces l.headEnd l.code := by
  have hnot : k ∉ Comment.ofPieces l.headEnd l.code := by
    intro hcode
    have hlt := (Comment.mem_ofPieces_lt h.text_ne_nil_of_mem_headPieces hk).2
    have hne := h.text_ne_nil
    rw [pieces_eq] at hne
    have hle := (Comment.mem_ofPieces_lt (fun p hp => hne p (List.mem_append_right _ hp)) hcode).1
    exact absurd hlt (Nat.not_lt.2 hle)
  rw [comments_source h] at hcomments
  rcases List.append_eq_append_iff.1 hcomments with ⟨u, -, hu⟩ | ⟨u, hu, hcons⟩
  · exact absurd (by simp [hu]) hnot
  · cases u with
    | nil =>
      rw [← show k :: later = Comment.ofPieces l.headEnd l.code from hcons] at hnot
      exact absurd List.mem_cons_self hnot
    | cons x u =>
      obtain ⟨rfl, rfl⟩ := List.cons.inj hcons
      exact ⟨u, hu, rfl⟩

/-- What formatting takes for protected, of what comments protect. -/
theorem shields_iff (h : l.IsValid d) {decl : ImportDecl} (hdecl : decl ∈ (l.head d).imports)
    {before later : List Comment} {k : Comment}
    (hcomments : l.source.comments = before ++ k :: later)
    (hprotects : k.Protects l.source.lineNumber later (l.source.lineNumber decl.span.start)) :
    (l.head d).Shields k decl ↔ (∀ code ∈ (l.head d).codeStart, k.start < code) ∧
      (k.sortAction? = some .disableNextLine → '\n' ∈ l.source.slice k.stop decl.span.start) := by
  have hall : l.source.comments = Comment.ofPieces l.shebang.length l.pieces := by
    rw [comments_source h, pieces_eq, Comment.ofPieces_append]
    rfl
  have hmem : k ∈ l.source.comments := by simp [hcomments]
  -- Offsets of one line have the same count of line feeds unless one is inside a line break.
  have hdivides : ∀ c ∈ l.source.comments,
      ¬l.source.DividesBreak c.start ∧ ¬l.source.DividesBreak c.stop := by
    rw [hall]
    exact fun c hc => not_dividesBreak_of_comment h hc
  have hstart := not_dividesBreak_of_decl h hdecl
  rw [← mem_comments_iff h hmem]
  constructor
  · rintro ⟨before', seen, hseen, hprotects'⟩
    refine ⟨by simp [hseen], fun hk => ?_⟩
    simp only [Comment.Protects, hk] at hprotects hprotects'
    exact (Text.lineAt_eq_succ_iff (hdivides k hmem).2 hstart hprotects).1 hprotects'
  · rintro ⟨hk, hfeed⟩
    obtain ⟨seen, hseen, hlater⟩ := exists_seen h hcomments hk
    refine ⟨before, seen, hseen, ?_⟩
    unfold Comment.Protects at hprotects ⊢
    cases haction : k.sortAction? with
    | none =>
      rw [haction] at hprotects
      exact hprotects
    | some action =>
      rw [haction] at hprotects
      cases action with
      | disableLine =>
        exact Text.lineAt_eq_of_lineNumber_eq hstart (hdivides k hmem).1 hprotects
      | disableNextLine =>
        exact (Text.lineAt_eq_succ_iff (hdivides k hmem).2 hstart hprotects).2 (hfeed haction)
      | disable =>
        refine ⟨Text.lineAt_le_of_lineNumber_le hstart hprotects.1, fun e he => ?_⟩
        have hfound : later.find? (·.sortAction? = some .enable) = some e := by
          rw [hlater, List.find?_append, Option.mem_def.1 he]
          rfl
        have hmemLater : e ∈ l.source.comments := by
          rw [hcomments]
          exact List.mem_append_right _ (List.mem_cons_of_mem _ (List.mem_of_find?_eq_some hfound))
        exact Text.lineAt_le_of_lineNumber_le (hdivides e hmemLater).2 (hprotects.2 e hfound)
      | enable => exact hprotects

/-- What formatting takes for protected, it leaves alone. -/
theorem isSuppressed_of_shields (h : l.IsValid d) {c : FormatContext} {decl : ImportDecl}
    (hdecl : decl ∈ (l.head d).imports) (hlength : l.source.length ≤ lengthLimit) {k : Comment}
    (hk : (l.head d).Shields k decl) :
    ∃ region, (l.head d).region c.settings.gap = some region ∧
      c.isSuppressed (l.head d) region = true := by
  obtain ⟨f, hf⟩ := exists_frame h c.settings.gap
  obtain ⟨before, seen, hseen, hprotects⟩ := hk
  have hwithin := hf.within hdecl
  have horder : ∀ b ∈ before, b.start ≤ k.start := by
    have hpairwise := pairwise_comments h
    rw [hseen, List.pairwise_append] at hpairwise
    intro b hb
    exact Nat.le_trans b.start_le_stop (hpairwise.2.2 b hb k List.mem_cons_self)
  have hlast : ((l.source.lineAt decl.span.start : Nat) : Int) ≤ lastLine := by
    have hcount : (l.source.take decl.span.start).count '\n' ≤ decl.span.start :=
      Nat.le_trans List.count_le_length (List.length_take_le _ _)
    have hlt : decl.span.start < decl.span.stop :=
      Segment.start_lt_stop_of_mem_decls h.segments hdecl
    have hstop := hf.stop_le_length
    have hlimit : (lengthLimit : Int) = lastLine := rfl
    rw [Text.lineAt]
    omega
  refine ⟨⟨f.start l, f.stop l⟩, hf.region, ?_⟩
  rw [FormatContext.isSuppressed, hseen]
  apply Suppressions.covers_union_of_left
  apply Suppressions.covers_find_of_protects horder hlast hprotects
  · exact Int.ofNat_le.2 (Text.lineAt_mono hwithin.1)
  · exact Int.ofNat_le.2 (Text.lineAt_mono (Nat.le_trans (Nat.le_of_lt
      (Segment.start_lt_stop_of_mem_decls h.segments hdecl)) hwithin.2))

end Layout

/-- **When imports that comments protect are left alone**: always, unless the comment stands behind
code, or is about the next line and no line feed divides it from the import. -/
theorem FormatContext.format_of_protects [Platform] {c : FormatContext} {source : Text}
    {d : Dialect} {head : Head} {decl : ImportDecl} {before later : List Comment} {k : Comment}
    (hdialect : Dialect.ofPath? (Path.ofString c.file) = some d)
    (hparse : Head.parse source d = .ok head) (hlength : source.length ≤ lengthLimit)
    (hdecl : decl ∈ head.imports) (hcomments : source.comments = before ++ k :: later)
    (hprotects : k.Protects source.lineNumber later (source.lineNumber decl.span.start)) :
    (head.Shields k decl ↔ (∀ code ∈ head.codeStart, k.start < code) ∧
      (k.sortAction? = some .disableNextLine → '\n' ∈ source.slice k.stop decl.span.start)) ∧
    (head.Shields k decl → c.settings.knowsEol = true → (c.format source).result = .ok none) := by
  obtain ⟨l, hl, rfl, rfl⟩ := Layout.exists_of_parse hparse (List.ne_nil_of_mem hdecl)
  refine ⟨Layout.shields_iff hl hdecl hcomments hprotects, fun hk heol => ?_⟩
  obtain ⟨region, hregion, hsuppressed⟩ := Layout.isSuppressed_of_shields hl hdecl hlength hk
  have honce : (c.formatOnce l.source).result = .ok none := by
    have hhead : (c.formatHead (l.head d)).result = .ok none := by
      rw [result_formatHead, hregion]
      exact if_pos hsuppressed
    rw [formatOnce_of_parse heol hdialect hparse, orLeaveAlone, hhead]
    exact hhead
  rw [result_format, honce]
  rfl

/-- A comment about the next line, and carriage returns. -/
def returnSource : Text :=
  "// eslint-disable-next-line sort-imports\rimport b from 'b';\rimport a from 'a';\r".toList

/-- The comment of the source. -/
def returnComment : Comment := ⟨"// eslint-disable-next-line sort-imports".toList, 0⟩

/-- The import that the comment protects. -/
def returnDecl : ImportDecl where
  span := ⟨41, 59⟩
  specifier := ['b']
  quote := .single
  bindings := [⟨.defaultExport, ['b'], none, false⟩]
  hasSemicolon := true

section Usual

attribute [local instance] Platform.usual

/-- **A protected import is moved** where lines end in carriage returns. -/
theorem FormatContext.format_returnSource : ∃ head,
    Head.parse returnSource ⟨true, false⟩ = .ok head ∧ returnDecl ∈ head.imports ∧
      returnComment.Protects returnSource.lineNumber []
        (returnSource.lineNumber returnDecl.span.start) ∧
      ¬head.Shields returnComment returnDecl ∧
      (FormatContext.format { file := "a.ts", settings := {} } returnSource).result =
        .ok (some ("import a from 'a';\n// eslint-disable-next-line sort-imports\n" ++
          "import b from 'b';\r").toList) := by
  have hread : (Head.parse returnSource ⟨true, false⟩).toOption.bind (·.imports.head?) =
      some returnDecl := by
    decide +kernel
  obtain ⟨head, hparse, himports⟩ := Option.bind_eq_some_iff.1 hread
  have hparse := Except.eq_ok_of_toOption hparse
  have hdecl : returnDecl ∈ head.imports := List.mem_of_head? himports
  have haction : returnComment.sortAction? = some .disableNextLine := by decide +kernel
  have hprotects : returnComment.Protects returnSource.lineNumber []
      (returnSource.lineNumber returnDecl.span.start) := by
    simp only [Comment.Protects, haction]
    decide +kernel
  have hiff := (@FormatContext.format_of_protects _ { file := "a.ts", settings := {} } returnSource
    ⟨true, false⟩ head returnDecl [] [] returnComment rfl hparse (by decide +kernel) hdecl
    (by decide +kernel) hprotects).1
  refine ⟨head, hparse, hdecl, hprotects, fun hshields => ?_,
    Except.eq_ok_of_toOption (by decide +kernel)⟩
  have hfeed := (hiff.1 hshields).2 haction
  revert hfeed
  decide +kernel

/-- Code with a comment that is to protect its line. -/
def protectedCode : Text := "f() // eslint-disable-line sort-imports".toList

example : (FormatContext.format { file := "a.ts", settings := {} }
      ("import b from 'b';\nimport a from 'a'; ".toList ++ protectedCode)).result.toOption =
    some (some ("import a from 'a';\nimport b from 'b'; ".toList ++ protectedCode)) := by
  decide +kernel

end Usual

end ImportOrder
