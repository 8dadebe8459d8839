import ImportOrder.Platform.Usual
import ImportOrder.Proofs.Format.Failures
import ImportOrder.Proofs.Format.Pass
import ImportOrder.Proofs.Source.Body

/-!
# Formatting does not look at the body

The statements of a source, the stretch they occupy and the lines that are left alone are decided
by the text before the code. So is what formatting makes of them, if the line ending is fixed: the
code stands behind it as it was.

## Main results

* `Layout.statements_withCode`: the statements and the region do not depend on the code
* `FormatContext.isSuppressed_withCode`: nor does it whether the imports are left alone
* `FormatContext.formatOnce_append`: the body of a source does not influence how its imports are
  formatted
-/

namespace ImportOrder

open Piece (textOf sameLine below)

/-! ## Texts that go on -/

namespace Text

variable {head body : Text}

theorem slice_append_left {start stop : Nat} (h : stop ≤ head.length) :
    slice (head ++ body) start stop = slice head start stop := by
  rw [slice, List.take_append_of_le_length h, slice]

theorem lineAt_append_left {offset : Nat} (h : offset ≤ head.length) :
    lineAt (head ++ body) offset = lineAt head offset := by
  rw [lineAt, List.take_append_of_le_length h, lineAt]

/-- What is replaced in the head leaves the body behind it. -/
theorem splice_append_left {region : Span} {t : Text} (hstart : region.start ≤ head.length)
    (hstop : region.stop ≤ head.length) :
    splice (head ++ body) region t = splice head region t ++ body := by
  rw [splice, List.take_append_of_le_length hstart, List.drop_append_of_le_length hstop, splice]
  simp

end Text

theorem takeWhile_congr {α : Type} {f g : α → Bool} {as : List α} (h : ∀ a ∈ as, f a = g a) :
    as.takeWhile f = as.takeWhile g := by
  induction as with
  | nil => rfl
  | cons a as ih =>
    rw [List.takeWhile_cons, List.takeWhile_cons, h a List.mem_cons_self,
      ih fun b hb => h b (List.mem_cons_of_mem a hb)]

/-- Which comments concern the whole file is decided before the first import. -/
theorem Comment.belowFileLevel_append {head body : Text} {gap first : Nat} {cs : List Comment}
    (hfirst : first ≤ head.length) (hcs : ∀ c ∈ cs, c.start ≤ head.length) :
    belowFileLevel (head ++ body) gap first cs = belowFileLevel head gap first cs := by
  simp only [belowFileLevel]
  congr 2
  apply takeWhile_congr
  rintro ⟨c, next⟩ hmem
  have hnext : next ≤ head.length := by
    have hmem := (List.of_mem_zip (List.mem_reverse.1 hmem)).2
    rcases List.mem_append.1 hmem with hmem | hmem
    · obtain ⟨c', hc', rfl⟩ := List.mem_map.1 hmem
      exact hcs c' (List.mem_of_mem_tail hc')
    · rw [List.mem_singleton.1 hmem]
      exact hfirst
  simp only [isFileLevel, Text.slice_append_left hnext]

/-- Which lines are left alone is decided by the comments and the text up to them. -/
theorem Suppressions.rangesFrom_append {head body : Text} {since : Option Int} {cs : List Comment}
    (hcs : ∀ c ∈ cs, c.stop ≤ head.length) :
    rangesFrom (head ++ body) since cs = rangesFrom head since cs := by
  induction cs generalizing since with
  | nil => cases since <;> rfl
  | cons c cs ih =>
    have hstop := hcs c List.mem_cons_self
    have hstart : c.start ≤ head.length := Nat.le_trans (Nat.le_add_right _ _) hstop
    have hrest : ∀ since, rangesFrom (head ++ body) since cs = rangesFrom head since cs :=
      fun since => ih fun c' hc' => hcs c' (List.mem_cons_of_mem c hc')
    unfold rangesFrom
    simp only [Text.lineAt_append_left hstart, Text.lineAt_append_left hstop, hrest]

theorem Suppressions.find_append {head body : Text} {cs : List Comment}
    (hcs : ∀ c ∈ cs, c.stop ≤ head.length) : find (head ++ body) cs = find head cs := by
  rw [find, rangesFrom_append hcs, find]

/-! ## Layouts with other code -/

namespace Layout

variable {d : Dialect} {l : Layout} {code : List Piece}

/-- The text before the code. -/
def headText (l : Layout) : Text := l.shebang ++ textOf l.headPieces

theorem source_head (l : Layout) : (l.head d).source = l.headText ++ textOf l.code := source_eq l

theorem length_headText (l : Layout) : l.headText.length = l.headEnd := List.length_append

/-- The first import and its gap stand in the text before the code. -/
theorem first_le_headText {g : Segment} {gs : List Segment} (hsegments : l.segments = g :: gs) :
    l.floor + (textOf g.gap).length ≤ l.headText.length := by
  rw [length_headText, headEnd, headPieces, hsegments]
  simp only [floor, Segment.row_cons, Piece.textOf_append, List.length_append]
  omega

theorem firstLeading_withCode (h : l.IsValid d) (h' : (l.withCode code).IsValid d) {g : Segment}
    {gs : List Segment} (hsegments : l.segments = g :: gs) (gap : Nat) :
    ((l.withCode code).head d).firstLeading gap (l.floor + (textOf g.gap).length) =
      (l.head d).firstLeading gap (l.floor + (textOf g.gap).length) := by
  have hfirst := first_le_headText hsegments
  have hbelow : ∀ offset ps, offset + (textOf ps).length ≤ l.headText.length →
      ∀ c ∈ Comment.ofPieces offset ps, c.start ≤ l.headText.length := by
    intro offset ps hle c hc
    have := Comment.stop_le_of_mem_ofPieces hc
    rw [Comment.stop] at this
    omega
  have hcomments : ∀ c ∈ (if l.floor = 0 then Comment.ofPieces l.floor g.gap
      else Comment.ofPieces (l.floor + (textOf (sameLine g.gap)).length) (below g.gap)),
      c.start ≤ l.headText.length := by
    split
    · exact hbelow _ _ hfirst
    · apply hbelow
      rw [Nat.add_assoc, ← List.length_append, ← Piece.textOf_append, Piece.sameLine_append_below]
      exact hfirst
  rw [firstLeading_head h hsegments, show l.source = l.headText ++ textOf l.code from source_eq l,
    Comment.belowFileLevel_append hfirst hcomments]
  have hread := firstLeading_head h' hsegments gap
  rw [show (l.withCode code).source = l.headText ++ textOf code from source_eq _] at hread
  exact hread.trans (Comment.belowFileLevel_append hfirst hcomments)

/-- The statements and the region of a source do not depend on the code. -/
theorem statements_withCode (h : l.IsValid d) (h' : (l.withCode code).IsValid d) (gap : Nat) :
    ((l.withCode code).head d).statements gap = (l.head d).statements gap ∧
      ((l.withCode code).head d).region gap = (l.head d).region gap := by
  obtain ⟨g, gs, hsegments⟩ := List.exists_cons_of_ne_nil h.nonempty
  obtain ⟨us, vs, hgap, hleading, hvs, -⟩ := exists_leading h hsegments gap
  obtain ⟨tr, -, -, -, -, hstop⟩ := exists_trailing (sameLine l.gap)
  have hleading' := (firstLeading_withCode h h' hsegments gap).trans hleading
  constructor
  · rw [statements_head h hsegments hgap hleading]
    exact statements_head h' hsegments hgap hleading'
  · rw [region_head h hsegments hgap hleading hvs hstop]
    exact region_head h' hsegments hgap hleading' hvs hstop

/-- The region of a source stands before the code. -/
theorem region_le_headText (h : l.IsValid d) {gap : Nat} {region : Span}
    (hregion : (l.head d).region gap = some region) :
    region.start ≤ l.headText.length ∧ region.stop ≤ l.headText.length := by
  obtain ⟨g, gs, hsegments⟩ := List.exists_cons_of_ne_nil h.nonempty
  obtain ⟨us, vs, hgap, hleading, hvs, -⟩ := exists_leading h hsegments gap
  obtain ⟨tr, rs, hline, -, -, hstop⟩ := exists_trailing (sameLine l.gap)
  rw [region_head h hsegments hgap hleading hvs hstop] at hregion
  obtain rfl := Option.some.inj hregion
  have hfirst := first_le_headText hsegments
  have hlast : l.gap = tr ++ (rs ++ below l.gap) := by
    rw [← List.append_assoc, ← hline, Piece.sameLine_append_below]
  constructor
  · rw [hgap, Piece.textOf_append, List.length_append] at hfirst
    show l.floor + (textOf us).length ≤ _
    omega
  · show l.floor + (textOf (Segment.row l.segments)).length + (textOf tr).length ≤ _
    rw [length_headText, headEnd, headPieces]
    simp only [floor, Piece.textOf_append, List.length_append]
    have hlength := congrArg (fun ps => (textOf ps).length) hlast
    simp only [Piece.textOf_append, List.length_append] at hlength
    omega

end Layout

namespace FormatContext

variable {c : FormatContext} {d : Dialect} {l : Layout} {code : List Piece}

/-- Whether imports are left alone does not depend on the code. -/
theorem isSuppressed_withCode {region : Span} (hstart : region.start ≤ l.headText.length)
    (hstop : region.stop ≤ l.headText.length) :
    c.isSuppressed ((l.withCode code).head d) region = c.isSuppressed (l.head d) region := by
  have hcomments : ∀ e ∈ (l.head d).comments, e.stop ≤ l.headText.length := by
    intro e he
    rw [Layout.length_headText]
    exact Comment.stop_le_of_mem_ofPieces he
  have hfree : ∀ body, (Suppressions.find (l.headText ++ body) (l.head d).comments) =
      Suppressions.find l.headText (l.head d).comments :=
    fun body => Suppressions.find_append hcomments
  have hsource : ((l.withCode code).head d).source = l.headText ++ textOf code :=
    Layout.source_head _
  have hsame : ((l.withCode code).head d).comments = (l.head d).comments := rfl
  simp only [isSuppressed, hsource, hsame, Layout.source_head, hfree,
    Text.lineAt_append_left hstart, Text.lineAt_append_left hstop]

/-- The text of the arranged imports does not depend on the code. -/
theorem regionText_withCode [Platform] {eol : Eol} (heol : c.settings.eol? = some eol)
    (h : l.IsValid d) (h' : (l.withCode code).IsValid d) :
    c.regionText ((l.withCode code).head d) = c.regionText (l.head d) := by
  have hfixed : ∀ source, c.eolFor source = eol := by
    intro source
    rw [eolFor, heol, Option.getD_some]
  rw [regionText, (Layout.statements_withCode h h' _).1, hfixed, regionText, hfixed]

/-- **What formatting makes of a head** is put in front of any code. -/
theorem exists_formatHead_withCode [Platform] {eol : Eol} (heol : c.settings.eol? = some eol)
    (h : l.IsValid d) (h' : (l.withCode code).IsValid d) :
    ∃ r : Except Failure (Option Text),
      (c.formatHead (l.head d)).result = r.map (Option.map (· ++ textOf l.code)) ∧
      (c.formatHead ((l.withCode code).head d)).result = r.map (Option.map (· ++ textOf code)) ∧
      ∀ e, r = .error e → (c.regionText (l.head d)).result = .error e := by
  have hsource : ((l.withCode code).head d).source = l.headText ++ textOf code :=
    Layout.source_head _
  rw [result_formatHead, result_formatHead, (Layout.statements_withCode h h' _).2]
  cases hregion : (l.head d).region c.settings.gap with
  | none => exact ⟨.ok none, rfl, rfl, fun e he => nomatch he⟩
  | some region =>
    obtain ⟨hstart, hstop⟩ := Layout.region_le_headText h hregion
    simp only [isSuppressed_withCode hstart hstop, regionText_withCode heol h h']
    split
    · exact ⟨.ok none, rfl, rfl, fun e he => nomatch he⟩
    · refine ⟨(c.regionText (l.head d)).result.map fun t => some (l.headText.splice region t), ?_⟩
      rw [hsource, Layout.source_head]
      simp only [Text.splice_append_left hstart hstop]
      cases (c.regionText (l.head d)).result with
      | error e => exact ⟨rfl, rfl, fun e' he' => congrArg Except.error (Except.error.inj he')⟩
      | ok t => exact ⟨rfl, rfl, fun e' he' => nomatch he'⟩

/-- Passes that agree up to the code still do once what cannot be handled is left alone. -/
theorem exists_orLeaveAlone {x y : Journaled Failure (Option Text)}
    {r : Except Failure (Option Text)} {f g : Text → Text}
    (hx : x.result = r.map (Option.map f)) (hy : y.result = r.map (Option.map g)) :
    ∃ r' : Except Failure (Option Text),
      (c.orLeaveAlone x).result = r'.map (Option.map f) ∧
      (c.orLeaveAlone y).result = r'.map (Option.map g) ∧
      ∀ e, r' = .error e → r = .error e ∧ ∀ cause, e ≠ .unsupported cause := by
  unfold orLeaveAlone
  rw [hx, hy]
  cases r with
  | ok t => exact ⟨.ok t, hx, hy, fun e he => nomatch he⟩
  | error e =>
    cases e with
    | unsupported cause => exact ⟨.ok none, rfl, rfl, fun e he => nomatch he⟩
    | _ =>
      refine ⟨.error _, hx, hy, ?_⟩
      rintro e he
      obtain rfl := Except.error.inj he
      exact ⟨rfl, fun cause => nofun⟩

theorem formatHead_of_imports_eq_nil [Platform] {head : Head} (h : head.imports = []) :
    (c.formatHead head).result = .ok none := by
  rw [result_formatHead, Head.region_eq_none h]

theorem exists_formatHead_append_of_imports [Platform] {eol : Eol} {head body body' : Text}
    {parsed parsed' : Head} (heol : c.settings.eol? = some eol)
    (hparse : Head.parse (head ++ body) d = .ok parsed)
    (hcode : parsed.codeStart = some head.length)
    (hparse' : Head.parse (head ++ body') d = .ok parsed')
    (hcode' : parsed'.codeStart = some head.length) (himports : parsed.imports ≠ []) :
    ∃ r : Except Failure (Option Text),
      (c.formatHead parsed).result = r.map (Option.map (· ++ body)) ∧
      (c.formatHead parsed').result = r.map (Option.map (· ++ body')) ∧
      ∀ e, r = .error e → ∃ head, (c.regionText head).result = .error e := by
  obtain ⟨l, code, hl, hl', rfl, rfl, hhead⟩ :=
    Head.exists_layouts hparse hcode hparse' hcode' himports
  have hbody : textOf l.code = body := by
    have hsource := Head.source_of_parse hparse
    rw [Layout.source_head, Layout.headText, hhead] at hsource
    exact List.append_cancel_left hsource
  have hbody' : textOf code = body' := by
    have hsource := Head.source_of_parse hparse'
    rw [Layout.source_head, Layout.headText] at hsource
    rw [← hhead] at hsource
    exact List.append_cancel_left hsource
  obtain ⟨r, hr, hr', herror⟩ := exists_formatHead_withCode (c := c) heol hl hl'
  rw [hbody] at hr
  rw [hbody'] at hr'
  exact ⟨r, hr, hr', fun e he => ⟨l.head d, herror e he⟩⟩

/-- What formatting makes of the text before the code does not depend on the code. -/
theorem exists_formatHead_append [Platform] {eol : Eol} {head body body' : Text}
    {parsed parsed' : Head}
    (heol : c.settings.eol? = some eol) (hparse : Head.parse (head ++ body) d = .ok parsed)
    (hcode : parsed.codeStart = some head.length)
    (hparse' : Head.parse (head ++ body') d = .ok parsed')
    (hcode' : parsed'.codeStart = some head.length) :
    ∃ r : Except Failure (Option Text),
      (c.formatHead parsed).result = r.map (Option.map (· ++ body)) ∧
      (c.formatHead parsed').result = r.map (Option.map (· ++ body')) ∧
      ∀ e, r = .error e → ∃ head, (c.regionText head).result = .error e := by
  by_cases himports : parsed.imports = []
  · by_cases himports' : parsed'.imports = []
    · exact ⟨.ok none, formatHead_of_imports_eq_nil himports,
        formatHead_of_imports_eq_nil himports', fun e he => nomatch he⟩
    · obtain ⟨r, hr, hr', herror⟩ :=
        exists_formatHead_append_of_imports heol hparse' hcode' hparse hcode himports'
      exact ⟨r, hr', hr, herror⟩
  · exact exists_formatHead_append_of_imports heol hparse hcode hparse' hcode' himports

/-- Passes over two sources with the same text before the code. -/
theorem exists_formatOnce_append [Platform] {eol : Eol} {head body body' : Text}
    (heol : c.settings.eol? = some eol)
    (h : ∀ d ∈ Dialect.ofPath? (Path.ofString c.file),
      ∃ parsed, Head.parse (head ++ body) d = .ok parsed ∧ parsed.codeStart = some head.length)
    (h' : ∀ d ∈ Dialect.ofPath? (Path.ofString c.file),
      ∃ parsed, Head.parse (head ++ body') d = .ok parsed ∧ parsed.codeStart = some head.length) :
    ∃ r : Except Failure (Option Text),
      (c.formatOnce (head ++ body)).result = r.map (Option.map (· ++ body)) ∧
      (c.formatOnce (head ++ body')).result = r.map (Option.map (· ++ body')) ∧
      ∀ e, r = .error e → (∃ k, e = .conflict k) ∨
        (∃ e', e = .settings e' ∧ c.settings.builtGroups = .error e') ∨
        ∃ cause, e = .broken cause ∧ c.settings.Overasks eol cause := by
  cases hdialect : Dialect.ofPath? (Path.ofString c.file) with
  | none =>
    exact ⟨.ok none, result_formatOnce_of_none hdialect _, result_formatOnce_of_none hdialect _,
      fun e he => nomatch he⟩
  | some d =>
    obtain ⟨parsed, hparse, hcode⟩ := h d hdialect
    obtain ⟨parsed', hparse', hcode'⟩ := h' d hdialect
    have hknown : c.settings.knowsEol = true := by
      simp [Settings.knowsEol, heol]
    rw [formatOnce_of_parse hknown hdialect hparse, formatOnce_of_parse hknown hdialect hparse']
    obtain ⟨r, hr, hr', herror⟩ := exists_formatHead_append heol hparse hcode hparse' hcode'
    obtain ⟨r', hr, hr', hleft⟩ := exists_orLeaveAlone (c := c) hr hr'
    refine ⟨r', hr, hr', ?_⟩
    intro e he
    obtain ⟨he, hsupported⟩ := hleft e he
    obtain ⟨head, hregion⟩ := herror e he
    rcases regionText_failure hregion with ⟨cause, rfl⟩ | herror
    · exact absurd rfl (hsupported cause)
    · rw [eolFor, heol, Option.getD_some] at herror
      exact herror

/-- **The body of a source does not influence how its imports are formatted.** Two sources with the
same text before the code are both left alone, fail both in the same way, or get the same new text
before the code. They fail only at a conflict, at groups that cannot be built, and where the
settings ask for what cannot be done. So if the groups can be built and the settings ask for nothing
of that kind, both are left alone, both have the same conflict, or both get the same new text. -/
theorem formatOnce_append [Platform] {eol : Eol} {head body body' : Text}
    (heol : c.settings.eol? = some eol)
    (h : ∀ d ∈ Dialect.ofPath? (Path.ofString c.file),
      ∃ parsed, Head.parse (head ++ body) d = .ok parsed ∧ parsed.codeStart = some head.length)
    (h' : ∀ d ∈ Dialect.ofPath? (Path.ofString c.file),
      ∃ parsed, Head.parse (head ++ body') d = .ok parsed ∧ parsed.codeStart = some head.length) :
    (∃ r : Except Failure (Option Text),
      (c.formatOnce (head ++ body)).result = r.map (Option.map (· ++ body)) ∧
      (c.formatOnce (head ++ body')).result = r.map (Option.map (· ++ body')) ∧
      ∀ e, r = .error e → (∃ k, e = .conflict k) ∨
        (∃ e', e = .settings e' ∧ c.settings.builtGroups = .error e') ∨
        ∃ cause, e = .broken cause ∧ c.settings.Overasks eol cause) ∧
    (∀ groups, c.settings.builtGroups = .ok groups → c.settings.Fits →
      ((c.formatOnce (head ++ body)).result = .ok none ∧
        (c.formatOnce (head ++ body')).result = .ok none) ∨
      (∃ k, (c.formatOnce (head ++ body)).result = .error (.conflict k) ∧
        (c.formatOnce (head ++ body')).result = .error (.conflict k)) ∨
      ∃ t, (c.formatOnce (head ++ body)).result = .ok (some (t ++ body)) ∧
        (c.formatOnce (head ++ body')).result = .ok (some (t ++ body'))) := by
  have hagree := exists_formatOnce_append heol h h'
  refine ⟨hagree, ?_⟩
  intro groups hgroups hfits
  obtain ⟨r, hr, hr', herror⟩ := hagree
  cases r with
  | ok new =>
    cases new with
    | none => exact .inl ⟨hr, hr'⟩
    | some t => exact .inr (.inr ⟨t, hr, hr'⟩)
  | error e =>
    rcases herror e rfl with ⟨k, rfl⟩ | ⟨e', -, hbuilt⟩ | ⟨cause, -, hasks⟩
    · exact .inr (.inl ⟨k, hr, hr'⟩)
    · cases hgroups.symm.trans hbuilt
    · exact absurd hasks (hfits.not_overasks (.inl heol) cause)

/-- Two imports that are not in order. -/
def unorderedImports : Text := "import b from 'b';\nimport a from 'a';\n".toList

/-- Lines end in a line feed. -/
def lineFeedContext : FormatContext := { file := "a.ts", settings := { eol := "LF" } }

section Usual

attribute [local instance] Platform.usual

/-- A comment in the code that asks to leave the file alone comes too late. -/
theorem formatOnce_append_lateComment : ∃ t,
    (lineFeedContext.formatOnce (unorderedImports ++ "b();".toList)).result =
      .ok (some (t ++ "b();".toList)) ∧
    (lineFeedContext.formatOnce
        (unorderedImports ++ "a(); // import-sorter: disable".toList)).result =
      .ok (some (t ++ "a(); // import-sorter: disable".toList)) := by
  have hparse : ∀ body ∈ ["b();".toList, "a(); // import-sorter: disable".toList],
      ((Head.parse (unorderedImports ++ body) ⟨true, false⟩).toOption.bind fun parsed =>
        parsed.codeStart) = some unorderedImports.length := by
    decide +kernel
  have hread : ∀ body ∈ ["b();".toList, "a(); // import-sorter: disable".toList],
      ∀ d ∈ Dialect.ofPath? (Path.ofString "a.ts"), ∃ parsed,
        Head.parse (unorderedImports ++ body) d = .ok parsed ∧
          parsed.codeStart = some unorderedImports.length := by
    intro body hbody d hd
    have hdialect : Dialect.ofPath? (Path.ofString "a.ts") = some ⟨true, false⟩ := by decide +kernel
    obtain rfl := Option.some.inj (hdialect.symm.trans hd)
    obtain ⟨parsed, hparsed, hcode⟩ := Option.bind_eq_some_iff.1 (hparse body hbody)
    exact ⟨parsed, Except.eq_ok_of_toOption hparsed, hcode⟩
  have hformat : (lineFeedContext.formatOnce (unorderedImports ++ "b();".toList)).result =
      .ok (some "import a from 'a';\nimport b from 'b';\nb();".toList) :=
    Except.eq_ok_of_toOption (by decide +kernel)
  obtain ⟨⟨r, hr, hr', -⟩, -⟩ := formatOnce_append (c := lineFeedContext) rfl
    (hread "b();".toList (by simp)) (hread "a(); // import-sorter: disable".toList (by simp))
  cases r with
  | error e =>
    rw [hr] at hformat
    cases hformat
  | ok t =>
    cases t with
    | none =>
      rw [hr] at hformat
      cases hformat
    | some t => exact ⟨t, hr, hr'⟩

end Usual

end FormatContext

end ImportOrder
