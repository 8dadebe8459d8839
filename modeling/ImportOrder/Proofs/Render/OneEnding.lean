import ImportOrder.Platform.Usual
import ImportOrder.Proofs.Render.Endings
import ImportOrder.Proofs.Render.RoundTrip

/-!
# Regions with one line ending

A region is written with one line ending: between its lines, in its comments, and in statements that
are kept as they are. Import attributes, module strings and string names are written as they were
read, with the endings that stand in them. So a region has no other ending than the chosen one
exactly if these texts have none.

## Main definitions

* `Statement.keptTexts`: the texts of a statement that are written as they were read

## Main results

* `Statement.usesOnlyIff_render`, `usesOnlyIff_renderRegion`: written statements and regions
* `exists_mem_keptTexts_arrange`: arranging keeps these texts
* `usesOnly_renderRegion_iff`: which regions have one line ending
-/

namespace ImportOrder

open Grammar

/-! ## Names -/

variable {eol : Eol} {d : Dialect}

open Text (UsesOnlyIff)

/-- A word in other quotes has the line endings that it had. -/
theorem usesOnlyIff_requoteName {w : Word} (h : w.Whole) (quote : Quote) :
    UsesOnlyIff eol (requoteName quote w.text) (w.text.UsesOnly eol) := by
  by_cases hkind : w.kind = .string
  · obtain ⟨kind, text⟩ := w
    obtain rfl : kind = .string := hkind
    obtain ⟨q, body, rfl, -⟩ := Word.whole_string_iff.1 h
    rw [requoteName, stringName?_enclose]
    exact (Text.usesOnlyIff_requote body q quote).congr (Text.usesOnlyIff_enclose q body).iff.symm
  · have hplain := h.plain hkind
    have htext : w.text.UsesOnly eol := (UsesOnlyIff.of_plain hplain).iff.2 trivial
    refine UsesOnlyIff.congr ?_ (iff_of_true trivial htext)
    by_cases hopen : w.text ∈ Piece.openings
    · have hopenings : ∀ t ∈ Piece.openings,
          (requoteName quote t).all (fun c => c != '\r' && c != '\n') = true := by
        cases quote <;> decide
      exact UsesOnlyIff.of_all (hopenings w.text hopen)
    · rw [requoteName, Word.stringName?_eq_none h hopen hkind]
      exact UsesOnlyIff.of_plain hplain

namespace Binding

variable {b : Binding}

theorem IsItem.exists_word (h : b.IsItem d) :
    ∃ w : Word, w.Whole ∧ w.text = b.name ∧ ∀ m ∈ b.newName, (Word.name m).Whole := by
  obtain ⟨ws, bare, hitem, hws⟩ := h
  cases hitem with
  | name n => exact ⟨.name n, hws _ (by simp), rfl, by simp⟩
  | @renamed w m => exact ⟨w, hws _ (by simp), rfl, by simpa using hws (.name m) (by simp)⟩
  | @typed w => exact ⟨w, hws _ (by simp), rfl, by simp⟩
  | @typedRenamed w m => exact ⟨w, hws _ (by simp), rfl, by simpa using hws (.name m) (by simp)⟩

/-- A named binding is written with the line endings of its name. -/
theorem usesOnlyIff_render (h : b.IsItem d) (quote : Quote) :
    UsesOnlyIff eol (b.render quote) (b.name.UsesOnly eol) := by
  obtain ⟨w, hw, hname, hnew⟩ := h.exists_word
  rw [render_eq]
  refine UsesOnlyIff.append_left ?_ (UsesOnlyIff.append_right ?_ ?_)
  · cases b.typeOnly <;> exact UsesOnlyIff.of_all rfl
  · rw [← hname]
    exact usesOnlyIff_requoteName hw quote
  · split
    · rename_i new hrename
      have hmem : new ∈ b.newName := (Option.filter_eq_some_iff.1 hrename).1
      exact (UsesOnlyIff.of_all rfl).append_left
        (UsesOnlyIff.of_plain ((hnew new hmem).plain (by simp)))
    · exact UsesOnlyIff.of_all rfl

/-- The name of a default or namespace binding has no line endings. -/
theorem IsRead.plain (h : b.IsRead d) (hkind : b.kind ≠ .namedExport) :
    ∀ c ∈ b.name, c ≠ '\r' ∧ c ≠ '\n' := (h.1 hkind).1.plain (by simp)

end Binding

/-! ## Statements -/

/-- Attributes end in a brace. -/
theorem IsAttributesText.getLast?_ne {t : Text} (h : IsAttributesText t) :
    t.getLast? ≠ some '\r' := by
  obtain ⟨keyword, body, hrow, -, -⟩ := h.words
  have hend : Piece.words (Piece.scan t) =
      (keyword :: .punct '\x7b' :: body) ++ [.punct '\x7d'] := by simpa using hrow
  obtain ⟨init, p, hps, hp⟩ := Piece.getLast?_of_isRun h.isRun hend
  obtain ⟨k, -, hword⟩ := Option.map_eq_some_iff.1 hp
  have htext : p.text = ['\x7d'] := congrArg Word.text hword
  rw [← Piece.textOf_scan t, hps, Piece.textOf_append, Piece.textOf_cons, htext]
  simp

namespace Statement

variable {s : Settings} {st : Statement} {t : Text}

theorem WellFormed.isRead (h : st.WellFormed d) : ∀ b ∈ st.bindings, b.IsRead d := by
  obtain ⟨dflt, ns, named, hbs, hbind⟩ := h.bindings
  rw [hbs]
  exact Binding.isRead_of_areBindings hbind

/-- **The texts that are written as they were read**: module, attributes and imported names. A
statement with comments inside is written in one piece. -/
def keptTexts (st : Statement) : List Text :=
  if st.innerComments then []
  else st.specifier :: (st.attributes.toList ++ st.bindings.map (·.name))

theorem forall_keptTexts_iff {P : Text → Prop} (h : st.innerComments = false) :
    (∀ t ∈ st.keptTexts, P t) ↔ (P st.specifier ∧ ∀ t ∈ st.attributes, P t) ∧
      ∀ b ∈ st.bindings, P b.name := by
  rw [keptTexts, if_neg (by simp [h])]
  simp [or_imp, forall_and, and_assoc]

section Parts

variable {α : Type} {f : α → Text} {P : α → Prop} {as : List α}

theorem usesOnlyIff_listOnLine (h : ∀ a ∈ as, UsesOnlyIff eol (f a) (P a)) :
    UsesOnlyIff eol (listOnLine s (as.map f)) (∀ a ∈ as, P a) := by
  have hspace : UsesOnlyIff eol (if s.bracketSpacing then [' '] else []) True := by
    cases s.bracketSpacing <;> exact UsesOnlyIff.of_all rfl
  have hcomma : UsesOnlyIff eol ", ".toList True := UsesOnlyIff.of_all rfl
  have hnames := UsesOnlyIff.join_map hcomma h
  have hopen : UsesOnlyIff eol ['\x7b'] True := UsesOnlyIff.of_all rfl
  exact (((hopen.append_left hspace).append_left hnames).append_right hspace).append_right
    (UsesOnlyIff.of_all rfl)

theorem usesOnlyIff_listOverLines (h : ∀ a ∈ as, UsesOnlyIff eol (f a) (P a)) :
    UsesOnlyIff eol (listOverLines s eol (as.map f)) (∀ a ∈ as, P a) := by
  have hindent : UsesOnlyIff eol (Text.times [' '] s.indent) True :=
    UsesOnlyIff.times (UsesOnlyIff.of_all rfl) s.indent
  have hcomma : UsesOnlyIff eol (if s.trailingComma = "multiline" then [','] else []) True := by
    split <;> exact UsesOnlyIff.of_all rfl
  have hsep : UsesOnlyIff eol (',' :: eol.text) True :=
    UsesOnlyIff.append_left (t := [',']) (UsesOnlyIff.of_all rfl) (.ofEol eol)
  have hnames := UsesOnlyIff.join_map hsep fun a ha => hindent.append_left (h a ha)
  have hopen : UsesOnlyIff eol ('\x7b' :: eol.text) True :=
    UsesOnlyIff.append_left (t := ['\x7b']) (UsesOnlyIff.of_all rfl) (.ofEol eol)
  simp only [listOverLines, List.map_map]
  exact (((hopen.append_left hnames).append_right hcomma).append_right (.ofEol eol)).append_right
    (UsesOnlyIff.of_all rfl)

end Parts

theorem usesOnlyIff_source (h : ∀ t ∈ st.attributes, IsAttributesText t) :
    UsesOnlyIff eol (source s st)
      (st.specifier.UsesOnly eol ∧ ∀ t ∈ st.attributes, t.UsesOnly eol) := by
  have hsemicolon : UsesOnlyIff eol (if endsInSemicolon s st then [';'] else []) True := by
    split <;> exact UsesOnlyIff.of_all rfl
  unfold source
  refine ((Text.usesOnlyIff_requote st.specifier st.quote _).append ?_).append_right hsemicolon
  split
  · rename_i c t hattr
    have htext : UsesOnlyIff eol (c :: t) (Text.UsesOnly eol (c :: t)) :=
      ⟨(h (c :: t) hattr).getLast?_ne, .rfl⟩
    refine (UsesOnlyIff.append_left (t := [' ']) (UsesOnlyIff.of_all rfl) htext).congr ?_
    simp [hattr]
  · rename_i hno
    refine UsesOnlyIff.congr (UsesOnlyIff.of_all rfl) (iff_of_true trivial ?_)
    intro t ht
    cases t with
    | nil => simp [Text.UsesOnly, Text.lineEndings]
    | cons c t => exact absurd ht (hno c t)

theorem usesOnlyIff_of_mem_renderHeads (h : ∀ b ∈ st.bindings, b.IsRead d)
    (ht : t ∈ renderHeads s st) : UsesOnlyIff eol t True := by
  obtain ⟨b, hb, hsome⟩ := List.mem_filterMap.1 ht
  have hplain := (h b (mem_inOrder.1 hb)).plain
  cases hkind : b.kind with
  | defaultExport =>
    obtain rfl : b.name = t := by simpa [hkind] using hsome
    exact UsesOnlyIff.of_plain (hplain (by simp [hkind]))
  | namespaceObject =>
    obtain rfl : "* as ".toList ++ b.name = t := by simpa [hkind] using hsome
    exact (UsesOnlyIff.of_all rfl).append_left (UsesOnlyIff.of_plain (hplain (by simp [hkind])))
  | namedExport => simp [hkind] at hsome

theorem usesOnlyIff_opening (st : Statement) : UsesOnlyIff eol (st.keyword ++ [' ']) True := by
  unfold keyword
  split <;> exact UsesOnlyIff.of_all rfl

/-- A statement has the line endings of its import list, its module and its attributes. -/
theorem usesOnlyIff_assemble (h : st.WellFormed d) {list : Option Text}
    (hlist : ∀ t ∈ list, t.getLast? ≠ some '\r') :
    UsesOnlyIff eol (assemble s st list) ((∀ t ∈ list, t.UsesOnly eol) ∧
      st.specifier.UsesOnly eol ∧ ∀ t ∈ st.attributes, t.UsesOnly eol) := by
  have hread := h.isRead
  have hparts : ∀ t ∈ renderHeads s st ++ list.toList, UsesOnlyIff eol t (t.UsesOnly eol) := by
    intro t ht
    rcases List.mem_append.1 ht with ht | ht
    · have hhead : UsesOnlyIff eol t True := usesOnlyIff_of_mem_renderHeads hread ht
      exact ⟨hhead.closed, .rfl⟩
    · exact ⟨hlist t (Option.mem_toList.1 ht), .rfl⟩
  have hclause : UsesOnlyIff eol (Text.join ", ".toList (renderHeads s st ++ list.toList))
      (∀ t ∈ list, t.UsesOnly eol) := by
    refine (UsesOnlyIff.join (UsesOnlyIff.of_all rfl) (List.forall₂_same.2 hparts)).congr ?_
    rw [List.forall_mem_append]
    constructor
    · intro hall t ht
      exact hall.2 t (Option.mem_toList.2 ht)
    · intro hall
      refine ⟨?_, fun t ht => hall t (Option.mem_toList.1 ht)⟩
      intro t ht
      exact (usesOnlyIff_of_mem_renderHeads hread ht).iff.2 trivial
  exact (((usesOnlyIff_opening st).append_left hclause).append_right
    (UsesOnlyIff.of_all rfl)).append (usesOnlyIff_source h.attributes)

/-- Only the names of named bindings can have line endings. -/
theorem forall_named_iff (h : ∀ b ∈ st.bindings, b.IsRead d) :
    (∀ b ∈ (sortBindings s st.bindings).filter (·.kind = .namedExport), b.name.UsesOnly eol) ↔
      ∀ b ∈ st.bindings, b.name.UsesOnly eol := by
  constructor
  · intro hall b hb
    by_cases hkind : b.kind = .namedExport
    · exact hall b (List.mem_filter.2 ⟨mem_inOrder.2 hb, by simpa using hkind⟩)
    · exact (UsesOnlyIff.of_plain ((h b hb).plain hkind)).iff.2 trivial
  · intro hall b hb
    exact hall b (mem_inOrder.1 (List.mem_filter.1 hb).1)

theorem usesOnlyIff_renderBindings [Platform] (h : st.WellFormed d)
    (hr : renderBindings s eol st = .ok t) :
    UsesOnlyIff eol t ((st.specifier.UsesOnly eol ∧ ∀ t ∈ st.attributes, t.UsesOnly eol) ∧
      ∀ b ∈ st.bindings, b.name.UsesOnly eol) := by
  have hread := h.isRead
  have hnamed : ∀ b ∈ (sortBindings s st.bindings).filter (·.kind = .namedExport),
      UsesOnlyIff eol (b.render (targetQuote s st)) (b.name.UsesOnly eol) := by
    intro b hb
    obtain ⟨hmem, hkind⟩ := List.mem_filter.1 hb
    exact Binding.usesOnlyIff_render
      ((hread b (mem_inOrder.1 hmem)).2 (of_decide_eq_true hkind)) _
  -- With either layout of the list, the statement has the line endings of the names.
  have hassemble : ∀ {list : Text}, UsesOnlyIff eol list
      (∀ b ∈ (sortBindings s st.bindings).filter (·.kind = .namedExport), b.name.UsesOnly eol) →
      UsesOnlyIff eol (assemble s st (some list))
        ((st.specifier.UsesOnly eol ∧ ∀ t ∈ st.attributes, t.UsesOnly eol) ∧
          ∀ b ∈ st.bindings, b.name.UsesOnly eol) := by
    intro list hlist
    refine (usesOnlyIff_assemble h (by simpa using hlist.closed)).congr ?_
    rw [← forall_named_iff (s := s) hread, ← hlist.iff]
    simp only [Option.mem_some_iff, forall_eq']
    exact and_comm
  simp only [renderBindings] at hr
  split at hr
  · rename_i hempty
    obtain rfl := Except.ok.inj hr
    refine (usesOnlyIff_assemble h (by simp)).congr ?_
    have hnone : (sortBindings s st.bindings).filter (·.kind = .namedExport) = [] := by
      simpa [renderNamed] using hempty
    rw [← forall_named_iff (s := s) hread, hnone]
    simp
  · split at hr
    · obtain ⟨-, -, hret⟩ := Parser.ok_of_bind hr
      obtain rfl := Except.ok.inj hret
      exact hassemble (usesOnlyIff_listOverLines hnamed)
    · obtain rfl := Except.ok.inj hr
      exact hassemble (usesOnlyIff_listOnLine hnamed)

/-- **A written statement** has the line endings of the texts that it keeps. -/
theorem usesOnlyIff_render [Platform] (h : st.WellFormed d) (hr : render s eol st = .ok t) :
    UsesOnlyIff eol t (∀ u ∈ st.keptTexts, u.UsesOnly eol) := by
  cases hinner : st.innerComments with
  | true =>
    obtain ⟨raw, -, rfl, -⟩ := render_eq_ok_of_inner hinner hr
    exact (UsesOnlyIff.withEol eol raw).congr (by simp [keptTexts, hinner])
  | false =>
    have hread := h.isRead
    have hr := (render_eq_ok hinner hr).2
    split at hr
    · rename_i hside
      obtain rfl := Except.ok.inj hr
      have hlist : UsesOnlyIff eol (if st.typeOnly then "\x7b\x7d from ".toList else []) True := by
        split <;> exact UsesOnlyIff.of_all rfl
      refine (((usesOnlyIff_opening st).append_right hlist).append_left
        (usesOnlyIff_source h.attributes)).congr ?_
      rw [forall_keptTexts_iff hinner, isSideEffect_iff.1 hside]
      simp
    · have hr := mapError_eq_ok_iff.1 hr
      exact (usesOnlyIff_renderBindings h hr).congr (forall_keptTexts_iff hinner).symm

/-- **The lines of a statement** have the line endings of the texts that it keeps: its comments are
written with the chosen one. -/
theorem usesOnlyIff_renderLines [Platform] (h : st.WellFormed d) {ls : List Text}
    (hr : renderLines s eol st = .ok ls) :
    UsesOnlyIff eol (Text.join eol.text ls) (∀ u ∈ st.keptTexts, u.UsesOnly eol) := by
  obtain ⟨text, htext, hret⟩ := Parser.ok_of_bind hr
  obtain rfl := Except.ok.inj hret
  rw [Text.join_concat]
  refine UsesOnlyIff.append_left ?_ ((usesOnlyIff_render h htext).append_right ?_)
  · rw [List.flatMap_map, List.flatMap_def]
    apply UsesOnlyIff.flatten
    intro line hline
    obtain ⟨comment, -, rfl⟩ := List.mem_map.1 hline
    exact (UsesOnlyIff.withEol eol comment).append_left (.ofEol eol)
  · split
    · exact UsesOnlyIff.append_left (t := [' ']) (UsesOnlyIff.of_all rfl) (.withEol eol _)
    · exact UsesOnlyIff.of_all rfl

end Statement

/-- **A written region** has the line endings of the texts that its statements keep. -/
theorem usesOnlyIff_renderRegion [Platform] {s : Settings} {groups : List (List Statement)}
    {t : Text} (h : ∀ group ∈ groups, ∀ st ∈ group, st.WellFormed d)
    (hr : renderRegion s eol groups = .ok t) :
    UsesOnlyIff eol t (∀ group ∈ groups, ∀ st ∈ group, ∀ u ∈ st.keptTexts, u.UsesOnly eol) := by
  obtain ⟨lsss, hlsss, rfl⟩ := exists_lines hr
  have hgroup : ∀ group ∈ groups, ∀ lss,
      List.Forall₂ (fun st ls => Statement.renderLines s eol st = .ok ls) group lss →
      UsesOnlyIff eol (Text.join eol.text (lss.map (Text.join eol.text)))
        (∀ st ∈ group, ∀ u ∈ st.keptTexts, u.UsesOnly eol) := by
    intro group hmem lss hlss
    refine UsesOnlyIff.join (.ofEol eol) (List.forall₂_map_right_iff.2 ?_)
    refine ((List.forall₂_and_left _ _).2 ⟨h group hmem, hlss⟩).imp ?_
    rintro st ls ⟨hst, hls⟩
    exact Statement.usesOnlyIff_renderLines hst hls
  refine UsesOnlyIff.join ((UsesOnlyIff.ofEol eol).times _) ?_
  rw [List.map_map, List.forall₂_map_right_iff]
  exact ((List.forall₂_and_left _ _).2 ⟨hgroup, hlsss⟩).imp fun group lss hlss => hlss.1 lss hlss.2

/-! ## Arranged statements -/

/-- The union of bindings has the names of all of them. -/
theorem Union.exists_name_iff {u : Union} {bs : List Binding} (hread : ∀ b ∈ bs, b.IsRead d)
    (h : ({} : Union).addAll bs = .ok u) (t : Text) :
    (∃ b ∈ u.bindings, b.name = t) ↔ ∃ b ∈ bs, b.name = t := by
  have hmem : ∀ a ∈ u.bindings, a ∈ bs := by
    intro a ha
    rcases Union.mem_addAll h a ha with ha | ha
    · simp [Union.bindings] at ha
    · exact ha
  constructor
  · rintro ⟨b, hb, rfl⟩
    exact ⟨b, hmem b hb, rfl⟩
  · rintro ⟨b, hb, rfl⟩
    obtain ⟨a, ha, hsame⟩ := List.mem_map.1
      ((Union.mem_signature_addAll Union.tidy_empty h b.signature).2
        (.inr (List.mem_map_of_mem hb)))
    refine ⟨a, ha, ?_⟩
    have hkind : a.kind = b.kind := congrArg Prod.fst hsame
    by_cases hnamed : b.kind = .namedExport
    · have hname := congrArg (·.2.1) hsame
      simpa [Binding.signature, hkind, hnamed] using hname
    · have hlocal : a.localName = b.localName := congrArg (·.2.2) hsame
      rw [((hread a (hmem a ha)).1 (hkind ▸ hnamed)).2, ((hread b hb).1 hnamed).2] at hlocal
      exact hlocal

namespace Statement

/-- The texts of statements with one key: those of the key, and the names. -/
theorem exists_mem_keptTexts_iff {key : MergeKey} {sts : List Statement} (hne : sts ≠ [])
    (h : ∀ st ∈ sts, st.innerComments = false ∧ st.mergeKey = key) (t : Text) :
    (∃ st ∈ sts, t ∈ st.keptTexts) ↔
      (t = key.specifier ∨ t ∈ key.attributes) ∨ ∃ b ∈ sts.flatMap (·.bindings), b.name = t := by
  have hmem : ∀ st ∈ sts, (t ∈ st.keptTexts ↔
      (t = key.specifier ∨ t ∈ key.attributes) ∨ ∃ b ∈ st.bindings, b.name = t) := by
    intro st hst
    obtain ⟨hinner, rfl⟩ := h st hst
    rw [keptTexts, if_neg (by simp [hinner])]
    simp [mergeKey, or_assoc]
  constructor
  · rintro ⟨st, hst, ht⟩
    refine ((hmem st hst).1 ht).imp_right ?_
    rintro ⟨b, hb, rfl⟩
    exact ⟨b, List.mem_flatMap.2 ⟨st, hst, hb⟩, rfl⟩
  · rintro (ht | ⟨b, hb, rfl⟩)
    · obtain ⟨st, hst⟩ := List.exists_mem_of_ne_nil sts hne
      exact ⟨st, hst, (hmem st hst).2 (.inl ht)⟩
    · obtain ⟨st, hst, hb⟩ := List.mem_flatMap.1 hb
      exact ⟨st, hst, (hmem st hst).2 (.inr ⟨b, hb, rfl⟩)⟩

/-- Combined statements keep the texts of those that they replace. -/
theorem exists_mem_keptTexts_combine {first : Statement} {others merged : List Statement}
    (hall : ∀ st ∈ first :: others, st.WellFormed d)
    (hkey : ∀ st ∈ first :: others, st.mergeKey = first.mergeKey)
    (h : first.combine others = .ok merged) (t : Text) :
    (∃ st ∈ merged, t ∈ st.keptTexts) ↔ ∃ st ∈ first :: others, t ∈ st.keptTexts := by
  obtain ⟨u, hu, hinner, rfl⟩ := combine_eq_ok h
  have hread : ∀ b ∈ (first :: others).flatMap (·.bindings), b.IsRead d := by
    intro b hb
    obtain ⟨st, hst, hb⟩ := List.mem_flatMap.1 hb
    exact (hall st hst).isRead b hb
  have hnew : ∀ st ∈ (mergedShapes first.typeOnly (first :: others) u).mapIdx
      (withShape first (first :: others)),
      st.innerComments = false ∧ st.mergeKey = first.mergeKey := by
    intro st hst
    refine ⟨?_, mergeKey_of_mem_mapIdx hst⟩
    obtain ⟨i, hi, rfl⟩ := List.mem_mapIdx.1 hst
    exact hinner first (by simp)
  have hne : (mergedShapes first.typeOnly (first :: others) u).mapIdx
      (withShape first (first :: others)) ≠ [] := by
    simpa using mergedShapes_ne_nil first.typeOnly (first :: others) u
  rw [exists_mem_keptTexts_iff hne hnew, flatMap_bindings_mapIdx, Union.exists_name_iff hread hu t]
  refine (exists_mem_keptTexts_iff (by simp) ?_ t).symm
  intro st hst
  exact ⟨hinner st hst, hkey st hst⟩

end Statement

theorem exists_mem_iff_of_forall₂ {α β : Type} {P : α → Prop} {Q : β → Prop} {as : List α}
    {bs : List β} (h : List.Forall₂ (fun a b => Q b ↔ P a) as bs) :
    (∃ b ∈ bs, Q b) ↔ ∃ a ∈ as, P a := by
  induction h with
  | nil => simp
  | cons hab _ ih => simp only [List.exists_mem_cons_iff, hab, ih]

theorem exists_mem_keptTexts_mergeDuplicates {ss out : List Statement}
    (hss : ∀ st ∈ ss, st.WellFormed d) (h : (mergeDuplicates ss).result = .ok out) (t : Text) :
    (∃ st ∈ out, t ∈ st.keptTexts) ↔ ∃ st ∈ ss, t ∈ st.keptTexts := by
  obtain ⟨ms, hclasses, rfl⟩ := mergeDuplicates_eq_ok h
  -- The statements of a class are those with one key, and every statement is in the class of its
  -- key.
  have hclass : ∀ c ∈ classesByKey ss, ∃ key, ∀ st ∈ c, st ∈ ss ∧ st.mergeKey = key := by
    intro c hc
    obtain ⟨st, -, rfl⟩ := mem_classesByKey.1 hc
    exact ⟨st.mergeKey, fun st' hst' => mem_ofKey.1 hst'⟩
  have hmerged : (∃ m ∈ ms, ∃ st ∈ m, t ∈ st.keptTexts) ↔
      ∃ c ∈ classesByKey ss, ∃ st ∈ c, t ∈ st.keptTexts := by
    apply exists_mem_iff_of_forall₂
    refine ((List.forall₂_and_left _ _).2 ⟨hclass, hclasses⟩).imp ?_
    rintro c m ⟨⟨key, hkey⟩, hm⟩
    rcases mergeClass_cases hm with ⟨-, rfl⟩ | ⟨first, others, rfl, hcombine⟩
    · rfl
    · refine Statement.exists_mem_keptTexts_combine (fun st hst => hss st (hkey st hst).1) ?_
        hcombine t
      intro st hst
      rw [(hkey st hst).2, (hkey first (by simp)).2]
  constructor
  · rintro ⟨st, hst, ht⟩
    obtain ⟨m, hm, hst⟩ := List.mem_flatten.1 hst
    obtain ⟨c, hc, st', hst', ht⟩ := hmerged.1 ⟨m, hm, st, hst, ht⟩
    obtain ⟨key, hkey⟩ := hclass c hc
    exact ⟨st', (hkey st' hst').1, ht⟩
  · rintro ⟨st, hst, ht⟩
    obtain ⟨m, hm, st', hst', ht⟩ := hmerged.2 ⟨ofKey st.mergeKey ss,
      mem_classesByKey.2 ⟨st, hst, rfl⟩, st, mem_ofKey.2 ⟨hst, rfl⟩, ht⟩
    exact ⟨st', List.mem_flatten.2 ⟨m, hm, hst'⟩, ht⟩

/-- **Arranged statements keep the texts** of those that were arranged. -/
theorem exists_mem_keptTexts_arrange [Platform] {s : Settings} {project : Option Project}
    {ss : List Statement} {groups : List (List Statement)} (hss : ∀ st ∈ ss, st.WellFormed d)
    (h : (arrange s project ss).result = .ok groups) (t : Text) :
    (∃ group ∈ groups, ∃ st ∈ group, t ∈ st.keptTexts) ↔ ∃ st ∈ ss, t ∈ st.keptTexts := by
  obtain ⟨gs, arranged, -, hclassified, harranged, rfl⟩ := arrange_eq_ok_iff.1 h
  have hmembers : (∃ group ∈ arranged, ∃ st ∈ group, t ∈ st.keptTexts) ↔
      ∃ position ∈ sortedPositions gs, ∃ st ∈ membersAt project gs position ss,
        t ∈ st.keptTexts := by
    apply exists_mem_iff_of_forall₂
    refine harranged.imp ?_
    rintro position group ⟨merged, hmerged, rfl⟩
    have hsorted : (∃ st ∈ sortStatements s merged, t ∈ st.keptTexts) ↔
        ∃ st ∈ merged, t ∈ st.keptTexts := by
      simp only [sortStatements, mem_inOrder]
    rw [hsorted]
    unfold mergedMembers at hmerged
    split at hmerged
    · exact exists_mem_keptTexts_mergeDuplicates
        (fun st hst => hss st (List.mem_filter.1 hst).1) hmerged t
    · obtain rfl := Except.ok.inj hmerged
      rfl
  constructor
  · rintro ⟨group, hgroup, hst⟩
    obtain ⟨position, -, st, hst, ht⟩ := hmembers.1 ⟨group, (List.mem_filter.1 hgroup).1, hst⟩
    exact ⟨st, (List.mem_filter.1 hst).1, ht⟩
  · rintro ⟨st, hst, ht⟩
    obtain ⟨g, hg⟩ := Option.isSome_iff_exists.1 (hclassified st hst)
    have hposition : g.position ∈ sortedPositions gs :=
      mem_inOrder.2 (List.mem_map_of_mem (List.mem_of_find?_eq_some hg))
    obtain ⟨group, hgroup, st', hst', ht⟩ := hmembers.2
      ⟨g.position, hposition, st, List.mem_filter.2 ⟨hst, by simp [hg]⟩, ht⟩
    refine ⟨group, List.mem_filter.2 ⟨hgroup, ?_⟩, st', hst', ht⟩
    simpa using List.ne_nil_of_mem hst'

/-- **Which regions have one line ending**: those of sources whose modules, attributes and imported
names have no other one. Whatever else a region is made of is written with the chosen ending. -/
theorem usesOnly_renderRegion_iff [Platform] {source : Text} {head : Head} {s : Settings}
    {project : Option Project} {gap : Nat} {groups : List (List Statement)} {t : Text}
    (hparse : Head.parse source d = .ok head)
    (harrange : (arrange s project (head.statements gap)).result = .ok groups)
    (hr : renderRegion s eol groups = .ok t) :
    t.UsesOnly eol ↔ ∀ st ∈ head.statements gap, ∀ u ∈ st.keptTexts, u.UsesOnly eol := by
  have hstatements := Head.wellFormed_statements hparse gap
  have hgroups := wellFormed_arrange hstatements harrange
  have hkept := exists_mem_keptTexts_arrange hstatements harrange
  rw [(usesOnlyIff_renderRegion (fun group hgroup => (hgroups group hgroup).2) hr).iff]
  constructor
  · intro hall st hst u hu
    obtain ⟨group, hgroup, st', hst', hu⟩ := (hkept u).2 ⟨st, hst, hu⟩
    exact hall group hgroup st' hst' u hu
  · intro hall group hgroup st hst u hu
    obtain ⟨st', hst', hu⟩ := (hkept u).1 ⟨group, hgroup, st, hst, hu⟩
    exact hall st' hst' u hu

/-- A source with attributes over two lines. -/
def attributedSource : Text :=
  "import b from 'b' with \x7b\n  type: 'json' \x7d;\nimport a from 'a';\n".toList

/-- The region that is written for the source with pairs as line endings. -/
def attributedRegion : Text :=
  "import a from 'a';\r\nimport b from 'b' with \x7b\n  type: 'json' \x7d;".toList

section Usual

attribute [local instance] Platform.usual

/-- The attributes keep their line feed. -/
theorem not_usesOnly_attributedRegion : ∃ head groups,
    Head.parse attributedSource ⟨true, false⟩ = .ok head ∧
      (arrange {} none (head.statements 1)).result = .ok groups ∧
      renderRegion {} .crlf groups = .ok attributedRegion ∧ ¬attributedRegion.UsesOnly .crlf ∧
      ∃ st ∈ head.statements 1, ∃ u ∈ st.keptTexts, ¬u.UsesOnly .crlf := by
  have hwritten : (Head.parse attributedSource ⟨true, false⟩).toOption.bind (fun head =>
      (arrange {} none (head.statements 1)).result.toOption.bind fun groups =>
        (renderRegion {} .crlf groups).toOption) = some attributedRegion := by
    decide +kernel
  obtain ⟨head, hparse, hrest⟩ := Option.bind_eq_some_iff.1 hwritten
  obtain ⟨groups, harrange, hr⟩ := Option.bind_eq_some_iff.1 hrest
  have hparse := Except.eq_ok_of_toOption hparse
  have harrange := Except.eq_ok_of_toOption harrange
  have hr := Except.eq_ok_of_toOption hr
  have hnot : ¬attributedRegion.UsesOnly .crlf := by decide +kernel
  refine ⟨head, groups, hparse, harrange, hr, hnot, ?_⟩
  rw [usesOnly_renderRegion_iff hparse harrange hr] at hnot
  simpa using hnot

end Usual

end ImportOrder
