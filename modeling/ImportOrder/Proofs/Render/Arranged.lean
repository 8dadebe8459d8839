import ImportOrder.Proofs.Arrangement.Buckets
import ImportOrder.Proofs.Render.Sentence

/-!
# Arranged statements

The statements of a source are well formed: their parts are words of the grammar and lines of
comments. Merging and sorting keep them so, and no statement gets lost on the way to its group.

## Main results

* `Layout.wellFormed_statements`: the statements of a head are well formed
* `wellFormed_arrange`: so are arranged statements
* `arrange_ne_nil`: there are groups if there are statements
-/

namespace ImportOrder

open Grammar Piece

variable {d : Dialect}

/-! ## Bindings of a clause -/

namespace Grammar

theorem isItem_of_items {ws : List Word} {bs : List Binding} (h : Items d ws bs)
    (hws : ∀ w ∈ ws, w.Whole) : ∀ b ∈ bs, b.IsItem d := by
  induction h with
  | close => simp
  | last hitem =>
    intro b hb
    obtain rfl := List.mem_singleton.1 hb
    exact ⟨_, _, hitem, fun w hw => hws w (by simp [hw])⟩
  | more hitem _ _ ih =>
    intro b hb
    rcases List.mem_cons.1 hb with rfl | hb
    · exact ⟨_, _, hitem, fun w hw => hws w (by simp [hw])⟩
    · exact ih (fun w hw => hws w (by simp [hw])) b hb

theorem exists_of_starOrList {ws : List Word} {bs : List Binding} (h : StarOrList d ws bs)
    (hws : ∀ w ∈ ws, w.Whole) :
    ∃ ns named, bs = headBindings none ns ++ named ∧ (∀ m ∈ ns, (Word.name m).Whole) ∧
      (∀ b ∈ named, b.IsItem d) ∧ (ns.isSome = true → named = []) := by
  cases h with
  | star m =>
    refine ⟨some m, [], rfl, ?_, by simp, fun _ => rfl⟩
    intro n hn
    obtain rfl := Option.some.inj hn
    exact hws _ (by simp)
  | list hitems =>
    refine ⟨none, bs, rfl, by simp, ?_, by simp⟩
    exact isItem_of_items hitems fun w hw => hws w (by simp [hw])

/-- The bindings of a declaration are its heads and the names of its list. -/
theorem exists_of_core {ws : List Word} {bs : List Binding} (h : Core d ws bs)
    (hws : ∀ w ∈ ws, w.Whole) :
    ∃ dflt ns named, bs = headBindings dflt ns ++ named ∧ AreBindings d false dflt ns named ∧
      ((ws.head? = some (.name "from".toList) → ws.length = 1) → dflt = some "from".toList →
        ns = none ∧ named = []) := by
  cases h with
  | default n =>
    refine ⟨some n, none, [], rfl, ⟨?_, by simp, by simp, by simp, by simp, by simp⟩, by simp⟩
    intro m hm
    obtain rfl := Option.some.inj hm
    exact hws _ (by simp)
  | rest hrest =>
    obtain ⟨ns, named, hbs, hns, hnamed, hapart⟩ := exists_of_starOrList hrest hws
    exact ⟨none, ns, named, hbs, ⟨by simp, hns, hnamed, hapart, by simp, by simp⟩, by simp⟩
  | both n hrest =>
    obtain ⟨ns, named, rfl, hns, hnamed, hapart⟩ :=
      exists_of_starOrList hrest fun w hw => hws w (by simp [hw])
    refine ⟨some n, ns, named, rfl, ⟨?_, hns, hnamed, hapart, by simp, by simp⟩, ?_⟩
    · intro m hm
      obtain rfl := Option.some.inj hm
      exact hws _ (by simp)
    · intro hfrom hn
      obtain rfl := Option.some.inj hn
      simp at hfrom

theorem exists_of_clause {ws : List Word} {bs : List Binding} {typeOnly : Bool}
    (h : Clause d ws bs typeOnly) (hws : ∀ w ∈ ws, w.Whole) :
    ∃ dflt ns named, bs = headBindings dflt ns ++ named ∧
      AreBindings d typeOnly dflt ns named := by
  cases h with
  | nothing => exact ⟨none, none, [], rfl, by constructor <;> simp⟩
  | plain hcore =>
    obtain ⟨dflt, ns, named, hbs, hbind, -⟩ :=
      exists_of_core hcore fun w hw => hws w (by simp [hw])
    exact ⟨dflt, ns, named, hbs, hbind⟩
  | typed ht hcore hfrom =>
    obtain ⟨dflt, ns, named, hbs, hbind, halone⟩ :=
      exists_of_core hcore fun w hw => hws w (by simp [hw])
    exact ⟨dflt, ns, named, hbs, { hbind with
      typed := fun _ => ht
      typedFrom := fun _ => halone hfrom }⟩

end Grammar

/-! ## Comments -/

namespace Piece

theorem mem_splitLines {ps l : List Piece} (h : l ∈ splitLines ps) :
    (∃ us vs, ps = us ++ (l ++ vs)) ∧ ∀ p ∈ l, p.isBreak = false := by
  induction ps generalizing l with
  | nil =>
    obtain rfl : l = [] := by simpa [splitLines] using h
    exact ⟨⟨[], [], rfl⟩, by simp⟩
  | cons p ps ih =>
    obtain ⟨ls, hls⟩ := splitLines_eq ps
    have hmore : ∀ {l}, l ∈ splitLines ps → (∃ us vs, p :: ps = us ++ (l ++ vs)) ∧
        ∀ q ∈ l, q.isBreak = false := by
      intro l hl
      obtain ⟨⟨us, vs, hrow⟩, hbreak⟩ := ih hl
      exact ⟨⟨p :: us, vs, by rw [hrow]; rfl⟩, hbreak⟩
    rw [splitLines] at h
    split at h
    · rcases List.mem_cons.1 h with rfl | h
      · exact ⟨⟨[], p :: ps, rfl⟩, by simp⟩
      · exact hmore h
    · rename_i hp
      rw [hls] at h
      rcases List.mem_cons.1 h with rfl | h
      · refine ⟨⟨[], below ps, ?_⟩, ?_⟩
        · rw [List.nil_append, List.cons_append, sameLine_append_below]
        · intro q hq
          rcases List.mem_cons.1 hq with rfl | hq
          · simpa using hp
          · exact (ih (l := sameLine ps) (by simp [hls])).2 q hq
      · exact hmore (by simp [hls, h])

theorem exists_core_of_stretch? {ps : List Piece} {t : Text} (h : stretch? ps = some t) :
    ∃ bs core bs', ps = bs ++ (core ++ bs') ∧ IsStretch core ∧ textOf core = t := by
  induction ps using comment_induction with
  | blank bs hbs =>
    rw [stretch?_eq_none hbs] at h
    cases h
  | comment bs c ps hbs hc _ =>
    obtain ⟨core, bs', hrow, hcore, hbs'⟩ := exists_stretch_cons hc ps
    rw [hrow, stretch?_eq_some hbs hcore hbs'] at h
    exact ⟨bs, core, bs', by rw [hrow], hcore, Option.some.inj h⟩

theorem kind_ne_bad_of_isGap {p : Piece} (h : p.isGap = true) : p.kind ≠ .bad := by
  intro hbad
  simp [isGap, hbad, PieceKind.token?] at h

/-- The stretch of comments on a line of a source is a line of comments. -/
theorem isCommentLine_of_stretch? {ps : List Piece} {t : Text} (hcut : IsCut ps)
    (hgap : ∀ p ∈ ps, p.isGap = true) (hbreak : ∀ p ∈ ps, p.isBreak = false)
    (h : stretch? ps = some t) : IsCommentLine t := by
  obtain ⟨bs, core, bs', rfl, hcore, rfl⟩ := exists_core_of_stretch? h
  have hmem : ∀ p ∈ core, p ∈ bs ++ (core ++ bs') := by
    intro p hp
    simp [hp]
  refine ⟨core, rfl, hcore, fun p hp => ⟨hgap p (hmem p hp), hbreak p (hmem p hp)⟩, ?_⟩
  exact hcut.right.left.chained fun p hp => kind_ne_bad_of_isGap (hgap p (hmem p hp))

theorem isCommentLine_of_mem_lines {ps : List Piece} {t : Text} (hcut : IsCut ps)
    (hgap : ∀ p ∈ ps, p.isGap = true) (h : t ∈ lines ps) : IsCommentLine t := by
  obtain ⟨l, hl, ht⟩ := List.mem_filterMap.1 h
  obtain ⟨⟨us, vs, rfl⟩, hbreak⟩ := mem_splitLines hl
  exact isCommentLine_of_stretch? hcut.right.left
    (fun p hp => hgap p (by simp [hp])) hbreak ht

theorem whole_of_mem_words {ps : List Piece} (h : ∀ p ∈ ps, StandsBefore p []) {w : Word}
    (hw : w ∈ words ps) : w.Whole := by
  obtain ⟨p, hp, hword⟩ := List.mem_filterMap.1 hw
  obtain ⟨k, hk, rfl⟩ := Option.map_eq_some_iff.1 hword
  exact ⟨p.kind, hk, h p hp⟩

/-- Pieces are not bad if no word among them is. -/
theorem kind_ne_bad_of_words {ps : List Piece} (h : ∀ w ∈ words ps, w.kind ≠ .bad) :
    ∀ p ∈ ps, p.kind ≠ .bad := by
  intro p hp hbad
  refine h ⟨.bad, p.text⟩ (List.mem_filterMap.2 ⟨p, hp, ?_⟩) rfl
  simp [word?, hbad, PieceKind.token?]

/-- The last piece of a run is its last word. -/
theorem getLast?_of_isRun {ps : List Piece} (h : Token.IsRun ps) {w : Word} {ws : List Word}
    (hws : words ps = ws ++ [w]) : ∃ init p, ps = init ++ [p] ∧ p.word? = some w := by
  obtain ⟨init, p, rfl, hp⟩ := h.last
  obtain ⟨k, hk⟩ := exists_token_of_isGap hp
  have hword : p.word? = some ⟨k, p.text⟩ := by simp [word?, hk]
  rw [words_append, words_cons, hword] at hws
  have hlast := congrArg List.getLast? hws
  simp only [Option.toList_some, words_nil, List.append_nil, List.getLast?_append,
    List.getLast?_singleton, Option.some_or, Option.some.injEq] at hlast
  exact ⟨init, p, rfl, by rw [hword, hlast]⟩

theorem kind_ne_bad_of_attributes {ps : List Piece} (h : Attributes (words ps)) :
    ∀ p ∈ ps, p.kind ≠ .bad := by
  obtain ⟨keyword, body, hrow, hkeyword, hbody⟩ := h
  apply kind_ne_bad_of_words
  intro w hw
  rw [hrow, List.mem_cons, List.mem_cons, List.mem_append, List.mem_singleton] at hw
  rcases hw with rfl | rfl | hw | rfl
  · rcases hkeyword with rfl | rfl <;> simp
  · simp
  · exact (hbody w hw).2
  · simp

/-- Attributes end in a brace, and anything may follow it. -/
theorem endsBefore_of_attributes {ps : List Piece} (hrun : Token.IsRun ps)
    (h : Attributes (words ps)) (next : Option Char) :
    ∀ p ∈ ps.getLast?, p.endsBefore next = true := by
  obtain ⟨keyword, body, hrow, -, -⟩ := h
  obtain ⟨init, p, hps, hp⟩ := @getLast?_of_isRun ps hrun (.punct '\x7d')
    (keyword :: .punct '\x7b' :: body) (by simpa using hrow)
  obtain ⟨k, hk, hword⟩ := Option.map_eq_some_iff.1 hp
  obtain ⟨rfl, htext⟩ : k = .punct ∧ p.text = ['\x7d'] := by simpa [Word.punct] using hword
  have hkind : p.kind = .punct := by
    cases hpk : p.kind <;> simp_all [PieceKind.token?]
  intro q hq
  obtain rfl : p = q := by simpa [hps] using hq
  simp [endsBefore, hkind, htext]

theorem isAttributesText {ps : List Piece} (hcut : IsCut ps) (hrun : Token.IsRun ps)
    (hwords : Attributes (words ps)) : IsAttributesText (textOf ps) := by
  have hchain := hcut.chained (kind_ne_bad_of_attributes hwords)
  have hscan : scan (textOf ps) = ps := by simpa using @scan_of_chained ps [] hchain
  refine ⟨by rwa [hscan], by rwa [hscan], ?_⟩
  intro next
  rw [hscan]
  exact hchain.before (endsBefore_of_attributes hrun hwords next)

end Piece

/-! ## Statements of a source -/

namespace Layout

theorem wellFormed_statement {s : Sentence} {offset index : Nat} {leading trailing : List Piece}
    (hs : s.IsValid d) (hcut : IsCut s.pieces) (hlead : IsCut leading)
    (hleadGap : ∀ p ∈ leading, p.isGap = true) (htrail : IsCut trailing)
    (htrailGap : ∀ p ∈ trailing, p.isGap = true) (hbreak : ∀ p ∈ trailing, p.isBreak = false) :
    (statement s offset index leading trailing).WellFormed d := by
  have hstands := hcut.standsBefore
  constructor
  · have hwhole : (⟨.string, s.target⟩ : Word).Whole :=
      ⟨.string, rfl, hstands ⟨.string, s.target⟩ (by simp [Sentence.pieces])⟩
    obtain ⟨q, body, htarget, hbody⟩ := Word.whole_string_iff.1 hwhole
    simpa [statement, htarget, Quote.enclose] using hbody
  · obtain ⟨ps, hclause, hwords⟩ := hs.clause
    refine exists_of_clause hwords fun w hw => whole_of_mem_words ?_ hw
    intro p hp
    exact hstands p (by simp [Sentence.pieces, hclause, hp])
  · intro t ht
    obtain ⟨⟨gap, as⟩, has, rfl⟩ := Option.map_eq_some_iff.1 ht
    obtain ⟨-, hrun, hattributes⟩ := hs.attributes gap as has
    refine isAttributesText ?_ hrun hattributes
    have hrow : s.pieces =
        (s.clause ++ ⟨.string, s.target⟩ :: gap) ++ (as ++ s.semicolonPieces) := by
      simp [Sentence.pieces, Sentence.attributePieces, has]
    rw [hrow] at hcut
    exact hcut.right.left
  · intro line hline
    exact isCommentLine_of_mem_lines hlead hleadGap hline
  · intro t ht
    exact isCommentLine_of_stretch? htrail htrailGap hbreak ht
  · intro t ht
    obtain rfl := Option.some.inj ht
    exact ⟨s, rfl, hs, hcut, rfl, rfl⟩

theorem isBreak_of_mem_sameLine {ps : List Piece} : ∀ p ∈ sameLine ps, p.isBreak = false := by
  intro p hp
  simpa using List.mem_takeWhile_imp hp

theorem wellFormed_statementsFrom {s : Sentence} {offset index : Nat}
    {leading gap tail : List Piece}
    {gs : List Segment} (hs : s.IsValid d) (hgs : Segment.AreValid d gs tail)
    (hcut : IsCut (leading ++ (s.pieces ++ (Segment.row gs ++ gap))))
    (hlead : ∀ p ∈ leading, p.isGap = true) (hgap : ∀ p ∈ gap, p.isGap = true) :
    ∀ st ∈ statementsFrom offset index leading s gs gap, st.WellFormed d := by
  -- A gap is cut at its first line break into comments behind a statement and comments above one.
  have hpart : ∀ {ps : List Piece}, (∀ p ∈ ps, p.isGap = true) → IsCut ps →
      IsCut (sameLine ps) ∧ (∀ p ∈ sameLine ps, p.isGap = true) ∧
        IsCut (below ps) ∧ ∀ p ∈ below ps, p.isGap = true := by
    intro ps hps hcut
    have hcut' := hcut
    rw [← sameLine_append_below ps] at hcut'
    exact ⟨hcut'.left, fun p hp => hps p ((List.takeWhile_sublist _).mem hp), hcut'.right,
      fun p hp => hps p ((List.dropWhile_sublist _).mem hp)⟩
  induction gs generalizing s offset index leading with
  | nil =>
    obtain ⟨hsame, hsameGap, -, -⟩ := hpart hgap hcut.right.right
    intro st hst
    obtain rfl := List.mem_singleton.1 hst
    exact wellFormed_statement hs hcut.right.left hcut.left hlead hsame hsameGap
      isBreak_of_mem_sameLine
  | cons g gs ih =>
    obtain ⟨hg, hsg, -, hgs⟩ := hgs
    have hrest := hcut.right.right
    rw [Segment.row_cons, List.append_assoc, List.append_assoc] at hrest
    obtain ⟨hsame, hsameGap, hbelow, hbelowGap⟩ := hpart hg hrest.left
    intro st hst
    rcases List.mem_cons.1 hst with rfl | hst
    · exact wellFormed_statement hs hcut.right.left hcut.left hlead hsame hsameGap
        isBreak_of_mem_sameLine
    · refine ih hsg hgs ?_ hbelowGap st hst
      rw [← sameLine_append_below g.gap, List.append_assoc] at hrest
      exact hrest.right

/-- **The statements of a head** are well formed. -/
theorem wellFormed_statements {l : Layout} (h : l.IsValid d) (gap : Nat) :
    ∀ st ∈ (l.head d).statements gap, st.WellFormed d := by
  obtain ⟨g, gs, hsegments⟩ := List.exists_cons_of_ne_nil h.nonempty
  obtain ⟨us, vs, hgap, hleading, -, -⟩ := exists_leading h hsegments gap
  rw [statements_head h hsegments hgap hleading]
  have hvalid := h.segments
  rw [hsegments] at hvalid
  obtain ⟨hg, hsg, -, hgs⟩ := hvalid
  have hcut := isCut_of_scan h.pieces
  rw [pieces, hsegments, Segment.row_cons, hgap] at hcut
  simp only [← List.append_assoc] at hcut
  simp only [List.append_assoc] at hcut
  refine wellFormed_statementsFrom hsg hgs ?_ (fun p hp => hg p (by simp [hgap, hp])) h.gap
  have hrow := hcut.right.right
  rw [show vs ++ (g.sentence.pieces ++ (Segment.row gs ++ (l.gap ++ l.code))) =
    (vs ++ (g.sentence.pieces ++ (Segment.row gs ++ l.gap))) ++ l.code by simp] at hrow
  exact hrow.left

end Layout

/-! ## Merged statements -/

namespace Binding

/-- **A binding as sources give them.** -/
def IsRead (d : Dialect) (b : Binding) : Prop :=
  (b.kind ≠ .namedExport → (Word.name b.name).Whole ∧ b = ⟨b.kind, b.name, none, false⟩) ∧
    (b.kind = .namedExport → b.IsItem d)

theorem isRead_of_areBindings {typeOnly : Bool} {dflt ns : Option Text} {named : List Binding}
    (h : AreBindings d typeOnly dflt ns named) :
    ∀ b ∈ headBindings dflt ns ++ named, b.IsRead d := by
  intro b hb
  rcases List.mem_append.1 hb with hb | hb
  · rcases List.mem_append.1 hb with hb | hb
    · obtain ⟨n, hn, rfl⟩ := List.mem_map.1 hb
      exact ⟨fun _ => ⟨h.wholeDefault n (Option.mem_toList.1 hn), rfl⟩, by simp⟩
    · obtain ⟨m, hm, rfl⟩ := List.mem_map.1 hb
      exact ⟨fun _ => ⟨h.wholeNamespace m (Option.mem_toList.1 hm), rfl⟩, by simp⟩
  · obtain ⟨ws, bare, hitem, -⟩ := h.items b hb
    exact ⟨fun hk => absurd (item_kind hitem) hk, fun _ => h.items b hb⟩

/-- A default or namespace binding is given by its name. -/
theorem exists_name {kind : BindingKind} (hkind : kind ≠ .namedExport) {head : Option Binding}
    (h : ∀ b ∈ head, b.IsRead d ∧ b.kind = kind) :
    ∃ name : Option Text, head.toList = name.toList.map (⟨kind, ·, none, false⟩) ∧
      ∀ n ∈ name, (Word.name n).Whole := by
  cases head with
  | none => exact ⟨none, rfl, by simp⟩
  | some b =>
    obtain ⟨⟨hread, -⟩, rfl⟩ := h b rfl
    obtain ⟨hwhole, heq⟩ := hread hkind
    refine ⟨some b.name, by rw [heq]; rfl, ?_⟩
    intro n hn
    obtain rfl := Option.some.inj hn
    exact hwhole

end Binding

/-- The bindings of a shape are those of a declaration. -/
theorem Union.areBindings_of_mem_shapes {u : Union} (hu : u.Tidy) {typeOnly : Bool}
    {shape : List Binding} (hread : ∀ b ∈ u.bindings, b.IsRead d)
    (htyped : typeOnly = true → d.typescript = true) (h : shape ∈ u.shapes typeOnly) :
    ∃ dflt ns named, shape = headBindings dflt ns ++ named ∧
      AreBindings d typeOnly dflt ns named := by
  obtain ⟨dflt, ns, named, rfl, hdflt, hns, hnamed, hapart, halone⟩ := mem_shapes h
  have hdflt' : ∀ b ∈ dflt, b.IsRead d ∧ b.kind = .defaultExport := by
    intro b hb
    rcases hdflt with rfl | rfl
    · cases hb
    · exact ⟨hread b (mem_bindings.2 (.inl hb)), hu.default b hb⟩
  have hns' : ∀ b ∈ ns, b.IsRead d ∧ b.kind = .namespaceObject := by
    intro b hb
    rcases hns with rfl | rfl
    · cases hb
    · exact ⟨hread b (mem_bindings.2 (.inr (.inl hb))), hu.ns b hb⟩
  have hitems : ∀ b ∈ named, b.IsItem d := by
    intro b hb
    rcases hnamed with rfl | rfl
    · simp at hb
    · exact (hread b (mem_bindings.2 (.inr (.inr hb)))).2 (hu.named b hb)
  obtain ⟨n, hn, hnwhole⟩ := Binding.exists_name (by simp) hdflt'
  obtain ⟨m, hm, hmwhole⟩ := Binding.exists_name (by simp) hns'
  have hsome : ∀ {o : Option Binding} {n : Option Text} {f : Text → Binding},
      o.toList = n.toList.map f → o.isSome = n.isSome := by
    intro o n f h
    cases o <;> cases n <;> simp_all
  refine ⟨n, m, named, by rw [hn, hm, headBindings, List.append_assoc],
    hnwhole, hmwhole, hitems, ?_, htyped, ?_⟩
  · intro hm'
    exact hapart ((hsome hm).trans hm')
  · rintro htype rfl
    obtain ⟨hnone, hnil⟩ := halone htype (hsome hn)
    refine ⟨?_, hnil⟩
    have hm' := hsome hm
    rw [hnone] at hm'
    exact Option.isNone_iff_eq_none.1 (by simpa using hm'.symm)

namespace Statement

theorem mem_mergedLeading {taken : Bool} {group : List Statement} {line : Text}
    (h : line ∈ mergedLeading taken group) :
    ∃ st ∈ group, line ∈ st.leadingComments ∨ line ∈ st.trailingComment := by
  induction group generalizing taken with
  | nil => simp [mergedLeading] at h
  | cons st group ih =>
    rw [mergedLeading, List.mem_append, List.mem_append] at h
    rcases h with (h | h) | h
    · exact ⟨st, by simp, .inl h⟩
    · refine ⟨st, by simp, .inr ?_⟩
      cases taken <;> simp_all
    · obtain ⟨st', hst', hline⟩ := ih h
      exact ⟨st', by simp [hst'], hline⟩

/-- **Combined statements** are well formed. -/
theorem wellFormed_combine {first : Statement} {others merged : List Statement}
    (hall : ∀ st ∈ first :: others, st.WellFormed d) (h : first.combine others = .ok merged) :
    ∀ st ∈ merged, st.WellFormed d := by
  obtain ⟨u, hu, -, rfl⟩ := combine_eq_ok h
  have hfirst := hall first (by simp)
  have hread : ∀ b ∈ u.bindings, b.IsRead d := by
    intro b hb
    rcases Union.mem_addAll hu b hb with hb | hb
    · simp [Union.bindings] at hb
    · obtain ⟨st, hst, hb⟩ := List.mem_flatMap.1 hb
      obtain ⟨dflt, ns, named, hbs, hbind⟩ := (hall st hst).bindings
      rw [hbs] at hb
      exact Binding.isRead_of_areBindings hbind b hb
  have htyped : first.typeOnly = true → d.typescript = true := by
    obtain ⟨dflt, ns, named, -, hbind⟩ := hfirst.bindings
    exact hbind.typed
  intro st hst
  obtain ⟨i, hi, rfl⟩ := List.mem_mapIdx.1 hst
  refine ⟨hfirst.target, ?_, hfirst.attributes, ?_, ?_, by simp [withShape]⟩
  · rcases mem_mergedShapes (List.getElem_mem hi) with hnil | hmem
    · refine ⟨none, none, [], hnil, ⟨by simp, by simp, by simp, by simp, htyped, by simp⟩⟩
    · exact Union.areBindings_of_mem_shapes (Union.tidy_empty.addAll hu) hread htyped hmem
  · intro line hline
    simp only [withShape] at hline
    split at hline
    · obtain ⟨st, hst, hline⟩ := mem_mergedLeading hline
      exact hline.elim ((hall st hst).leading line) ((hall st hst).trailing line)
    · simp at hline
  · intro t ht
    simp only [withShape] at ht
    split at ht
    · obtain ⟨st, hst, ht⟩ := List.exists_of_findSome?_eq_some ht
      exact (hall st hst).trailing t ht
    · cases ht

end Statement

/-! ## Groups of statements -/

/-- What holds of statements and is kept by combining holds of merged statements. -/
theorem forall_mem_mergeDuplicates {P : Statement → Prop}
    (hcombine : ∀ {first : Statement} {others merged : List Statement},
      (∀ st ∈ first :: others, P st) → first.combine others = .ok merged → ∀ st ∈ merged, P st)
    {ss out : List Statement} (hss : ∀ st ∈ ss, P st)
    (h : (mergeDuplicates ss).result = .ok out) : ∀ st ∈ out, P st := by
  obtain ⟨ms, hclasses, rfl⟩ := mergeDuplicates_eq_ok h
  intro st hst
  obtain ⟨m, hm, hst⟩ := List.mem_flatten.1 hst
  obtain ⟨c, hc, hmerge⟩ := exists_mem_of_forall₂ hclasses hm
  have hclass : ∀ st ∈ c, P st := by
    intro st hst
    obtain ⟨st', -, rfl⟩ := mem_classesByKey.1 hc
    exact hss st (mem_ofKey.1 hst).1
  rcases mergeClass_cases hmerge with ⟨-, rfl⟩ | ⟨first, others, rfl, hcombined⟩
  · exact hclass st hst
  · exact hcombine hclass hcombined st hst

/-- What holds of statements and is kept by combining holds of arranged statements. -/
theorem forall_mem_arrange [Platform] {P : Statement → Prop}
    (hcombine : ∀ {first : Statement} {others merged : List Statement},
      (∀ st ∈ first :: others, P st) → first.combine others = .ok merged → ∀ st ∈ merged, P st)
    {s : Settings} {project : Option Project} {ss : List Statement}
    {groups : List (List Statement)} (hss : ∀ st ∈ ss, P st)
    (h : (arrange s project ss).result = .ok groups) :
    ∀ group ∈ groups, group ≠ [] ∧ ∀ st ∈ group, P st := by
  obtain ⟨gs, arranged, -, -, harranged, rfl⟩ := arrange_eq_ok_iff.1 h
  intro group hgroup
  obtain ⟨hgroup, hne⟩ := List.mem_filter.1 hgroup
  refine ⟨by simpa using hne, ?_⟩
  obtain ⟨position, -, merged, hmerged, rfl⟩ := exists_mem_of_forall₂ harranged hgroup
  have hall : ∀ st ∈ membersAt project gs position ss, P st :=
    fun st hst => hss st (List.mem_filter.1 hst).1
  intro st hst
  have hst := mem_inOrder.1 hst
  unfold mergedMembers at hmerged
  split at hmerged
  · exact forall_mem_mergeDuplicates hcombine hall hmerged st hst
  · obtain rfl := Except.ok.inj hmerged
    exact hall st hst

/-- **Arranged statements** are well formed, and no group is empty. -/
theorem wellFormed_arrange [Platform] {s : Settings} {project : Option Project}
    {ss : List Statement} {groups : List (List Statement)} (hss : ∀ st ∈ ss, st.WellFormed d)
    (h : (arrange s project ss).result = .ok groups) :
    ∀ group ∈ groups, group ≠ [] ∧ ∀ st ∈ group, st.WellFormed d :=
  forall_mem_arrange Statement.wellFormed_combine hss h

/-- There are groups if there are statements. -/
theorem arrange_ne_nil [Platform] {s : Settings} {project : Option Project} {ss : List Statement}
    {groups : List (List Statement)} (hne : ss ≠ [])
    (h : (arrange s project ss).result = .ok groups) : groups ≠ [] := by
  obtain ⟨gs, arranged, -, hclassified, harranged, rfl⟩ := arrange_eq_ok_iff.1 h
  obtain ⟨st, hst⟩ := List.exists_mem_of_ne_nil _ hne
  obtain ⟨g, hg⟩ := Option.isSome_iff_exists.1 (hclassified st hst)
  have hposition : g.position ∈ sortedPositions gs :=
    mem_inOrder.2 (List.mem_map_of_mem (List.mem_of_find?_eq_some hg))
  obtain ⟨group, hgroup, merged, hmerged, rfl⟩ :=
    exists_mem_of_forall₂ (List.Forall₂.flip (R := flip _) harranged) hposition
  have hsorted := sortStatements_ne_nil_of_classified hst hg hmerged
  exact List.ne_nil_of_mem (List.mem_filter.2 ⟨hgroup, by simpa using hsorted⟩)

end ImportOrder
