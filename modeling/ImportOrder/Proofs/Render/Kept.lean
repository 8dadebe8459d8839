import ImportOrder.Proofs.Render.Arranged

/-!
# Statements kept as they are

A statement with comments inside is written as it was read, with other line endings. Only line
breaks, comments and strings change by that, so that it stays a sentence of the grammar.

## Main definitions

* `Word.withEol`: a word with other line endings
* `Sentence.withEol`: a sentence with other line endings

## Main results

* `Grammar.clause_map`: words of a clause may be replaced if only strings change
* `Statement.exists_kept`: a statement kept as it is stays a sentence
-/

namespace ImportOrder

open Grammar Piece

variable {d : Dialect}

/-! ## Words replaced by others -/

namespace Grammar

variable {f : Word → Word}

/-- Words that may replace others: only strings change, and all stay whole. -/
structure Replaces (f : Word → Word) (ws : List Word) : Prop where
  kind : ∀ w ∈ ws, (f w).kind = w.kind
  self : ∀ w ∈ ws, w.kind ≠ .string → f w = w
  whole : ∀ w ∈ ws, (f w).Whole

theorem Replaces.mono {ws ws' : List Word} (h : Replaces f ws) (hsub : ∀ w ∈ ws', w ∈ ws) :
    Replaces f ws' :=
  ⟨fun w hw => h.kind w (hsub w hw), fun w hw => h.self w (hsub w hw),
    fun w hw => h.whole w (hsub w hw)⟩

theorem Replaces.punct {ws : List Word} (h : Replaces f ws) {c : Char} (hc : .punct c ∈ ws) :
    f (.punct c) = .punct c := h.self _ hc (by simp)

theorem Replaces.name {ws : List Word} (h : Replaces f ws) {n : Text} (hn : .name n ∈ ws) :
    f (.name n) = .name n := h.self _ hn (by simp)

theorem items_map {ws : List Word} {bs : List Binding} (h : Items d ws bs) (hf : Replaces f ws) :
    ∃ bs', Items d (ws.map f) bs' ∧ (bs' = [] → bs = []) := by
  induction h with
  | close =>
    refine ⟨[], ?_, fun _ => rfl⟩
    rw [List.map_singleton, hf.punct (by simp)]
    exact .close
  | @last ws b bare hitem =>
    have hws : Replaces f ws := hf.mono fun w hw => by simp [hw]
    obtain ⟨w, -, -, hmap⟩ := item_map hitem hws.kind hws.self hws.whole
    refine ⟨[{ b with name := (f w).text }], ?_, fun hnil => by cases hnil⟩
    rw [List.map_append, List.map_singleton, hf.punct (by simp)]
    exact .last hmap
  | @more ws ws' b bs bare hitem _ hbare ih =>
    have hws : Replaces f ws := hf.mono fun w hw => by simp [hw]
    obtain ⟨w, -, -, hmap⟩ := item_map hitem hws.kind hws.self hws.whole
    obtain ⟨bs', hbs', hnil⟩ := ih (hf.mono fun w hw => by simp [hw])
    refine ⟨{ b with name := (f w).text } :: bs', ?_, fun hnil => by cases hnil⟩
    rw [List.map_append, List.map_cons, hf.punct (by simp)]
    exact .more hmap hbs' fun htrue hbs => hbare htrue (hnil hbs)

theorem starOrList_map {ws : List Word} {bs : List Binding} (h : StarOrList d ws bs)
    (hf : Replaces f ws) : ∃ bs', StarOrList d (ws.map f) bs' := by
  cases h with
  | star m =>
    refine ⟨[⟨.namespaceObject, m, none, false⟩], ?_⟩
    simp only [List.map_cons, List.map_nil, hf.punct (c := '*') (by simp),
      hf.name (n := "as".toList) (by simp), hf.name (n := m) (by simp)]
    exact .star m
  | list hitems =>
    obtain ⟨bs', hbs', -⟩ := items_map hitems (hf.mono fun w hw => by simp [hw])
    refine ⟨bs', ?_⟩
    rw [List.map_cons, hf.punct (by simp)]
    exact .list hbs'

theorem core_map {ws : List Word} {bs : List Binding} (h : Core d ws bs) (hf : Replaces f ws) :
    ∃ bs', Core d (ws.map f) bs' := by
  cases h with
  | default n =>
    refine ⟨[⟨.defaultExport, n, none, false⟩], ?_⟩
    rw [List.map_singleton, hf.name (by simp)]
    exact .default n
  | rest hrest =>
    obtain ⟨bs', hbs'⟩ := starOrList_map hrest hf
    exact ⟨bs', .rest hbs'⟩
  | both n hrest =>
    obtain ⟨bs', hbs'⟩ := starOrList_map hrest (hf.mono fun w hw => by simp [hw])
    refine ⟨⟨.defaultExport, n, none, false⟩ :: bs', ?_⟩
    rw [List.map_cons, List.map_cons, hf.name (by simp), hf.punct (by simp)]
    exact .both n hbs'

/-- Words of a clause may be replaced by others if only strings change. -/
theorem clause_map {ws : List Word} {bs : List Binding} {typeOnly : Bool}
    (h : Clause d ws bs typeOnly) (hf : Replaces f ws) :
    ∃ bs', Clause d (ws.map f) bs' typeOnly := by
  cases h with
  | nothing => exact ⟨[], .nothing⟩
  | plain hcore =>
    obtain ⟨bs', hbs'⟩ := core_map hcore (hf.mono fun w hw => by simp [hw])
    refine ⟨bs', ?_⟩
    rw [List.map_append, List.map_singleton, hf.name (by simp)]
    exact .plain hbs'
  | @typed ws bs ht hcore hfrom =>
    obtain ⟨bs', hbs'⟩ := core_map hcore (hf.mono fun w hw => by simp [hw])
    refine ⟨bs', ?_⟩
    rw [List.cons_append, List.map_cons, List.map_append, List.map_singleton,
      hf.name (by simp), hf.name (n := "from".toList) (by simp)]
    refine .typed ht hbs' ?_
    intro hhead
    rw [List.length_map]
    apply hfrom
    rw [List.head?_map] at hhead
    obtain ⟨w, hw, hfw⟩ := Option.map_eq_some_iff.1 hhead
    have hmem : w ∈ ws := List.mem_of_head? hw
    have hk : w.kind ≠ .string := by
      rw [← hf.kind w (by simp [hmem]), hfw]
      simp
    rw [hw, ← hfw, hf.self w (by simp [hmem]) hk]

theorem attributes_map {ws : List Word} (h : Attributes ws) (hf : Replaces f ws) :
    Attributes (ws.map f) := by
  obtain ⟨keyword, body, rfl, hkeyword, hbody⟩ := h
  have hself : f keyword = keyword := by
    refine hf.self keyword (by simp) ?_
    rcases hkeyword with rfl | rfl <;> simp
  refine ⟨keyword, body.map f, ?_, hkeyword, ?_⟩
  · rw [List.map_cons, List.map_cons, List.map_append, List.map_singleton, hself,
      hf.punct (c := '\x7b') (by simp), hf.punct (c := '\x7d') (by simp)]
  · intro v hv
    obtain ⟨w, hw, rfl⟩ := List.mem_map.1 hv
    by_cases hk : w.kind = .string
    · have hkind : (f w).kind = .string := (hf.kind w (by simp [hw])).trans hk
      refine ⟨?_, by simp [hkind]⟩
      intro htext
      have hbrace : (Word.punct '\x7d').Whole := ⟨.punct, rfl, rfl⟩
      have heq := (hf.whole w (by simp [hw])).eq_of_text hbrace htext
      rw [heq] at hkind
      cases hkind
    · rw [hf.self w (by simp [hw]) hk]
      exact hbody w hw

end Grammar

/-! ## Words with other line endings -/

namespace Word

variable {eol : Eol}

/-- A word with other line endings. -/
def withEol (eol : Eol) (w : Word) : Word := ⟨w.kind, w.text.withEol eol⟩

theorem withEol_eq_self {w : Word} (h : w.Whole) (hk : w.kind ≠ .string) : w.withEol eol = w := by
  rw [withEol, Text.withEol_of_plain (h.plain hk)]

end Word

namespace Piece

variable {eol : Eol} {ps : List Piece}

theorem words_withEol (eol : Eol) (ps : List Piece) :
    words (ps.map (withEol eol)) = (words ps).map (Word.withEol eol) := by
  rw [words, words, List.filterMap_map, List.map_filterMap]
  congr 1
  funext p
  simp [word?, withEol, Word.withEol, Function.comp_def]

@[simp] theorem isGap_withEol (eol : Eol) (p : Piece) : (p.withEol eol).isGap = p.isGap := rfl

/-- Line breaks stay where they are. -/
theorem endsLine_withEol (eol : Eol) (p : Piece) : (p.withEol eol).endsLine = p.endsLine := by
  have hbreaks : ∀ t : Text, ((t.withEol eol).contains '\n' || (t.withEol eol).contains '\r') =
      (t.contains '\n' || t.contains '\r') := by
    intro t
    fun_induction Text.withEol eol t with
    | case1 => rfl
    | case2 t ih => cases eol <;> simp [Eol.text]
    | case3 c t hcrlf hc ih =>
      rcases hc with rfl | rfl <;> cases eol <;> simp [Eol.text]
    | case4 c t hcrlf hc ih =>
      simp only [not_or] at hc
      simp only [List.contains_cons, Bool.or_assoc] at ih ⊢
      grind
  obtain ⟨kind, text⟩ := p
  cases kind with
  | blockComment => exact hbreaks text
  | _ => rfl

theorem isRun_withEol (h : Token.IsRun ps) : Token.IsRun (ps.map (withEol eol)) := by
  obtain ⟨⟨p, qs, hp, hfirst⟩, ⟨rs, q, hq, hlast⟩⟩ := h
  constructor
  · exact ⟨p.withEol eol, qs.map (withEol eol), by rw [hp, List.map_cons], hfirst⟩
  · exact ⟨rs.map (withEol eol), q.withEol eol, by rw [hq]; simp, hlast⟩

theorem replaces_withEol (hps : ∀ p ∈ ps, StandsBefore p []) (hend : ∀ p ∈ ps, p.Endures eol) :
    Replaces (Word.withEol eol) (words ps) := by
  refine ⟨fun w _ => rfl, fun w hw hk => Word.withEol_eq_self (whole_of_mem_words hps hw) hk, ?_⟩
  intro w hw
  refine @whole_of_mem_words (ps.map (withEol eol)) ?_ _ ?_
  · intro q hq
    obtain ⟨p, hp, rfl⟩ := List.mem_map.1 hq
    exact ((hps p hp).shape.withEol (hend p hp)).standsBefore
  · rw [words_withEol]
    exact List.mem_map_of_mem hw

end Piece

/-! ## Words of readable clauses -/

namespace Grammar

theorem kind_ne_bad_of_item {ws : List Word} {b : Binding} {bare : Bool} (h : Item d ws b bare)
    (hws : ∀ w ∈ ws, w.Whole) (hopen : b.name ∉ openings) : ∀ w ∈ ws, w.kind ≠ .bad := by
  intro w hw hbad
  exact Binding.opens_of_item h hws hopen w hw (Word.mem_openings_of_bad (hws w hw) hbad)

theorem kind_ne_bad_of_items {ws : List Word} {bs : List Binding} (h : Items d ws bs)
    (hws : ∀ w ∈ ws, w.Whole) (hopen : ∀ b ∈ bs, b.name ∉ openings) :
    ∀ w ∈ ws, w.kind ≠ .bad := by
  induction h with
  | close => simp
  | last hitem =>
    intro w hw
    rw [List.mem_append, List.mem_singleton] at hw
    rcases hw with hw | rfl
    · exact kind_ne_bad_of_item hitem (fun v hv => hws v (by simp [hv])) (hopen _ (by simp)) w hw
    · simp
  | more hitem _ _ ih =>
    intro w hw
    rw [List.mem_append, List.mem_cons] at hw
    rcases hw with hw | rfl | hw
    · exact kind_ne_bad_of_item hitem (fun v hv => hws v (by simp [hv])) (hopen _ (by simp)) w hw
    · simp
    · exact ih (fun v hv => hws v (by simp [hv])) (fun b hb => hopen b (by simp [hb])) w hw

theorem kind_ne_bad_of_core {ws : List Word} {bs : List Binding} (h : Core d ws bs)
    (hws : ∀ w ∈ ws, w.Whole) (hopen : ∀ b ∈ bs, b.name ∉ openings) :
    ∀ w ∈ ws, w.kind ≠ .bad := by
  have hrest : ∀ {us : List Word} {cs : List Binding}, StarOrList d us cs →
      (∀ w ∈ us, w.Whole) → (∀ b ∈ cs, b.name ∉ openings) → ∀ w ∈ us, w.kind ≠ .bad := by
    intro us cs hus hwhole hnames
    cases hus with
    | star m => simp
    | list hitems =>
      have := kind_ne_bad_of_items hitems (fun w hw => hwhole w (by simp [hw])) hnames
      simpa using this
  cases h with
  | default n => simp
  | rest hcore => exact hrest hcore hws hopen
  | both n hcore =>
    have := hrest hcore (fun w hw => hws w (by simp [hw])) (fun b hb => hopen b (by simp [hb]))
    simpa using this

/-- A clause has no bad words if no imported name is one. -/
theorem kind_ne_bad_of_clause {ws : List Word} {bs : List Binding} {typeOnly : Bool}
    (h : Clause d ws bs typeOnly) (hws : ∀ w ∈ ws, w.Whole)
    (hopen : ∀ b ∈ bs, b.name ∉ openings) : ∀ w ∈ ws, w.kind ≠ .bad := by
  cases h with
  | nothing => simp
  | plain hcore =>
    intro w hw
    rw [List.mem_append, List.mem_singleton] at hw
    rcases hw with hw | rfl
    · exact kind_ne_bad_of_core hcore (fun v hv => hws v (by simp [hv])) hopen w hw
    · simp
  | typed _ hcore =>
    intro w hw
    rw [List.cons_append, List.mem_cons, List.mem_append, List.mem_singleton] at hw
    rcases hw with rfl | hw | rfl
    · simp
    · exact kind_ne_bad_of_core hcore (fun v hv => hws v (by simp [hv])) hopen w hw
    · simp

end Grammar

/-! ## Sentences with other line endings -/

namespace Sentence

variable {x : Sentence} {eol : Eol}

/-- No piece of a sentence is bad if no imported name is. -/
theorem IsValid.kind_ne_bad (h : x.IsValid d) (hps : ∀ p ∈ x.pieces, StandsBefore p [])
    (hopen : ∀ b ∈ x.bindings, b.name ∉ openings) : ∀ p ∈ x.pieces, p.kind ≠ .bad := by
  obtain ⟨ps, hclause, hwords⟩ := h.clause
  have hstands : ∀ p ∈ ps, StandsBefore p [] := fun p hp =>
    hps p (by simp [Sentence.pieces, hclause, hp])
  have hps' := kind_ne_bad_of_words
    (kind_ne_bad_of_clause hwords (fun w hw => whole_of_mem_words hstands hw) hopen)
  have hattributes : ∀ p ∈ x.attributePieces, p.kind ≠ .bad := by
    intro p hp
    cases ha : x.attributes with
    | none => simp [attributePieces, ha] at hp
    | some a =>
      obtain ⟨gap, as⟩ := a
      obtain ⟨hgap, -, has⟩ := h.attributes gap as ha
      rcases List.mem_append.1 (by simpa [attributePieces, ha] using hp) with hp | hp
      · exact kind_ne_bad_of_isGap (hgap p hp).1
      · exact kind_ne_bad_of_attributes has p hp
  have hsemicolon : ∀ p ∈ x.semicolonPieces, p.kind ≠ .bad := by
    intro p hp
    cases hs : x.semicolon with
    | none => simp [semicolonPieces, hs] at hp
    | some gap =>
      simp only [semicolonPieces, hs, List.mem_append, List.mem_singleton] at hp
      rcases hp with hp | rfl
      · exact kind_ne_bad_of_isGap (h.semicolon gap hs p hp)
      · simp
  intro p hp
  simp only [pieces, hclause, List.cons_append, List.mem_cons, List.mem_append] at hp
  rcases hp with rfl | hp | rfl | hp | hp
  · simp
  · exact hps' p hp
  · simp
  · exact hattributes p hp
  · exact hsemicolon p hp

/-- Anything may follow a sentence: it ends in a string, a brace or a semicolon. -/
theorem IsValid.endsBefore (h : x.IsValid d) (next : Option Char) :
    ∀ p ∈ x.pieces.getLast?, p.endsBefore next = true := by
  intro p hp
  cases hs : x.semicolon with
  | some gap =>
    obtain rfl : ⟨.punct, [';']⟩ = p := by
      simpa [pieces, semicolonPieces, hs, List.getLast?_cons] using hp
    simp [Piece.endsBefore]
  | none =>
    cases ha : x.attributes with
    | some a =>
      obtain ⟨gap, as⟩ := a
      obtain ⟨-, hrun, has⟩ := h.attributes gap as ha
      refine endsBefore_of_attributes hrun has next p ?_
      obtain ⟨init, q, rfl, -⟩ := hrun.last
      simpa [pieces, attributePieces, semicolonPieces, hs, ha, List.getLast?_cons] using hp
    | none =>
      obtain rfl : ⟨.string, x.target⟩ = p := by
        simpa [pieces, attributePieces, semicolonPieces, hs, ha] using hp
      rfl

/-- A sentence with other line endings, and the bindings that it then has. -/
def withEol (eol : Eol) (bindings : List Binding) (x : Sentence) : Sentence where
  clause := x.clause.map (Piece.withEol eol)
  target := x.target.withEol eol
  attributes := x.attributes.map fun (gap, as) =>
    (gap.map (Piece.withEol eol), as.map (Piece.withEol eol))
  semicolon := x.semicolon.map (List.map (Piece.withEol eol))
  bindings
  typeOnly := x.typeOnly

theorem pieces_withEol (eol : Eol) (bs : List Binding) (x : Sentence) :
    (x.withEol eol bs).pieces = x.pieces.map (Piece.withEol eol) := by
  have hsemicolon : Text.withEol eol [';'] = [';'] := rfl
  obtain ⟨clause, target, attributes, semicolon, bindings, typeOnly⟩ := x
  cases attributes <;> cases semicolon <;>
    simp [pieces, withEol, attributePieces, semicolonPieces, Piece.withEol, hsemicolon]

/-- A sentence stays one with other line endings. -/
theorem IsValid.withEol (h : x.IsValid d) (hps : ∀ p ∈ x.pieces, StandsBefore p [])
    (hend : ∀ p ∈ x.pieces, p.Endures eol) : ∃ bs, (x.withEol eol bs).IsValid d := by
  obtain ⟨ps, hclause, hwords⟩ := h.clause
  have hmem : ∀ p ∈ ps, p ∈ x.pieces := fun p hp => by simp [pieces, hclause, hp]
  obtain ⟨bs, hbs⟩ := clause_map hwords
    (replaces_withEol (fun p hp => hps p (hmem p hp)) fun p hp => hend p (hmem p hp))
  refine ⟨bs, ⟨⟨ps.map (Piece.withEol eol), ?_, by rwa [words_withEol]⟩, ?_, ?_⟩⟩
  · simp [Sentence.withEol, hclause, Piece.withEol, Text.withEol]
  · intro gap as hattributes
    obtain ⟨⟨gap', as'⟩, ha, hpair⟩ := Option.map_eq_some_iff.1 hattributes
    obtain ⟨rfl, rfl⟩ := Prod.mk.inj hpair
    obtain ⟨hgap, hrun, has⟩ := h.attributes gap' as' ha
    have hmem' : ∀ p ∈ as', p ∈ x.pieces := fun p hp => by
      simp [pieces, attributePieces, ha, hp]
    refine ⟨?_, isRun_withEol hrun, ?_⟩
    · intro q hq
      obtain ⟨p, hp, rfl⟩ := List.mem_map.1 hq
      exact ⟨(hgap p hp).1, by rw [endsLine_withEol]; exact (hgap p hp).2⟩
    · rw [words_withEol]
      exact attributes_map has
        (replaces_withEol (fun p hp => hps p (hmem' p hp)) fun p hp => hend p (hmem' p hp))
  · intro gap hsemicolon q hq
    obtain ⟨gap', hs, rfl⟩ := Option.map_eq_some_iff.1 hsemicolon
    obtain ⟨p, hp, rfl⟩ := List.mem_map.1 hq
    exact h.semicolon gap' hs p hp

end Sentence

/-- **Kept statements.** A statement with comments inside, written as it was read, is a sentence. -/
theorem Statement.exists_kept [Platform] {s : Settings} {eol : Eol} {st : Statement} {t : Text}
    (h : st.WellFormed d) (hopen : ∀ b ∈ st.bindings, b.name ∉ openings)
    (hinner : st.innerComments = true)
    (hend : ∀ raw ∈ st.raw, ∀ p ∈ scan raw, p.Endures eol) (hrender : st.render s eol = .ok t) :
    ∃ x : Sentence, textOf x.pieces = t ∧ x.IsValid d ∧ (∀ next, Chained x.pieces next) ∧
      (∃ ps, x.clause = importPiece :: ps) ∧ x.semicolon.isSome = st.endsInSemicolon s := by
  obtain ⟨raw, hraw, rfl, -, hkept⟩ := render_eq_ok_of_inner hinner hrender
  obtain ⟨x, rfl, hx, hcut, hbindings, hsemicolon⟩ := h.raw raw hraw
  have hstands := hcut.standsBefore
  have hchain := hcut.chained (hx.kind_ne_bad hstands (by rwa [hbindings]))
  have hscan : scan (textOf x.pieces) = x.pieces := by
    simpa using @scan_of_chained x.pieces [] hchain
  have hendures : ∀ p ∈ x.pieces, p.Endures eol := fun p hp =>
    hend _ hraw p (by rwa [hscan])
  obtain ⟨bs, hvalid⟩ := hx.withEol hstands hendures
  refine ⟨x.withEol eol bs, ?_, hvalid, ?_, ?_, ?_⟩
  · rw [Sentence.pieces_withEol, textOf_withEol hchain]
  · intro next
    refine Chained.before ?_ (hvalid.endsBefore next)
    rw [Sentence.pieces_withEol]
    exact chained_withEol hchain hendures
  · obtain ⟨ps, hps, -⟩ := hvalid.clause
    exact ⟨ps, hps⟩
  · simp only [keepsStyle, Bool.and_eq_true, beq_iff_eq] at hkept
    simp [Sentence.withEol, hsemicolon, hkept.2]

end ImportOrder
