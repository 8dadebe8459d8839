import ImportOrder.Proofs.Arrangement.StableSort
import ImportOrder.Proofs.Render.Clause
import ImportOrder.Proofs.Results
import ImportOrder.Proofs.Source.Attachment
import ImportOrder.Proofs.Source.LineEndings

/-!
# Written statements

A statement that was read from a source, or merged from such ones, is written as a sentence of the
grammar, with its bindings in order.

## Main definitions

* `Statement.WellFormed`: a statement as sources give them
* `Statement.sentence`: a written statement as a sentence
* `Statement.EndsInBareAs`: the one kind of written statement that is not read

## Main results

* `sortBindings_append`: only the named bindings of a statement are moved by sorting
* `Statement.exists_clause`: a written statement is a sentence, or its import list is stuck
-/

namespace ImportOrder

open Grammar Piece

/-! ## Bindings in order -/

/-- Default and namespace bindings. -/
def headBindings (dflt ns : Option Text) : List Binding :=
  dflt.toList.map (⟨.defaultExport, ·, none, false⟩) ++
    ns.toList.map (⟨.namespaceObject, ·, none, false⟩)

theorem mayPrecede_of_rank_lt (s : Settings) {a b : Binding} (h : a.kind.rank < b.kind.rank) :
    Binding.mayPrecede s a b = true := by
  have hcompare : Ord.compare a.kind.rank b.kind.rank = .lt := Nat.compare_eq_lt.2 h
  unfold Binding.mayPrecede Binding.compare
  rw [hcompare]
  split
  · rfl
  · exact decide_eq_true (Nat.le_of_lt h)

/-- Bindings of a kind before those of later kinds stay where they are. -/
theorem sortBindings_cons (s : Settings) {a : Binding} {bs : List Binding}
    (h : ∀ b ∈ bs, a.kind.rank < b.kind.rank) :
    sortBindings s (a :: bs) = a :: sortBindings s bs := by
  apply inOrder_cons
  intro b hb
  exact mayPrecede_of_rank_lt s (h b hb)

/-- Only named bindings are moved by sorting. -/
theorem sortBindings_append (s : Settings) (dflt ns : Option Text) {named : List Binding}
    (h : ∀ b ∈ named, b.kind = .namedExport) :
    sortBindings s (headBindings dflt ns ++ named) =
      headBindings dflt ns ++ sortBindings s named := by
  have hns : ∀ m : Text, sortBindings s (⟨.namespaceObject, m, none, false⟩ :: named) =
      ⟨.namespaceObject, m, none, false⟩ :: sortBindings s named := by
    intro m
    apply sortBindings_cons
    intro b hb
    rw [h b hb]
    exact Nat.lt_succ_self 1
  cases dflt with
  | none =>
    cases ns with
    | none => rfl
    | some m => exact hns m
  | some n =>
    have hn : ∀ b ∈ (ns.toList.map (⟨.namespaceObject, ·, none, false⟩) ++ named : List Binding),
        BindingKind.defaultExport.rank < b.kind.rank := by
      intro b hb
      rcases List.mem_append.1 hb with hb | hb
      · obtain ⟨m, -, rfl⟩ := List.mem_map.1 hb
        exact Nat.zero_lt_one
      · rw [h b hb]
        decide
    have hcons := sortBindings_cons s (a := ⟨.defaultExport, n, none, false⟩) hn
    cases ns with
    | none => exact hcons
    | some m => exact hcons.trans (congrArg _ (hns m))

/-! ## Statements as sources give them -/

/-- **The text of import attributes.** -/
structure IsAttributesText (t : Text) : Prop where
  isRun : Token.IsRun (scan t)
  words : Attributes (words (scan t))
  chained : ∀ next, Chained (scan t) next

/-- **The bindings of a declaration**: default, namespace and named ones in this order. A namespace
does not stand beside a list, and a default binding `from` with a type mark stands alone. -/
structure AreBindings (d : Dialect) (typeOnly : Bool) (dflt ns : Option Text)
    (named : List Binding) : Prop where
  wholeDefault : ∀ n ∈ dflt, (Word.name n).Whole
  wholeNamespace : ∀ m ∈ ns, (Word.name m).Whole
  items : ∀ b ∈ named, b.IsItem d
  apart : ns.isSome = true → named = []
  typed : typeOnly = true → d.typescript = true
  typedFrom : typeOnly = true → dflt = some "from".toList → ns = none ∧ named = []

namespace Statement

/-- **A statement as sources give them.** If it has a text of its own, the text is a sentence. -/
structure WellFormed (d : Dialect) (st : Statement) : Prop where
  target : st.quote.Encloses st.specifier
  bindings : ∃ dflt ns named, st.bindings = headBindings dflt ns ++ named ∧
    AreBindings d st.typeOnly dflt ns named
  attributes : ∀ t ∈ st.attributes, IsAttributesText t
  leading : ∀ line ∈ st.leadingComments, IsCommentLine line
  trailing : ∀ t ∈ st.trailingComment, IsCommentLine t
  raw : ∀ t ∈ st.raw, ∃ x : Sentence, textOf x.pieces = t ∧ x.IsValid d ∧ IsCut x.pieces ∧
    x.bindings = st.bindings ∧ x.semicolon.isSome = st.hasSemicolon

/-- Whether the import list of a statement is written over several lines. -/
def isWrapped (s : Settings) (st : Statement) : Bool :=
  s.maxLineLength ≠ 0 ∧
    s.maxLineLength < (assemble s st (some (listOnLine s (renderNamed s st)))).length

/-- **A written statement that is not read**: its list is written over several lines, with a comma
behind the last name, and that name is a bare `as`. -/
def EndsInBareAs (s : Settings) (st : Statement) : Prop :=
  st.innerComments = false ∧ s.trailingComma = "multiline" ∧ st.isWrapped s = true ∧
    ∃ b ∈ (sortBindings s st.bindings).getLast?, b.isBareAs = true

/-! ## Written clauses -/

/-- The words of a default binding and of what follows it. -/
def coreWords : (dflt : Option Text) → (rest : Option (List Word)) → List Word
  | none, none => []
  | none, some ws => ws
  | some n, none => [.name n]
  | some n, some ws => .name n :: .punct ',' :: ws

theorem written_core {dflt : Option Text} {rest : Option (Text × List Word)}
    (hdflt : ∀ n ∈ dflt, (Word.name n).Whole) (hrest : ∀ r ∈ rest, Written r.1 r.2)
    (hne : dflt.isSome = true ∨ rest.isSome = true) :
    Written (Text.join ", ".toList (dflt.toList ++ (rest.map (·.1)).toList))
      (coreWords dflt (rest.map (·.2))) := by
  cases dflt with
  | none =>
    cases rest with
    | none => simp at hne
    | some r => simpa [coreWords] using hrest r rfl
  | some n =>
    have hn : Written n [.name n] := Binding.written_name (hdflt n rfl)
    cases rest with
    | none => simpa [coreWords] using hn
    | some r =>
      have hboth : List.Forall₂ Written [n, r.1] [[.name n], r.2] :=
        .cons hn (.cons (hrest r rfl) .nil)
      simpa [coreWords, List.intercalate] using written_join .space hboth (by simp)

theorem core_coreWords {d : Dialect} (dflt : Option Text) {ws : List Word} {bs : List Binding}
    (h : StarOrList d ws bs) :
    Core d (coreWords dflt (some ws))
      (dflt.toList.map (⟨.defaultExport, ·, none, false⟩) ++ bs) := by
  cases dflt with
  | none => exact .rest h
  | some n => exact .both n h

/-- The word `import` as a piece. -/
def importPiece : Piece := ⟨.name, "import".toList⟩

/-- The words of a written clause. -/
def clauseWords (typeOnly : Bool) (cws : List Word) : List Word :=
  (if typeOnly then [.name "type".toList] else []) ++ (cws ++ [.name "from".toList])

/-- The pieces of the word `import` and of a clause behind it. -/
theorem exists_pieces_of_core {core : Text} {cws : List Word} (st : Statement)
    (h : Written core cws) (src : Text) :
    ∃ ps, st.keyword ++ [' '] ++ core ++ " from ".toList ++ src =
        textOf (importPiece :: ps) ++ src ∧
      (∀ q : Quote, Chained (importPiece :: ps) (some q.char)) ∧
      words ps = clauseWords st.typeOnly cws := by
  have hfrom : Written "from".toList [.name "from".toList] := Binding.written_name whole_from
  have hclause : Written ((if st.typeOnly then "type ".toList else []) ++
      (core ++ ([' '] ++ "from".toList))) (clauseWords st.typeOnly cws) := by
    unfold clauseWords
    cases st.typeOnly with
    | false => exact h.glue hfrom .space
    | true => exact (Binding.written_name whole_type).glue (h.glue hfrom .space) .space
  obtain ⟨ps, hps, hwords, hchain, c, hc, hspace⟩ := hclause
  rw [← hps] at hc
  refine ⟨⟨.space, [' ']⟩ :: (ps ++ [⟨.space, [' ']⟩]), ?_, ?_, ?_⟩
  · simp only [textOf_cons, textOf_append, textOf_nil, hps, keyword, importPiece]
    cases st.typeOnly <;> simp
  · intro q
    have hq : isSpace q.char = false := by cases q <;> rfl
    have hnext : (textOf (ps ++ [⟨.space, [' ']⟩])).head?.or (some q.char) = some c := by
      simp [List.head?_append, Option.mem_def.1 hc]
    refine ⟨by simp [importPiece], rfl, rfl, by simp, rfl, ?_, ?_⟩
    · rw [hnext]
      simp [endsBefore, hspace]
    · rw [chained_append]
      exact ⟨hchain ' ' (by decide), by simp, rfl, by simp [endsBefore, hq], trivial⟩
  · rw [words_cons, words_append, hwords]
    simp [word?, PieceKind.token?, words]
/-! ## The bindings of a statement -/

section Bindings

variable {d : Dialect} {s : Settings} {st : Statement} {dflt ns : Option Text}
  {named : List Binding}

theorem kind_of_areBindings (h : AreBindings d st.typeOnly dflt ns named) :
    ∀ b ∈ named, b.kind = .namedExport := by
  intro b hb
  obtain ⟨ws, bare, hitem, -⟩ := h.items b hb
  exact item_kind hitem

theorem renderHeads_eq (hst : st.bindings = headBindings dflt ns ++ named)
    (hkind : ∀ b ∈ named, b.kind = .namedExport) :
    renderHeads s st = dflt.toList ++ ns.toList.map ("* as ".toList ++ ·) := by
  have hnone : ∀ f : Binding → Option Text, (∀ b, b.kind = .namedExport → f b = none) →
      (sortBindings s named).filterMap f = [] := by
    intro f hf
    rw [List.filterMap_eq_nil_iff]
    intro b hb
    exact hf b (hkind b (mem_inOrder.1 hb))
  rw [renderHeads, hst, sortBindings_append s dflt ns hkind, List.filterMap_append,
    hnone _ fun b hb => by simp only [hb]]
  cases dflt <;> cases ns <;> rfl

theorem renderNamed_eq (hst : st.bindings = headBindings dflt ns ++ named)
    (hkind : ∀ b ∈ named, b.kind = .namedExport) :
    renderNamed s st = (sortBindings s named).map (Binding.render (targetQuote s st)) := by
  have hall : (sortBindings s named).filter (·.kind = .namedExport) = sortBindings s named := by
    rw [List.filter_eq_self]
    intro b hb
    exact decide_eq_true (hkind b (mem_inOrder.1 hb))
  rw [renderNamed, hst, sortBindings_append s dflt ns hkind, List.filter_append, hall]
  cases dflt <;> cases ns <;> rfl

theorem requoteName_of_whole {n : Text} (h : (Word.name n).Whole) (quote : Quote) :
    requoteName quote n = n :=
  congrArg Word.text ((Word.requoted_cases h (Word.not_mem_openings h (by simp)) quote).1 (by simp))

theorem map_requoted_headBindings (h : AreBindings d st.typeOnly dflt ns named) (quote : Quote) :
    (headBindings dflt ns).map (Binding.requoted quote) = headBindings dflt ns := by
  refine (List.map_congr_left (g := id) ?_).trans (List.map_id _)
  intro b hb
  have hname : requoteName quote b.name = b.name := by
    rcases List.mem_append.1 hb with hb | hb
    · obtain ⟨n, hn, rfl⟩ := List.mem_map.1 hb
      exact requoteName_of_whole (h.wholeDefault n (Option.mem_toList.1 hn)) quote
    · obtain ⟨m, hm, rfl⟩ := List.mem_map.1 hb
      exact requoteName_of_whole (h.wholeNamespace m (Option.mem_toList.1 hm)) quote
  rw [Binding.requoted, hname, id]

/-- The words of a namespace binding. -/
def starWords (m : Text) : List Word := [.punct '*', .name "as".toList, .name m]

theorem written_star {m : Text} (h : (Word.name m).Whole) :
    Written ("* as ".toList ++ m) (starWords m) := by
  have hstar : Written ['*'] [.punct '*'] :=
    written_of_whole (w := .punct '*') ⟨.punct, rfl, rfl⟩ (by simp)
  exact hstar.glue ((Binding.written_name whole_as).glue (Binding.written_name h) .space) .space

theorem clause_of_core {cws : List Word} {bs : List Binding}
    (h : AreBindings d st.typeOnly dflt ns named) (hcore : Core d cws bs)
    (hfrom : st.typeOnly = true → cws.head? = some (.name "from".toList) → cws.length = 1) :
    Clause d (clauseWords st.typeOnly cws) bs st.typeOnly := by
  unfold clauseWords
  cases htype : st.typeOnly with
  | false => exact .plain hcore
  | true => exact .typed (h.typed htype) hcore (hfrom htype)

theorem length_coreWords {rest : Option (List Word)}
    (hrest : ∀ ws ∈ rest, ws.head? ≠ some (.name "from".toList))
    (hnone : dflt = some "from".toList → rest = none)
    (hhead : (coreWords dflt rest).head? = some (.name "from".toList)) :
    (coreWords dflt rest).length = 1 := by
  cases dflt with
  | none =>
    cases rest with
    | none => simp [coreWords] at hhead
    | some ws => exact absurd hhead (hrest ws rfl)
  | some n =>
    cases rest with
    | none => rfl
    | some ws =>
      obtain rfl : n = "from".toList := by simpa [coreWords, Word.name] using hhead
      cases hnone rfl

end Bindings

/-! ## Written statements -/

/-- What is written for a statement: the word `import` and a clause, or one whose list is stuck,
and the rest of it. -/
def IsWritten (d : Dialect) (s : Settings) (st : Statement) (t : Text) : Prop :=
  ∃ ps, t = textOf (importPiece :: ps) ++ source s st ∧
    (∀ q : Quote, Chained (importPiece :: ps) (some q.char)) ∧
    ((¬EndsInBareAs s st ∧ Clause d (words ps)
        ((sortBindings s st.bindings).map (Binding.requoted (targetQuote s st))) st.typeOnly) ∨
      (EndsInBareAs s st ∧ ∃ cs rest, words ps = cs ++ rest ∧ StuckClause d cs))

section Render

variable {d : Dialect} {s : Settings} {st : Statement} {dflt ns : Option Text}
  {named : List Binding}

theorem isWritten_sideEffect (h : AreBindings d st.typeOnly dflt ns named)
    (hnil : st.bindings = []) :
    IsWritten d s st (st.keyword ++ [' '] ++
      (if st.typeOnly then "\x7b\x7d from ".toList else []) ++ source s st) := by
  have hbare : ¬EndsInBareAs s st := by
    rintro ⟨-, -, -, b, hb, -⟩
    rw [hnil] at hb
    cases hb
  have hsorted : sortBindings s st.bindings = [] := by
    rw [hnil]
    rfl
  unfold IsWritten
  rw [hsorted]
  cases htype : st.typeOnly with
  | false =>
    refine ⟨[⟨.space, [' ']⟩], ?_, ?_, .inl ⟨hbare, .nothing⟩⟩
    · simp [keyword, htype, importPiece]
    · intro q
      cases q <;> exact ⟨by simp [importPiece], rfl, rfl, by simp, rfl, rfl, trivial⟩
  | true =>
    have hempty : Written "\x7b\x7d".toList [.punct '\x7b', .punct '\x7d'] :=
      written_close.punct_cons (c := '\x7b') (by simp)
    obtain ⟨ps, hps, hchain, hwords⟩ := exists_pieces_of_core st hempty (source s st)
    refine ⟨ps, ?_, hchain, .inl ⟨hbare, ?_⟩⟩
    · rw [← hps]
      simp
    · rw [hwords, ← htype]
      exact clause_of_core h (.rest (.list .close)) (by simp [Word.name, Word.punct])

theorem isWritten_heads (hst : st.bindings = headBindings dflt ns)
    (h : AreBindings d st.typeOnly dflt ns []) (hne : st.bindings ≠ []) :
    IsWritten d s st (assemble s st none) := by
  have hst' : st.bindings = headBindings dflt ns ++ [] := by rw [hst, List.append_nil]
  have hsorted : sortBindings s st.bindings = headBindings dflt ns := by
    rw [hst', sortBindings_append s dflt ns (by simp)]
    exact List.append_nil _
  have hbare : ¬EndsInBareAs s st := by
    rintro ⟨-, -, -, b, hb, hbare⟩
    rw [hsorted] at hb
    have hmem : b ∈ headBindings dflt ns := List.mem_of_getLast? hb
    have htype : b.typeOnly = false := by
      rcases List.mem_append.1 hmem with hmem | hmem
      · obtain ⟨n, -, rfl⟩ := List.mem_map.1 hmem
        rfl
      · obtain ⟨n, -, rfl⟩ := List.mem_map.1 hmem
        rfl
    simp [Binding.isBareAs, htype] at hbare
  have hcore := @written_core dflt (ns.map fun m => ("* as ".toList ++ m, starWords m))
    h.wholeDefault
    (by
      intro r hr
      obtain ⟨m, hm, rfl⟩ := Option.map_eq_some_iff.1 hr
      exact written_star (h.wholeNamespace m hm))
    (by
      rw [hst] at hne
      cases dflt <;> cases ns <;> simp_all [headBindings])
  obtain ⟨ps, hps, hchain, hwords⟩ := exists_pieces_of_core st hcore (source s st)
  refine ⟨ps, ?_, hchain, .inl ⟨hbare, ?_⟩⟩
  · rw [← hps, assemble, renderHeads_eq hst' (by simp)]
    cases ns <;> simp
  · rw [hwords, hsorted, map_requoted_headBindings h]
    -- A clause that starts with `from` is read as one only if it has no other word.
    refine clause_of_core h ?_ fun htype => length_coreWords ?_ ?_
    · cases ns with
      | some m => exact core_coreWords dflt (.star m)
      | none =>
        cases dflt with
        | none => exact absurd hst hne
        | some n => exact .default n
    · intro ws hws
      obtain ⟨r, hr, rfl⟩ := Option.map_eq_some_iff.1 hws
      obtain ⟨m, -, rfl⟩ := Option.map_eq_some_iff.1 hr
      simp [starWords, Word.name, Word.punct]
    · intro hfrom
      rw [(h.typedFrom htype hfrom).1]
      rfl

/-- The words of an import list, if they are items or stuck. -/
theorem isWritten_list (hst : st.bindings = headBindings dflt none ++ named)
    (h : AreBindings d st.typeOnly dflt none named) (hne : named ≠ []) {list : Text}
    {lws : List Word} (hlist : Written list (.punct '\x7b' :: lws))
    (hlws : (¬EndsInBareAs s st ∧
        Items d lws ((sortBindings s named).map (Binding.requoted (targetQuote s st)))) ∨
      (EndsInBareAs s st ∧ Stuck d lws)) :
    IsWritten d s st (assemble s st (some list)) := by
  have hkind := kind_of_areBindings h
  have hcore := @written_core dflt (some (list, .punct '\x7b' :: lws)) h.wholeDefault
    (by
      intro r hr
      obtain rfl := Option.some.inj hr
      exact hlist) (.inr rfl)
  have hfrom : st.typeOnly = true → dflt ≠ some "from".toList := by
    intro htype hdflt
    exact hne (h.typedFrom htype hdflt).2
  obtain ⟨ps, hps, hchain, hwords⟩ := exists_pieces_of_core st hcore (source s st)
  refine ⟨ps, ?_, hchain, hlws.imp ?_ ?_⟩
  · rw [← hps, assemble, renderHeads_eq hst hkind]
    simp
  · rintro ⟨hbare, hitems⟩
    refine ⟨hbare, ?_⟩
    rw [hwords, hst, sortBindings_append s dflt none hkind, List.map_append,
      map_requoted_headBindings h]
    refine clause_of_core h ?_ fun htype => length_coreWords ?_ ?_
    · have hcore := core_coreWords dflt (.list hitems)
      simpa [headBindings] using hcore
    · intro ws hws
      obtain rfl := Option.some.inj hws
      simp [Word.name, Word.punct]
    · intro hdflt
      exact absurd hdflt (hfrom htype)
  · rintro ⟨hbare, hstuck⟩
    refine ⟨hbare, (if st.typeOnly then [.name "type".toList] else []) ++
      coreWords dflt (some (.punct '\x7b' :: lws)), [.name "from".toList], ?_, ?_⟩
    · rw [hwords, clauseWords, List.append_assoc]
      rfl
    · cases htype : st.typeOnly with
      | false =>
        cases dflt with
        | none => exact .list hstuck
        | some n => exact .both n hstuck
      | true =>
        cases dflt with
        | none => exact .typedList (h.typed htype) hstuck
        | some n =>
          refine .typedBoth (h.typed htype) ?_ hstuck
          rintro rfl
          exact hfrom htype rfl

/-- The words of a list over several lines. -/
theorem items_or_stuck {wss : List (List Word)} (hinner : st.innerComments = false)
    (hwrap : st.isWrapped s = true)
    (hlast : (sortBindings s st.bindings).getLast? = (sortBindings s named).getLast?)
    (hitems : AreItems d (targetQuote s st) (sortBindings s named) wss)
    (hne : sortBindings s named ≠ []) :
    (¬EndsInBareAs s st ∧
      Items d (List.intercalate [.punct ','] wss ++
          ((if s.trailingComma = "multiline" then [.punct ','] else []) ++ [.punct '\x7d']))
        ((sortBindings s named).map (Binding.requoted (targetQuote s st)))) ∨
    (EndsInBareAs s st ∧ Stuck d (List.intercalate [.punct ','] wss ++
      ((if s.trailingComma = "multiline" then [.punct ','] else []) ++ [.punct '\x7d']))) := by
  by_cases hcomma : s.trailingComma = "multiline"
  · rw [if_pos hcomma]
    -- A comma behind the last name is read, except behind a bare `as`.
    by_cases hbare : ∃ b ∈ (sortBindings s named).getLast?, b.isBareAs = true
    · have hstuck : EndsInBareAs s st := ⟨hinner, hcomma, hwrap, by rwa [hlast]⟩
      obtain ⟨b, hb, hbare⟩ := hbare
      exact .inr ⟨hstuck, stuck_comma hitems hb hbare⟩
    · refine .inl ⟨?_, items_comma hitems hne ?_⟩
      · rintro ⟨-, -, -, hb⟩
        rw [hlast] at hb
        exact hbare hb
      · intro b hb
        rw [← Bool.not_eq_true]
        intro htrue
        exact hbare ⟨b, hb, htrue⟩
  · rw [if_neg hcomma]
    refine .inl ⟨?_, items_intercalate hitems⟩
    rintro ⟨-, h, -⟩
    exact hcomma h

theorem sortBindings_ne_nil (s : Settings) (hne : named ≠ []) : sortBindings s named ≠ [] := by
  intro heq
  have hperm := inOrder_perm (Binding.mayPrecede s) named
  rw [show inOrder (Binding.mayPrecede s) named = [] from heq] at hperm
  exact hne hperm.nil_eq.symm

/-- The last binding of a statement with a list is the last one of the list. -/
theorem getLast?_sortBindings (hkind : ∀ b ∈ named, b.kind = .namedExport) (hne : named ≠ []) :
    (sortBindings s (headBindings dflt ns ++ named)).getLast? =
      (sortBindings s named).getLast? := by
  rw [sortBindings_append s dflt ns hkind, List.getLast?_append]
  cases hlast : (sortBindings s named).getLast? with
  | none => exact absurd (List.getLast?_eq_none_iff.1 hlast) (sortBindings_ne_nil s hne)
  | some b => rfl

/-- What is written for a statement with an import list. -/
theorem isWritten_renderBindings [Platform] {eol : Eol} {t : Text}
    (hst : st.bindings = headBindings dflt none ++ named)
    (h : AreBindings d st.typeOnly dflt none named) (hne : named ≠ [])
    (hopen : ∀ b ∈ named, b.name ∉ openings) (hinner : st.innerComments = false)
    (hrender : st.renderBindings s eol = .ok t) : IsWritten d s st t := by
  have hkind := kind_of_areBindings h
  have hsorted := sortBindings_ne_nil s hne
  have hnames : renderNamed s st = (sortBindings s named).map (Binding.render (targetQuote s st)) :=
    renderNamed_eq hst hkind
  have hnamesne : renderNamed s st ≠ [] := by simpa [hnames] using hsorted
  obtain ⟨wss, hitems, hwritten⟩ := @exists_items d (sortBindings s named) (targetQuote s st) (by
      intro b hb
      have hb := mem_inOrder.1 hb
      exact ⟨h.items b hb, hopen b hb⟩)
  rw [← hnames] at hwritten
  simp only [renderBindings, List.isEmpty_iff] at hrender
  rw [if_neg hnamesne] at hrender
  split at hrender
  · rename_i hlong
    have hwrap : st.isWrapped s = true := by simpa [isWrapped] using hlong
    have hlast : (sortBindings s st.bindings).getLast? = (sortBindings s named).getLast? := by
      rw [hst, getLast?_sortBindings hkind hne]
    cases hcheck : Text.checkTimes [' '] s.indent with
    | error e =>
      rw [hcheck] at hrender
      cases hrender
    | ok u =>
      rw [hcheck] at hrender
      obtain rfl := Except.ok.inj hrender
      exact isWritten_list hst h hne (written_listOverLines s eol hwritten hnamesne)
        (items_or_stuck hinner hwrap hlast hitems hsorted)
  · rename_i hshort
    obtain rfl := Except.ok.inj hrender
    refine isWritten_list hst h hne (written_listOnLine s hwritten hnamesne)
      (.inl ⟨?_, items_intercalate hitems⟩)
    rintro ⟨-, -, hwrap, -⟩
    exact hshort (by simpa [isWrapped] using hwrap)

/-- A written statement is a sentence, or its import list is stuck. -/
theorem isWritten_render [Platform] {eol : Eol} {t : Text} (h : st.WellFormed d)
    (hopen : ∀ b ∈ st.bindings, b.name ∉ openings) (hinner : st.innerComments = false)
    (hrender : st.render s eol = .ok t) : IsWritten d s st t := by
  obtain ⟨dflt, ns, named, hst, hbind⟩ := h.bindings
  obtain ⟨-, hrender⟩ := render_eq_ok hinner hrender
  by_cases hside : st.isSideEffect = true
  · rw [if_pos hside] at hrender
    obtain rfl := Except.ok.inj hrender
    exact isWritten_sideEffect hbind (by simpa [isSideEffect] using hside)
  rw [if_neg hside] at hrender
  have hrender := mapError_eq_ok_iff.1 hrender
  by_cases hnil : named = []
  · subst hnil
    have hnone : renderNamed s st = [] := renderNamed_eq hst (by simp)
    rw [renderBindings, hnone] at hrender
    obtain rfl := Except.ok.inj hrender
    exact isWritten_heads (by simpa using hst) hbind (by simpa [isSideEffect] using hside)
  · have hns : ns = none := by
      cases ns with
      | none => rfl
      | some m => exact absurd (hbind.apart rfl) hnil
    subst hns
    exact isWritten_renderBindings hst hbind hnil (fun b hb => hopen b (by simp [hst, hb])) hinner
      hrender

/-- **A written statement as a sentence** with the given pieces before the module string. -/
def sentence (s : Settings) (st : Statement) (clause : List Piece) : Sentence where
  clause := clause
  target := requote st.specifier st.quote (targetQuote s st)
  attributes := st.attributes.map fun t => ([⟨.space, [' ']⟩], scan t)
  semicolon := if endsInSemicolon s st then some [] else none
  bindings := (sortBindings s st.bindings).map (Binding.requoted (targetQuote s st))
  typeOnly := st.typeOnly

theorem textOf_sentence (h : st.WellFormed d) (clause : List Piece) :
    textOf (st.sentence s clause).pieces = textOf clause ++ source s st := by
  have hsemicolon : textOf (st.sentence s clause).semicolonPieces =
      if endsInSemicolon s st then [';'] else [] := by
    unfold Sentence.semicolonPieces sentence
    cases endsInSemicolon s st <;> rfl
  rw [Sentence.pieces, textOf_append, textOf_cons, textOf_append, hsemicolon, source,
    List.append_assoc]
  apply congrArg fun t => textOf clause ++ (_ ++ (t ++ _))
  unfold Sentence.attributePieces sentence
  cases ha : st.attributes with
  | none => rfl
  | some t =>
    cases t with
    | nil => exact absurd rfl (h.attributes [] ha).isRun.ne_nil
    | cons c t => simp

/-- What follows the clause of a written statement ends before anything. -/
theorem chained_source (h : st.WellFormed d) (clause : List Piece) (next : Option Char) :
    Chained (⟨.string, (st.sentence s clause).target⟩ :: ((st.sentence s clause).attributePieces ++
      (st.sentence s clause).semicolonPieces)) next := by
  obtain ⟨body, hbody, hclosed⟩ := exists_requote h.target (targetQuote s st)
  obtain ⟨k, hk, hstring⟩ := Word.whole_string_iff.2 ⟨targetQuote s st, body, hbody, hclosed⟩
  obtain rfl : k = .string := by cases k <;> simp_all [PieceKind.token?]
  refine ⟨by simp, hstring, rfl, ?_⟩
  rw [chained_append]
  constructor
  · unfold Sentence.attributePieces sentence
    cases ha : st.attributes with
    | none => trivial
    | some t =>
      obtain ⟨p, ps, hps, hp⟩ := (h.attributes t ha).isRun.first
      have hmem : p ∈ scan t := by simp [hps]
      obtain ⟨c, hc, hspace⟩ := not_isSpace_of_word (standsBefore_of_mem_scan hmem) hp
      have hhead : (textOf (scan t)).head? = some c := by
        rw [hps, textOf_cons, List.head?_append, Option.mem_def.1 hc]
        rfl
      refine ⟨by simp, rfl, ?_, (h.attributes t ha).chained _⟩
      show endsBefore ⟨.space, [' ']⟩ ((textOf (scan t)).head?.or _) = true
      rw [hhead]
      simp [endsBefore, hspace]
  · unfold Sentence.semicolonPieces sentence
    cases endsInSemicolon s st with
    | false => trivial
    | true => exact ⟨by simp, rfl, rfl, trivial⟩

/-- A written statement is a sentence, and ends before anything. If its list is stuck, it only has
the pieces of a sentence. -/
theorem exists_sentence [Platform] {eol : Eol} {t : Text} (h : st.WellFormed d)
    (hopen : ∀ b ∈ st.bindings, b.name ∉ openings) (hinner : st.innerComments = false)
    (hrender : st.render s eol = .ok t) :
    ∃ ps, textOf (st.sentence s (importPiece :: ps)).pieces = t ∧
      (∀ next, Chained (st.sentence s (importPiece :: ps)).pieces next) ∧
      ((¬EndsInBareAs s st ∧ (st.sentence s (importPiece :: ps)).IsValid d) ∨
        (EndsInBareAs s st ∧ ∃ cs rest, words ps = cs ++ rest ∧ StuckClause d cs)) := by
  obtain ⟨ps, rfl, hchain, hclause⟩ := isWritten_render h hopen hinner hrender
  refine ⟨ps, textOf_sentence h _, ?_, hclause.imp (And.imp_right ?_) id⟩
  · intro next
    have hquote : (textOf (⟨.string, (st.sentence s (importPiece :: ps)).target⟩ ::
        ((st.sentence s (importPiece :: ps)).attributePieces ++
          (st.sentence s (importPiece :: ps)).semicolonPieces))).head?.or next =
        some (targetQuote s st).char := rfl
    rw [Sentence.pieces, chained_append, hquote]
    exact ⟨hchain _, chained_source h _ next⟩
  · intro hwords
    refine ⟨⟨ps, rfl, hwords⟩, ?_, ?_⟩
    · intro gap as has
      obtain ⟨t, ht, heq⟩ := Option.map_eq_some_iff.1 has
      obtain ⟨rfl, rfl⟩ := Prod.mk.inj heq
      refine ⟨?_, (h.attributes t ht).isRun, (h.attributes t ht).words⟩
      intro p hp
      obtain rfl := List.mem_singleton.1 hp
      exact ⟨rfl, rfl⟩
    · intro gap hgap
      have hgap : gap = [] := by
        simp only [sentence] at hgap
        split at hgap
        · exact (Option.some.inj hgap).symm
        · cases hgap
      simp [hgap]

end Render

end Statement

end ImportOrder
