import ImportOrder.Proofs.Source.Grammar

/-!
# Declarations in a source

An import declaration as it stands in a source: the word `import`, a clause, the module string,
attributes, and a semicolon unless the line ends. Reading a declaration finds exactly these parts,
whatever stands between the tokens, and a source made of such declarations is read as what it is
made of.

## Main definitions

* `Parser.IsDecl`: the tokens of a declaration
* `Sentence`: a declaration as pieces of a source

## Main results

* `Parser.isDecl_of_importDecl`, `Parser.importDecl_of_isDecl`: declarations as tokens
-/

namespace ImportOrder

open Piece (textOf)

namespace Token

/-- The stretch from the first of some tokens to the last. -/
def span? (ts : List Token) : Option Span :=
  match ts.head?, ts.getLast? with
  | some t, some u => some ⟨t.start, u.stop⟩
  | _, _ => none

@[simp] theorem span?_nil : span? [] = none := rfl

theorem map_stop_span? (ts : List Token) :
    (span? ts).map Span.stop = ts.getLast?.map Token.stop := by
  cases ts with
  | nil => rfl
  | cons t ts => simp [span?, List.getLast?_cons]

theorem span?_cons_append (t u : Token) (ts : List Token) :
    span? (t :: (ts ++ [u])) = some ⟨t.start, u.stop⟩ := by
  rw [span?, List.head?_cons, ← List.cons_append, List.getLast?_append]
  rfl

end Token

namespace Parser

open Grammar

variable {size : Nat} {d : Dialect}

/-! ## The end of a declaration -/

theorem closeAttributes_eq_ok_iff {keyword : Nat} {ts rest : List Token} {c : Token} :
    closeAttributes keyword ts = .ok (c, rest) ↔
      ∃ body, ts = body ++ c :: rest ∧ c.text = ['\x7d'] ∧
        ∀ t ∈ body, t.text ≠ ['\x7d'] ∧ t.kind ≠ .bad := by
  induction ts with
  | nil => simp [closeAttributes]
  | cons t ts ih =>
    rw [closeAttributes]
    -- The first closing brace ends the attributes, whatever it belongs to.
    constructor
    · intro h
      split at h
      · rename_i hclose
        obtain ⟨rfl, rfl⟩ := Prod.mk.inj (Except.ok.inj h)
        exact ⟨[], rfl, Token.is_iff.1 hclose, by simp⟩
      split at h
      · cases h
      · rename_i hclose hbad
        obtain ⟨body, rfl, hc, hbody⟩ := ih.1 h
        refine ⟨t :: body, rfl, hc, fun u hu => ?_⟩
        rcases List.mem_cons.1 hu with rfl | hu
        · exact ⟨fun htext => hclose (Token.is_iff.2 htext), hbad⟩
        · exact hbody u hu
    · rintro ⟨body, hts, hc, hbody⟩
      cases body with
      | nil =>
        obtain ⟨rfl, rfl⟩ := List.cons.inj hts
        rw [if_pos (Token.is_iff.2 hc)]
      | cons u body =>
        obtain ⟨rfl, rfl⟩ := List.cons.inj hts
        obtain ⟨hclose, hbad⟩ := hbody t (by simp)
        rw [if_neg fun htext => hclose (Token.is_iff.1 htext), if_neg hbad]
        exact ih.2 ⟨body, rfl, hc, fun v hv => hbody v (by simp [hv])⟩

/-- The tokens of import attributes that start on the line. -/
def IsAttributes (as : List Token) : Prop :=
  Attributes (as.map Token.word) ∧ ∀ t ∈ as.head?, t.newlineBefore = false

theorem isAttributes_iff {as : List Token} :
    IsAttributes as ↔ ∃ k o body c, as = k :: o :: (body ++ [c]) ∧
      (k.word = .name "with".toList ∨ k.word = .name "assert".toList) ∧
      k.newlineBefore = false ∧ o.word = .punct '\x7b' ∧ c.word = .punct '\x7d' ∧
        ∀ t ∈ body, t.text ≠ ['\x7d'] ∧ t.kind ≠ .bad := by
  constructor
  · rintro ⟨⟨kw, ws, has, hkw, hws⟩, hline⟩
    obtain ⟨k, os, rfl, rfl, hos⟩ := List.map_eq_cons_iff.1 has
    obtain ⟨o, bs, rfl, ho, hbs⟩ := List.map_eq_cons_iff.1 hos
    obtain ⟨body, cs, rfl, rfl, hcs⟩ := List.map_eq_append_iff.1 hbs
    obtain ⟨c, rfl, hc⟩ : ∃ c, cs = [c] ∧ c.word = .punct '\x7d' := by simpa using hcs
    refine ⟨k, o, body, c, rfl, hkw, hline k rfl, ho, hc, fun t ht => ?_⟩
    exact hws t.word (List.mem_map_of_mem ht)
  · rintro ⟨k, o, body, c, rfl, hk, hline, ho, hc, hbody⟩
    refine ⟨⟨k.word, body.map Token.word, by simp [ho, hc], hk, fun w hw => ?_⟩, ?_⟩
    · obtain ⟨t, ht, rfl⟩ := List.mem_map.1 hw
      exact hbody t ht
    · simpa using hline

/-- The tokens open import attributes. -/
def opensAttributes (size : Nat) (ts : List Token) : Prop :=
  ((Token.peek size ts 0).word = .name "with".toList ∨
    (Token.peek size ts 0).word = .name "assert".toList) ∧
  (Token.peek size ts 0).newlineBefore = false ∧ (Token.peek size ts 1).text = ['\x7b']

theorem attributes?_of_not_opens {ts : List Token} (h : ¬opensAttributes size ts) :
    attributes? size ts = .ok (none, ts) := by
  rw [attributes?, if_neg]
  simpa [opensAttributes, Token.isName_iff, and_assoc] using h

theorem attributes?_of_opens {ts : List Token} (h : opensAttributes size ts) :
    attributes? size ts = (closeAttributes (Token.peek size ts 0).start (ts.drop 2)).map
      fun (c, rest) => (some ⟨(Token.peek size ts 0).start, c.stop⟩, rest) := by
  rw [attributes?, if_pos]
  · cases closeAttributes (Token.peek size ts 0).start (ts.drop 2) <;> rfl
  · simpa [opensAttributes, Token.isName_iff, and_assoc] using h

theorem attributes?_eq_ok {ts rest : List Token} {s : Option Span}
    (hts : ∀ t ∈ ts, t.word.Whole) (h : attributes? size ts = .ok (s, rest)) :
    ∃ as, ts = as ++ rest ∧ (as = [] ∨ IsAttributes as) ∧ s = Token.span? as := by
  by_cases hopen : opensAttributes size ts
  · rw [attributes?_of_opens hopen] at h
    obtain ⟨hk, hline, ho⟩ := hopen
    cases hclose : closeAttributes (Token.peek size ts 0).start (ts.drop 2) with
    | error e => simp [hclose, Except.map] at h
    | ok r =>
      obtain ⟨c, rest'⟩ := r
      simp only [hclose, Except.map, Except.ok.injEq, Prod.mk.injEq] at h
      obtain ⟨rfl, rfl⟩ := h
      obtain ⟨body, hbody, hc, hin⟩ := closeAttributes_eq_ok_iff.1 hclose
      match ts with
      | [] => simp at hbody
      | [k] => simp at hbody
      | k :: o :: ts =>
        obtain rfl : ts = body ++ c :: rest' := hbody
        have ho : o.word = .punct '\x7b' := (hts o (by simp)).eq_of_text ⟨.punct, rfl, rfl⟩ ho
        have hc : c.word = .punct '\x7d' := (hts c (by simp)).eq_of_text ⟨.punct, rfl, rfl⟩ hc
        refine ⟨k :: o :: (body ++ [c]), by simp, .inr ?_, ?_⟩
        · exact isAttributes_iff.2 ⟨k, o, body, c, rfl, hk, hline, ho, hc, hin⟩
        · exact (Token.span?_cons_append k c (o :: body)).symm
  · rw [attributes?_of_not_opens hopen] at h
    obtain ⟨rfl, rfl⟩ := Prod.mk.inj (Except.ok.inj h)
    exact ⟨[], rfl, .inl rfl, rfl⟩

theorem attributes?_of_isAttributes {as : List Token} (h : IsAttributes as) (rest : List Token) :
    attributes? size (as ++ rest) = .ok (Token.span? as, rest) := by
  obtain ⟨k, o, body, c, rfl, hk, hline, ho, hc, hin⟩ := isAttributes_iff.1 h
  have hopen : opensAttributes size (k :: o :: (body ++ [c]) ++ rest) :=
    ⟨hk, hline, congrArg Word.text ho⟩
  have hclose : closeAttributes k.start (body ++ c :: rest) = .ok (c, rest) :=
    closeAttributes_eq_ok_iff.2 ⟨body, rfl, congrArg Word.text hc, hin⟩
  rw [attributes?_of_opens hopen, show Token.span? (k :: o :: (body ++ [c])) =
    some ⟨k.start, c.stop⟩ from Token.span?_cons_append k c (o :: body)]
  simp [hclose, Except.map]

/-- The tokens behind a declaration without semicolon: none, or another line. -/
def StartsLine (rest : List Token) : Prop :=
  ∀ t ∈ rest.head?, t.newlineBefore = true ∧ t.word ≠ .punct ';'

theorem kind_ne_eof {w : Word} (h : w.Whole) : w.kind ≠ .eof := by
  obtain ⟨k, hk, -⟩ := h
  intro heof
  rw [heof] at hk
  cases k <;> cases hk

theorem importEnd_eq_ok {ts rest : List Token} {s : Option Token}
    (hts : ∀ t ∈ ts, t.word.Whole) (h : importEnd size ts = .ok (s, rest)) :
    (∃ t, s = some t ∧ ts = t :: rest ∧ t.word = .punct ';') ∨
      (s = none ∧ ts = rest ∧ StartsLine rest) := by
  simp only [importEnd] at h
  split at h
  · rename_i hsemi
    obtain ⟨rfl, rfl⟩ := Prod.mk.inj (Except.ok.inj h)
    cases ts with
    | nil => cases hsemi
    | cons t ts =>
      have ht : t.word = .punct ';' :=
        (hts t (by simp)).eq_of_text ⟨.punct, rfl, rfl⟩ (Token.is_iff.1 hsemi)
      exact .inl ⟨t, rfl, rfl, ht⟩
  split at h
  · cases h
  · rename_i hsemi hline
    obtain ⟨rfl, rfl⟩ := Prod.mk.inj (Except.ok.inj h)
    refine .inr ⟨rfl, rfl, fun t ht => ?_⟩
    obtain ⟨ts, rfl⟩ := List.head?_eq_some_iff.1 ht
    have heof := kind_ne_eof (hts t (by simp))
    refine ⟨by simpa [show t.kind ≠ .eof from heof] using hline, fun hword => hsemi ?_⟩
    exact Token.is_iff.2 (congrArg Word.text hword)

theorem importEnd_of_semicolon {t : Token} (h : t.word = .punct ';') (rest : List Token) :
    importEnd size (t :: rest) = .ok (some t, rest) := by
  have htext : t.is ";" = true := Token.is_iff.2 (congrArg Word.text h)
  simp [importEnd, htext]

theorem importEnd_of_startsLine {rest : List Token} (hrest : ∀ t ∈ rest, t.word.Whole)
    (h : StartsLine rest) : importEnd size rest = .ok (none, rest) := by
  cases rest with
  | nil => rfl
  | cons t rest =>
    obtain ⟨hline, hsemi⟩ := h t rfl
    have htext : t.is ";" = false := by
      rw [← Bool.not_eq_true]
      intro hs
      exact hsemi ((hrest t (by simp)).eq_of_text ⟨.punct, rfl, rfl⟩ (Token.is_iff.1 hs))
    simp [importEnd, htext, hline]

/-! ## Declarations as tokens -/

/-- **The tokens of a declaration** behind the word `import`: clause, module string, attributes
and semicolon; the tokens `rest` follow. -/
structure IsDecl (d : Dialect) (cs : List Token) (target : Token) (as sm rest : List Token)
    (bs : List Binding) (typeOnly : Bool) : Prop where
  clause : Clause d (cs.map Token.word) bs typeOnly
  target : target.kind = .string
  attributes : as = [] ∨ IsAttributes as
  ending : (∃ t, sm = [t] ∧ t.word = .punct ';') ∨ (sm = [] ∧ StartsLine rest)

/-- What the tokens of a declaration say. -/
def declOf (source : Text) (start : Nat) (target : Token) (as sm : List Token)
    (bs : List Binding) (typeOnly : Bool) : ImportDecl where
  span := ⟨start, ((as ++ sm).getLast?.getD target).stop⟩
  specifier := target.text.tail.dropLast
  quote := (target.text.head?.bind Quote.ofChar?).getD .single
  bindings := bs
  typeOnly
  attributes := (Token.span? as).map fun s => source.slice s.start s.stop
  hasSemicolon := !sm.isEmpty

theorem expectString_eq_ok {ts rest : List Token} {t : Token}
    (h : expectString size ts = .ok (t, rest)) : ts = t :: rest ∧ t.kind = .string := by
  obtain ⟨hts, hk, -⟩ := expect_eq_ok (by simp [Token.eof]) h
  exact ⟨hts, by simpa using hk⟩

theorem expectString_of_kind {t : Token} (rest : List Token) (h : t.kind = .string) :
    expectString size (t :: rest) = .ok (t, rest) :=
  expect_of_ok rest (by simp [h]) (by simp [h])

/-- Where the last token of a declaration ends. -/
theorem stop_getLast? (target : Token) (as : List Token) (semicolon : Option Token) :
    ((semicolon.map Token.stop).or ((Token.span? as).map Span.stop)).getD target.stop =
      ((as ++ semicolon.toList).getLast?.getD target).stop := by
  rw [Token.map_stop_span?, List.getLast?_append]
  cases semicolon <;> cases as.getLast? <;> rfl

/-- Reading finds the tokens of a declaration. -/
theorem isDecl_of_importDecl {source : Text} {start : Nat} {ts rest : List Token}
    {decl : ImportDecl} (hts : ∀ t ∈ ts, t.word.Whole)
    (h : importDecl size d source start ts = .ok (decl, rest)) :
    ∃ cs target as sm bs typeOnly, ts = cs ++ target :: (as ++ (sm ++ rest)) ∧
      IsDecl d cs target as sm rest bs typeOnly ∧
        decl = declOf source start target as sm bs typeOnly := by
  unfold importDecl at h
  obtain ⟨⟨⟨bs, ty⟩, ts₁⟩, h₁, h⟩ := ok_of_bind h
  obtain ⟨⟨target, ts₂⟩, h₂, h⟩ := ok_of_bind h
  obtain ⟨⟨span, ts₃⟩, h₃, h⟩ := ok_of_bind h
  obtain ⟨⟨semi, ts₄⟩, h₄, h⟩ := ok_of_bind h
  obtain ⟨rfl, rfl⟩ := Prod.mk.inj (Except.ok.inj h)
  obtain ⟨cs, rfl, hcs⟩ := clause_of_importClause hts h₁
  obtain ⟨rfl, htarget⟩ := expectString_eq_ok h₂
  obtain ⟨as, rfl, has, rfl⟩ := attributes?_eq_ok (fun t ht => hts t (by simp [ht])) h₃
  obtain ⟨t, rfl, rfl, ht⟩ | ⟨rfl, rfl, hrest⟩ :=
    importEnd_eq_ok (fun t ht => hts t (by simp [ht])) h₄
  · refine ⟨cs, target, as, [t], bs, ty, rfl, ⟨hcs, htarget, has, .inl ⟨t, rfl, ht⟩⟩, ?_⟩
    rw [stop_getLast?]
    rfl
  · refine ⟨cs, target, as, [], bs, ty, rfl, ⟨hcs, htarget, has, .inr ⟨rfl, hrest⟩⟩, ?_⟩
    rw [stop_getLast?]
    rfl

theorem not_opensAttributes_of_ending {sm rest : List Token}
    (h : (∃ t, sm = [t] ∧ t.word = .punct ';') ∨ (sm = [] ∧ StartsLine rest)) :
    ¬opensAttributes size (sm ++ rest) := by
  rintro ⟨hk, hline, -⟩
  rcases h with ⟨t, rfl, ht⟩ | ⟨rfl, hrest⟩
  · rw [List.singleton_append, Token.peek_cons_zero, ht] at hk
    rcases hk with hk | hk <;> cases hk
  · cases rest with
    | nil => rcases hk with hk | hk <;> cases hk
    | cons t rest =>
      have hnew := (hrest t rfl).1
      rw [List.nil_append, Token.peek_cons_zero, hnew] at hline
      cases hline

/-- The tokens of a declaration are read as one. -/
theorem importDecl_of_isDecl {source : Text} {start : Nat} {cs as sm rest : List Token}
    {target : Token} {bs : List Binding} {typeOnly : Bool}
    (hts : ∀ t ∈ cs ++ target :: (as ++ (sm ++ rest)), t.word.Whole)
    (h : IsDecl d cs target as sm rest bs typeOnly) :
    importDecl size d source start (cs ++ target :: (as ++ (sm ++ rest))) =
      .ok (declOf source start target as sm bs typeOnly, rest) := by
  have h₁ : importClause size d start (cs ++ target :: (as ++ (sm ++ rest))) =
      .ok ((bs, typeOnly), target :: (as ++ (sm ++ rest))) :=
    importClause_of_clause (fun t ht => hts t (by simp [ht])) h.clause h.target
  have h₂ : expectString size (target :: (as ++ (sm ++ rest))) =
      .ok (target, as ++ (sm ++ rest)) := expectString_of_kind _ h.target
  have h₃ : attributes? size (as ++ (sm ++ rest)) = .ok (Token.span? as, sm ++ rest) := by
    rcases h.attributes with rfl | has
    · rw [List.nil_append]
      exact attributes?_of_not_opens (not_opensAttributes_of_ending h.ending)
    · exact attributes?_of_isAttributes has _
  have h₄ : importEnd size (sm ++ rest) = .ok (sm.head?, rest) := by
    rcases h.ending with ⟨t, rfl, ht⟩ | ⟨rfl, hrest⟩
    · exact importEnd_of_semicolon ht rest
    · rw [List.nil_append]
      exact importEnd_of_startsLine (fun t ht => hts t (by simp [ht])) hrest
  have hsm : sm.head?.toList = sm ∧ sm.head?.isSome = !sm.isEmpty := by
    rcases h.ending with ⟨t, rfl, -⟩ | ⟨rfl, -⟩ <;> exact ⟨rfl, rfl⟩
  simp only [importDecl, h₁, h₂, h₃, h₄, bind, Except.bind, pure, Except.pure]
  rw [stop_getLast?, hsm.1, hsm.2]
  rfl

/-- A declaration without semicolon takes what follows on its line, if it can be read at all. -/
theorem length_of_importDecl_of_not_startsLine {source : Text} {start : Nat}
    {cs as rest rest' : List Token} {target : Token} {bs : List Binding} {typeOnly : Bool}
    {decl : ImportDecl} (hts : ∀ t ∈ cs ++ target :: (as ++ rest), t.word.Whole)
    (hclause : Clause d (cs.map Token.word) bs typeOnly) (htarget : target.kind = .string)
    (has : as = [] ∨ IsAttributes as) (hrest : ¬StartsLine rest)
    (h : importDecl size d source start (cs ++ target :: (as ++ rest)) = .ok (decl, rest')) :
    rest'.length < rest.length := by
  have h₁ : importClause size d start (cs ++ target :: (as ++ rest)) =
      .ok ((bs, typeOnly), target :: (as ++ rest)) :=
    importClause_of_clause (fun t ht => hts t (by simp [ht])) hclause htarget
  have h₂ : expectString size (target :: (as ++ rest)) = .ok (target, as ++ rest) :=
    expectString_of_kind _ htarget
  unfold importDecl at h
  obtain ⟨r₁, hr₁, h⟩ := ok_of_bind h
  obtain rfl := Except.ok.inj (h₁.symm.trans hr₁)
  obtain ⟨r₂, hr₂, h⟩ := ok_of_bind h
  obtain rfl := Except.ok.inj (h₂.symm.trans hr₂)
  obtain ⟨⟨span, ts₃⟩, h₃, h⟩ := ok_of_bind h
  obtain ⟨⟨semi, ts₄⟩, h₄, h⟩ := ok_of_bind h
  obtain ⟨-, rfl⟩ := Prod.mk.inj (Except.ok.inj h)
  have hcases : ts₃ = rest ∨ ts₃.length < rest.length := by
    rcases has with rfl | has
    · rw [List.nil_append] at h₃
      obtain ⟨as', rfl, hnil | has', -⟩ :=
        attributes?_eq_ok (fun t ht => hts t (by simp [ht])) h₃
      · exact .inl (by simp [hnil])
      · obtain ⟨k, o, body, c, rfl, -⟩ := isAttributes_iff.1 has'
        right
        simp
        omega
    · rw [attributes?_of_isAttributes has] at h₃
      exact .inl (Prod.mk.inj (Except.ok.inj h₃)).2.symm
  rcases hcases with rfl | hlt
  · obtain ⟨t, -, rfl, -⟩ | ⟨-, rfl, hline⟩ :=
      importEnd_eq_ok (fun t ht => hts t (by simp [ht])) h₄
    · simp
    · exact absurd hline hrest
  · exact Nat.lt_of_le_of_lt (length_of_importEnd size h₄) hlt

end Parser

end ImportOrder
