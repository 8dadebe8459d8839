import ImportOrder.Proofs.Source.Declaration

/-!
# The layout of a head

The head of a source as a row of pieces: directives, then gaps and declarations in turn, and at
last a gap and the code. Reading a source finds its layout, and a source laid out in this way is
read as the declarations of its layout, at the offsets where their pieces stand.

## Main definitions

* `Sentence`: a declaration as pieces
* `Segment`: a sentence and the gap before it

## Main results

* `Parser.segments_of_imports`, `Parser.imports_of_segments`: declarations in a row
-/

namespace ImportOrder

open Piece (textOf)

namespace Text

@[simp] theorem slice_append (t u v : Text) :
    slice (t ++ (u ++ v)) t.length (t.length + u.length) = u := by
  rw [slice, List.take_length_add_append, List.take_left, List.drop_left]

end Text

namespace Token

theorem head?_ofPieces_of_isRun {run : List Piece} (h : IsRun run) (offset : Nat)
    (newline : Bool) :
    ∃ t, (ofPieces offset newline run).head? = some t ∧ t.start = offset ∧
      t.newlineBefore = newline := by
  obtain ⟨p, ps, rfl, hp⟩ := h.first
  obtain ⟨k, hk⟩ := Piece.exists_token_of_isGap hp
  exact ⟨⟨k, p.text, offset, newline⟩, by simp [ofPieces, hk], rfl, rfl⟩

theorem getLast?_ofPieces_of_isRun {run : List Piece} (h : IsRun run) (offset : Nat)
    (newline : Bool) :
    ∃ t, (ofPieces offset newline run).getLast? = some t ∧
      t.stop = offset + (textOf run).length := by
  obtain ⟨ps, p, rfl, hp⟩ := h.last
  obtain ⟨k, hk⟩ := Piece.exists_token_of_isGap hp
  refine ⟨⟨k, p.text, offset + (textOf ps).length, pending newline ps⟩, ?_, ?_⟩
  · rw [ofPieces_append, List.getLast?_append]
    simp [ofPieces, hk]
  · simp [stop, Nat.add_assoc]

theorem span?_ofPieces_of_isRun {run : List Piece} (h : IsRun run) (offset : Nat)
    (newline : Bool) :
    span? (ofPieces offset newline run) = some ⟨offset, offset + (textOf run).length⟩ := by
  obtain ⟨t, ht, hstart, -⟩ := head?_ofPieces_of_isRun h offset newline
  obtain ⟨u, hu, hstop⟩ := getLast?_ofPieces_of_isRun h offset newline
  simp [span?, ht, hu, hstart, hstop]

/-- Where the last of some tokens ends: in the second row, else in the first, else at `t`. -/
theorem stop_getLast?_append (t : Token) (us vs : List Token) :
    ((us ++ vs).getLast?.getD t).stop =
      (vs.getLast?.map stop).getD ((us.getLast?.map stop).getD t.stop) := by
  rw [List.getLast?_append]
  cases vs.getLast? with
  | some v => rfl
  | none => cases us.getLast? <;> rfl

end Token

/-! ## Sentences -/

/-- **A declaration as pieces**: those before the module string, the string, the attributes with
the gap before them, and the gap before the semicolon; and what the clause binds. -/
structure Sentence where
  clause : List Piece
  target : Text
  attributes : Option (List Piece × List Piece)
  semicolon : Option (List Piece)
  bindings : List Binding
  typeOnly : Bool

namespace Sentence

/-- The pieces of the attributes and the gap before them. -/
def attributePieces (s : Sentence) : List Piece :=
  match s.attributes with
  | some (gap, as) => gap ++ as
  | none => []

/-- The pieces of the semicolon and the gap before it. -/
def semicolonPieces (s : Sentence) : List Piece :=
  match s.semicolon with
  | some gap => gap ++ [⟨.punct, [';']⟩]
  | none => []

/-- The pieces of a sentence. -/
def pieces (s : Sentence) : List Piece :=
  s.clause ++ ⟨.string, s.target⟩ :: (s.attributePieces ++ s.semicolonPieces)

/-- **A sentence of the grammar.** -/
structure IsValid (d : Dialect) (s : Sentence) : Prop where
  clause : ∃ ps, s.clause = ⟨.name, "import".toList⟩ :: ps ∧
    Grammar.Clause d (Piece.words ps) s.bindings s.typeOnly
  attributes : ∀ gap as, s.attributes = some (gap, as) →
    (∀ p ∈ gap, p.isGap ∧ p.endsLine = false) ∧ Token.IsRun as ∧ Grammar.Attributes (Piece.words as)
  semicolon : ∀ gap, s.semicolon = some gap → ∀ p ∈ gap, p.isGap

/-- The declaration that a sentence is at an offset. -/
def decl (s : Sentence) (offset : Nat) : ImportDecl where
  span := ⟨offset, offset + (textOf s.pieces).length⟩
  specifier := s.target.tail.dropLast
  quote := (s.target.head?.bind Quote.ofChar?).getD .single
  bindings := s.bindings
  typeOnly := s.typeOnly
  attributes := s.attributes.map fun (_, as) => textOf as
  hasSemicolon := s.semicolon.isSome

/-! ### The tokens of a sentence -/

theorem exists_attributeTokens {d : Dialect} {s : Sentence} (h : s.IsValid d) (offset : Nat) :
    ∃ as, (as = [] ∨ Parser.IsAttributes as) ∧
      (∀ more, Token.ofPieces offset false (s.attributePieces ++ more) =
        as ++ Token.ofPieces (offset + (textOf s.attributePieces).length) false more) ∧
      (as.getLast?.map Token.stop).getD offset = offset + (textOf s.attributePieces).length ∧
      ∀ pre rest : Text, pre.length = offset →
        (Token.span? as).map
            (fun sp => (pre ++ (textOf s.attributePieces ++ rest)).slice sp.start sp.stop) =
          s.attributes.map fun (_, as) => textOf as := by
  unfold attributePieces
  cases ha : s.attributes with
  | none => exact ⟨[], .inl rfl, by simp, by simp, by simp⟩
  | some a =>
    obtain ⟨gap, as⟩ := a
    obtain ⟨hgap, hrun, hwords⟩ := h.attributes gap as ha
    have hgaps : ∀ p ∈ gap, p.isGap := fun p hp => (hgap p hp).1
    have hline : gap.any Piece.endsLine = false := by
      simpa using fun p hp => (hgap p hp).2
    obtain ⟨t, ht, -, htline⟩ :=
      Token.head?_ofPieces_of_isRun hrun (offset + (textOf gap).length) false
    obtain ⟨u, hu, hustop⟩ :=
      Token.getLast?_ofPieces_of_isRun hrun (offset + (textOf gap).length) false
    refine ⟨Token.ofPieces (offset + (textOf gap).length) false as, .inr ⟨?_, ?_⟩, ?_, ?_, ?_⟩
    · rwa [Token.map_word_ofPieces]
    · intro v hv
      obtain rfl : t = v := Option.some.inj (ht.symm.trans hv)
      exact htline
    · intro more
      simp only [List.append_assoc]
      rw [Token.ofPieces_gap_append hgaps, hline, Bool.or_self, Token.ofPieces_append,
        hrun.pending]
      simp [Nat.add_assoc]
    · simp [hu, hustop, Nat.add_assoc]
    · rintro pre rest rfl
      rw [Token.span?_ofPieces_of_isRun hrun]
      have hslice := Text.slice_append (pre ++ textOf gap) (textOf as) rest
      simpa [Nat.add_assoc] using hslice

theorem exists_semicolonTokens {d : Dialect} {s : Sentence} (h : s.IsValid d) (offset : Nat) :
    ∃ sm, ((s.semicolon = none ∧ sm = []) ∨
        (s.semicolon.isSome ∧ ∃ t : Token, sm = [t] ∧ t.word = .punct ';')) ∧
      (∀ more, Token.ofPieces offset false (s.semicolonPieces ++ more) =
        sm ++ Token.ofPieces (offset + (textOf s.semicolonPieces).length) false more) ∧
      (sm.getLast?.map Token.stop).getD offset = offset + (textOf s.semicolonPieces).length := by
  unfold semicolonPieces
  cases hs : s.semicolon with
  | none => exact ⟨[], .inl ⟨rfl, rfl⟩, by simp, by simp⟩
  | some gap =>
    have hgap := h.semicolon gap hs
    refine ⟨[⟨.punct, [';'], offset + (textOf gap).length, gap.any Piece.endsLine⟩],
      .inr ⟨rfl, _, rfl, rfl⟩, ?_, ?_⟩
    · intro more
      rw [List.append_assoc, List.singleton_append, Token.ofPieces_gap_cons hgap rfl]
      simp [Nat.add_assoc]
    · simp [Token.stop, Nat.add_assoc]

/-- The tokens of a sentence are those of its declaration. -/
theorem exists_tokens {d : Dialect} {s : Sentence} (h : s.IsValid d) (pre : Text)
    (newline : Bool) (more : List Piece) :
    ∃ cs target as sm,
      Token.ofPieces pre.length newline (s.pieces ++ more) =
        ⟨.name, "import".toList, pre.length, newline⟩ :: (cs ++ target :: (as ++ (sm ++
          Token.ofPieces (pre.length + (textOf s.pieces).length) false more))) ∧
      Grammar.Clause d (cs.map Token.word) s.bindings s.typeOnly ∧ target.kind = .string ∧
      (as = [] ∨ Parser.IsAttributes as) ∧
      ((s.semicolon = none ∧ sm = []) ∨
        (s.semicolon.isSome ∧ ∃ t : Token, sm = [t] ∧ t.word = .punct ';')) ∧
      Parser.declOf (pre ++ textOf (s.pieces ++ more)) pre.length target as sm s.bindings
        s.typeOnly = s.decl pre.length := by
  obtain ⟨ps, hps, hclause⟩ := h.clause
  let front := pre ++ textOf s.clause
  obtain ⟨as, has, hastok, hasstop, hasslice⟩ :=
    exists_attributeTokens h (front.length + s.target.length)
  obtain ⟨sm, hsm, hsmtok, hsmstop⟩ :=
    exists_semicolonTokens h (front.length + s.target.length + (textOf s.attributePieces).length)
  have hlen : front.length = pre.length + (textOf s.clause).length := by simp [front]
  have hclen : (textOf s.clause).length = 6 + (textOf ps).length := by
    rw [hps]
    simp
    omega
  have hend : front.length + s.target.length + (textOf s.attributePieces).length +
      (textOf s.semicolonPieces).length = pre.length + (textOf s.pieces).length := by
    simp [hlen, pieces, Nat.add_assoc]
  refine ⟨Token.ofPieces (pre.length + 6) false ps,
    ⟨.string, s.target, front.length, Token.pending false ps⟩, as, sm, ?_, ?_, rfl, has, hsm, ?_⟩
  · have hat : pre.length + 6 + (textOf ps).length = front.length := by
      rw [hlen, hclen]
      omega
    have hrow : s.pieces ++ more = ⟨.name, "import".toList⟩ :: (ps ++
        ⟨.string, s.target⟩ :: (s.attributePieces ++ (s.semicolonPieces ++ more))) := by
      simp [pieces, hps]
    have hfirst : Token.ofPieces pre.length newline (s.pieces ++ more) =
        ⟨.name, "import".toList, pre.length, newline⟩ :: Token.ofPieces (pre.length + 6) false
          (ps ++ ⟨.string, s.target⟩ :: (s.attributePieces ++ (s.semicolonPieces ++ more))) := by
      rw [hrow]
      rfl
    rw [hfirst, Token.ofPieces_append, hat]
    simp only [Token.ofPieces, PieceKind.token?, hastok, hsmtok, hend]
  · rwa [Token.map_word_ofPieces]
  · have hslice := hasslice (front ++ s.target) (textOf s.semicolonPieces ++ textOf more) (by simp)
    simp only [Parser.declOf, decl]
    congr 1
    · -- The sentence ends with its semicolon, its attributes or its string, whichever comes last.
      refine congrArg (Span.mk _) ?_
      rw [Token.stop_getLast?_append, ← hend, ← hsmstop, ← hasstop]
      rfl
    · rw [← hslice]
      simp [front, pieces]
    · rcases hsm with ⟨hn, rfl⟩ | ⟨hs, t, rfl, -⟩
      · simp [hn]
      · simp [hs]

/-! ### The sentence of tokens -/

theorem exists_clause {offset : Nat} {newline : Bool} {run : List Piece} {t target : Token}
    {cs : List Token} (hrun : Token.IsRun run)
    (htok : Token.ofPieces offset newline run = t :: (cs ++ [target]))
    (ht : t.word = .name "import".toList) (htarget : target.kind = .string) :
    ∃ ps, run = ⟨.name, "import".toList⟩ :: ps ++ [⟨.string, target.text⟩] ∧
      Piece.words ps = cs.map Token.word := by
  obtain ⟨init, p, rfl, hp⟩ := hrun.last
  rw [Token.ofPieces_append, ← List.cons_append] at htok
  obtain ⟨k, hk⟩ := Piece.exists_token_of_isGap hp
  simp only [Token.ofPieces, hk] at htok
  obtain ⟨hinit, hlast⟩ := List.append_inj' htok rfl
  obtain rfl := (List.cons.inj hlast).1
  obtain ⟨q, qs, hq, hqgap⟩ := hrun.first
  cases init with
  | nil => simp at hinit
  | cons q' init =>
    obtain rfl : q' = q := (List.cons.inj hq).1
    obtain ⟨l, hl⟩ := Piece.exists_token_of_isGap hqgap
    simp only [Token.ofPieces, hl] at hinit
    obtain ⟨rfl, hcs⟩ := List.cons.inj hinit
    refine ⟨init, ?_, by rw [← hcs, Token.map_word_ofPieces]⟩
    obtain ⟨kind, text⟩ := q'
    obtain ⟨kind', text'⟩ := p
    obtain ⟨rfl, rfl⟩ : l = .name ∧ text = "import".toList := by
      simpa [Token.word, Word.name] using ht
    obtain rfl : kind = .name := by cases kind <;> simp_all [PieceKind.token?]
    obtain rfl : kind' = .string := by cases kind' <;> simp_all [PieceKind.token?]
    rfl

theorem exists_attributes {offset : Nat} {ps : List Piece} {as ts : List Token}
    (has : as = [] ∨ Parser.IsAttributes as)
    (htok : Token.ofPieces offset false ps = as ++ ts) :
    ∃ attributes : Option (List Piece × List Piece), ∃ more : List Piece,
      ps = (match attributes with | some (gap, as) => gap ++ as | none => []) ++ more ∧
      (∀ gap as, attributes = some (gap, as) → (∀ p ∈ gap, p.isGap ∧ p.endsLine = false) ∧
        Token.IsRun as ∧ Grammar.Attributes (Piece.words as)) ∧
      ∃ offset', Token.ofPieces offset' false more = ts := by
  rcases has with rfl | has
  · exact ⟨none, ps, rfl, by simp, offset, htok⟩
  · obtain ⟨k, o, body, c, hask, -⟩ := Parser.isAttributes_iff.1 has
    obtain ⟨gap, run, rest, rfl, hgap, hrun, hastok, hts⟩ := Token.exists_run htok (by simp [hask])
    obtain ⟨t, ht, -, hline⟩ := Token.head?_ofPieces_of_isRun hrun
      (offset + (textOf gap).length) (false || gap.any Piece.endsLine)
    refine ⟨some (gap, run), rest, rfl, ?_, _, hts⟩
    rintro gap' as' heq
    obtain ⟨rfl, rfl⟩ := Prod.mk.inj (Option.some.inj heq)
    refine ⟨fun p hp => ⟨hgap p hp, ?_⟩, hrun, ?_⟩
    · rw [hastok] at ht
      have hfalse := has.2 t ht
      rw [hline, Bool.false_or] at hfalse
      simpa using List.any_eq_false.1 hfalse p hp
    · rw [← Token.map_word_ofPieces (offset + (textOf gap).length)
        (false || gap.any Piece.endsLine), hastok]
      exact has.1

theorem eq_singleton_of_isRun {offset : Nat} {newline : Bool} {run : List Piece} {t : Token}
    (hrun : Token.IsRun run) (htok : Token.ofPieces offset newline run = [t]) :
    ∃ p, run = [p] ∧ p.word? = some t.word := by
  obtain ⟨init, p, rfl, hp⟩ := hrun.last
  obtain ⟨k, hk⟩ := Piece.exists_token_of_isGap hp
  simp only [Token.ofPieces_append, Token.ofPieces, hk] at htok
  obtain ⟨hinit, hlast⟩ : Token.ofPieces offset newline init = [] ∧ _ = t := by
    simpa [List.append_eq_singleton_iff] using htok
  have hnil : init = [] := by
    obtain ⟨q, qs, hq, hqgap⟩ := hrun.first
    cases init with
    | nil => rfl
    | cons q' init =>
      obtain rfl : q' = q := (List.cons.inj hq).1
      obtain ⟨l, hl⟩ := Piece.exists_token_of_isGap hqgap
      simp [Token.ofPieces, hl] at hinit
  exact ⟨p, by simp [hnil], by simp [Piece.word?, hk, ← hlast, Token.word]⟩

theorem exists_semicolon {offset : Nat} {ps : List Piece} {sm ts : List Token}
    (hsm : sm = [] ∨ ∃ t, sm = [t] ∧ t.word = .punct ';')
    (htok : Token.ofPieces offset false ps = sm ++ ts) :
    ∃ semicolon : Option (List Piece), ∃ more : List Piece,
      ps = (match semicolon with | some gap => gap ++ [⟨.punct, [';']⟩] | none => []) ++ more ∧
      (∀ gap, semicolon = some gap → ∀ p ∈ gap, p.isGap) ∧
      (semicolon = none ↔ sm = []) ∧ ∃ offset', Token.ofPieces offset' false more = ts := by
  rcases hsm with rfl | ⟨t, rfl, ht⟩
  · exact ⟨none, ps, rfl, by simp, by simp, offset, htok⟩
  · obtain ⟨gap, run, rest, rfl, hgap, hrun, hsmtok, hts⟩ := Token.exists_run htok (by simp)
    refine ⟨some gap, rest, ?_, ?_, by simp, _, hts⟩
    · obtain ⟨⟨kind, text⟩, rfl, hp⟩ := eq_singleton_of_isRun hrun hsmtok
      rw [ht] at hp
      obtain ⟨l, hl, hw⟩ := Option.map_eq_some_iff.1 hp
      obtain ⟨rfl, rfl⟩ : l = .punct ∧ text = [';'] := by simpa [Word.punct] using hw
      obtain rfl : kind = .punct := by cases kind <;> simp_all [PieceKind.token?]
      rfl
    · rintro gap' heq
      obtain rfl := Option.some.inj heq
      exact hgap

/-- The tokens of a declaration come from a sentence. -/
theorem exists_sentence {d : Dialect} {offset : Nat} {newline : Bool} {ps : List Piece}
    {t target : Token} {cs as sm rest : List Token} {bs : List Binding} {typeOnly : Bool}
    (htok : Token.ofPieces offset newline ps = t :: (cs ++ target :: (as ++ (sm ++ rest))))
    (ht : t.word = .name "import".toList)
    (h : Parser.IsDecl d cs target as sm rest bs typeOnly) :
    ∃ gap s more, ps = gap ++ (s.pieces ++ more) ∧ (∀ p ∈ gap, p.isGap) ∧ IsValid d s ∧
      s.bindings = bs ∧ s.typeOnly = typeOnly ∧ (s.semicolon = none ↔ sm = []) ∧
      ∃ offset', Token.ofPieces offset' false more = rest := by
  have hfront : Token.ofPieces offset newline ps =
      (t :: (cs ++ [target])) ++ (as ++ (sm ++ rest)) := by simpa using htok
  obtain ⟨gap, run, ps₁, rfl, hgap, hrun, hruntok, h₁⟩ := Token.exists_run hfront (by simp)
  obtain ⟨qs, rfl, hqs⟩ := exists_clause hrun hruntok ht h.target
  obtain ⟨attributes, ps₂, rfl, hattributes, offset₂, h₂⟩ := exists_attributes h.attributes h₁
  obtain ⟨semicolon, ps₃, rfl, hsemicolon, hnone, offset₃, h₃⟩ :=
    exists_semicolon (h.ending.symm.imp And.left id) h₂
  refine ⟨gap, ⟨⟨.name, "import".toList⟩ :: qs, target.text, attributes, semicolon, bs, typeOnly⟩,
    ps₃, ?_, hgap, ⟨⟨qs, rfl, ?_⟩, hattributes, hsemicolon⟩, rfl, rfl, hnone, offset₃, h₃⟩
  · simp [pieces, attributePieces, semicolonPieces]
  · rw [hqs]
    exact h.clause

end Sentence

namespace Parser

variable {size : Nat} {d : Dialect}

/-! ### Reading a sentence -/

/-- Whether tokens start a line does not depend on where they stand. -/
theorem startsLine_ofPieces {offset : Nat} {newline : Bool} {ps : List Piece}
    (h : StartsLine (Token.ofPieces offset newline ps)) (offset' : Nat) :
    StartsLine (Token.ofPieces offset' newline ps) := by
  induction ps generalizing offset offset' newline with
  | nil => exact h
  | cons p ps ih =>
    cases hk : p.kind.token? with
    | none =>
      simp only [Token.ofPieces, hk] at h ⊢
      exact ih h _
    | some k =>
      intro t ht
      simp only [Token.ofPieces, hk, List.head?_cons, Option.mem_some] at ht
      subst ht
      exact h ⟨k, p.text, offset, newline⟩ (by simp [Token.ofPieces, hk])

/-- A static import starts with the word `import`. -/
theorem word_of_startsImport {t : Token} {ts : List Token}
    (h : startsImport size (t :: ts) = true) : t.word = .name "import".toList := by
  simp only [startsImport, Bool.and_eq_true, Token.peek_cons_zero] at h
  exact Token.isName_iff.1 h.1

/-- A clause and the module string do not start like an expression. -/
theorem startsImport_of_next {t u : Token} {ts : List Token} (hwhole : u.word.Whole)
    (ht : t.word = .name "import".toList)
    (hu : u.kind = .name ∨ u.kind = .string ∨ u.word = .punct '*' ∨ u.word = .punct '\x7b') :
    startsImport size (t :: u :: ts) = true := by
  have hne : ∀ c, (Word.punct c).Whole → c ≠ '*' → c ≠ '\x7b' → u.text ≠ [c] := by
    intro c hc hstar hbrace htext
    have hword : u.word = .punct c := hwhole.eq_of_text hc htext
    have hkind : u.kind = .punct := congrArg Word.kind hword
    rcases hu with hu | hu | hu | hu
    · rw [hkind] at hu
      cases hu
    · rw [hkind] at hu
      cases hu
    · exact hstar (by simpa [Word.punct] using hword.symm.trans hu)
    · exact hbrace (by simpa [Word.punct] using hword.symm.trans hu)
  have hparen := hne '(' ⟨.punct, rfl, rfl⟩ (by decide) (by decide)
  have hdot := hne '.' ⟨.punct, rfl, rfl⟩ (by decide) (by decide)
  simp [startsImport, Token.isName_iff.2 ht, Token.is, hparen, hdot]

theorem startsImport_of_clause {t target : Token} {cs ts : List Token} {bs : List Binding}
    {typeOnly : Bool} (hts : ∀ u ∈ cs ++ target :: ts, u.word.Whole)
    (ht : t.word = .name "import".toList)
    (hclause : Grammar.Clause d (cs.map Token.word) bs typeOnly) (htarget : target.kind = .string) :
    startsImport size (t :: (cs ++ target :: ts)) = true := by
  rcases clause_head hclause with hnil | ⟨w, ws, hws, hw⟩
  · obtain rfl := List.map_eq_nil_iff.1 hnil
    exact startsImport_of_next (hts target (by simp)) ht (.inr (.inl htarget))
  · obtain ⟨u, us, rfl, rfl, -⟩ := List.map_eq_cons_iff.1 hws
    exact startsImport_of_next (hts u (by simp)) ht (hw.imp id .inr)

/-- A sentence is read as its declaration. -/
theorem importDecl_of_sentence {pre : Text} {s : Sentence} {more : List Piece}
    (hps : ∀ p ∈ s.pieces ++ more, Piece.StandsBefore p []) (hs : s.IsValid d)
    (hline : s.semicolon = none → StartsLine (Token.ofPieces 0 false more)) (newline : Bool) :
    ∃ ts, Token.ofPieces pre.length newline (s.pieces ++ more) =
        ⟨.name, "import".toList, pre.length, newline⟩ :: ts ∧
      startsImport size (⟨.name, "import".toList, pre.length, newline⟩ :: ts) = true ∧
      importDecl size d (pre ++ textOf (s.pieces ++ more)) pre.length ts =
        .ok (s.decl pre.length,
          Token.ofPieces (pre.length + (textOf s.pieces).length) false more) := by
  obtain ⟨cs, target, as, sm, htok, hclause, htarget, has, hsm, hdecl⟩ :=
    Sentence.exists_tokens hs pre newline more
  have hwhole : ∀ t ∈ cs ++ target :: (as ++ (sm ++
      Token.ofPieces (pre.length + (textOf s.pieces).length) false more)), t.word.Whole := by
    intro t ht
    have hmem := List.mem_cons_of_mem ⟨.name, "import".toList, pre.length, newline⟩ ht
    rw [← htok] at hmem
    exact Token.whole_of_mem_ofPieces hps hmem
  refine ⟨_, htok, startsImport_of_clause hwhole rfl hclause htarget, ?_⟩
  rw [← hdecl]
  refine importDecl_of_isDecl hwhole ⟨hclause, htarget, has, ?_⟩
  rcases hsm with ⟨hnone, rfl⟩ | ⟨-, hsm⟩
  · exact .inr ⟨rfl, startsLine_ofPieces (hline hnone) _⟩
  · exact .inl hsm

/-- Reading a declaration finds a sentence. -/
theorem sentence_of_importDecl {pre : Text} {newline : Bool} {ps : List Piece} {t : Token}
    {ts rest : List Token} {decl : ImportDecl} (hps : ∀ p ∈ ps, Piece.StandsBefore p [])
    (htok : Token.ofPieces pre.length newline ps = t :: ts)
    (hstart : startsImport size (t :: ts) = true)
    (h : importDecl size d (pre ++ textOf ps) t.start ts = .ok (decl, rest)) :
    ∃ gap s more, ps = gap ++ (Sentence.pieces s ++ more) ∧ (∀ p ∈ gap, p.isGap) ∧
      s.IsValid d ∧ decl = s.decl (pre ++ textOf gap).length ∧
      rest = Token.ofPieces ((pre ++ textOf gap).length + (textOf s.pieces).length) false more ∧
      (s.semicolon = none → StartsLine (Token.ofPieces 0 false more)) := by
  have hwhole : ∀ u ∈ t :: ts, u.word.Whole := by
    intro u hu
    rw [← htok] at hu
    exact Token.whole_of_mem_ofPieces hps hu
  have ht := word_of_startsImport hstart
  obtain ⟨cs, target, as, sm, bs, typeOnly, hts, hdecl, -⟩ :=
    isDecl_of_importDecl (fun u hu => hwhole u (by simp [hu])) h
  rw [hts] at htok
  obtain ⟨gap, s, more, rfl, hgap, hs, -, -, hnone, offset', hmore⟩ :=
    Sentence.exists_sentence htok ht hdecl
  have hline : s.semicolon = none → StartsLine (Token.ofPieces 0 false more) := by
    intro hn
    rcases hdecl.ending with ⟨u, rfl, -⟩ | ⟨-, hrest⟩
    · simpa using hnone.1 hn
    · rw [← hmore] at hrest
      exact startsLine_ofPieces hrest 0
  -- The sentence is read in its place, and there is only one result.
  obtain ⟨ts', htok', -, hread⟩ := @importDecl_of_sentence size d (pre ++ textOf gap) s more
    (fun p hp => hps p (List.mem_append_right gap hp)) hs hline
    (newline || gap.any Piece.endsLine)
  rw [Token.ofPieces_gap_append hgap, ← List.length_append, htok', ← hts] at htok
  obtain ⟨rfl, rfl⟩ := List.cons.inj htok
  rw [Piece.textOf_append, ← List.append_assoc] at h
  have heq := Except.ok.inj (h.symm.trans hread)
  obtain ⟨rfl, rfl⟩ := Prod.mk.inj heq
  exact ⟨gap, s, more, rfl, hgap, hs, rfl, rfl, hline⟩

end Parser

/-! ## Segments -/

/-- **A sentence and the gap before it.** -/
structure Segment where
  gap : List Piece
  sentence : Sentence

namespace Segment

/-- The pieces of a segment. -/
def pieces (g : Segment) : List Piece := g.gap ++ g.sentence.pieces

/-- The pieces of segments in a row. -/
def row (gs : List Segment) : List Piece := gs.flatMap pieces

@[simp] theorem row_nil : row [] = [] := rfl

@[simp] theorem row_cons (g : Segment) (gs : List Segment) :
    row (g :: gs) = g.gap ++ (g.sentence.pieces ++ row gs) := by
  simp [row, pieces]

/-- The declarations of segments that start at an offset. -/
def decls (offset : Nat) : List Segment → List ImportDecl
  | [] => []
  | g :: gs =>
    g.sentence.decl (offset + (textOf g.gap).length) ::
      decls (offset + (textOf g.gap).length + (textOf g.sentence.pieces).length) gs

/-- **Segments of the grammar** before other pieces: a sentence without semicolon is followed by a
new line. -/
def AreValid (d : Dialect) : List Segment → List Piece → Prop
  | [], _ => True
  | g :: gs, tail =>
    (∀ p ∈ g.gap, p.isGap) ∧ g.sentence.IsValid d ∧
      (g.sentence.semicolon = none →
        Parser.StartsLine (Token.ofPieces 0 false (row gs ++ tail))) ∧
      AreValid d gs tail

end Segment

namespace Parser

variable {size : Nat} {d : Dialect}

theorem word_peek (size : Nat) (ts : List Token) (n : Nat) :
    (Token.peek size ts n).word = (ts.map Token.word)[n]?.getD ⟨.eof, []⟩ := by
  rw [Token.peek, List.getD_eq_getElem?_getD, List.getElem?_map]
  cases ts[n]? <;> rfl

theorem startsImport_congr {size' : Nat} {ts us : List Token}
    (h : ts.map Token.word = us.map Token.word) : startsImport size ts = startsImport size' us := by
  have hpeek : ∀ n, (Token.peek size ts n).word = (Token.peek size' us n).word := by
    intro n
    rw [word_peek, word_peek, h]
  have hkind : ∀ n, (Token.peek size ts n).kind = (Token.peek size' us n).kind :=
    fun n => congrArg Word.kind (hpeek n)
  have htext : ∀ n, (Token.peek size ts n).text = (Token.peek size' us n).text :=
    fun n => congrArg Word.text (hpeek n)
  simp only [startsImport, Token.isName, Token.is, hkind, htext]

/-- Whether pieces start with a static import does not depend on where they stand. -/
theorem startsImport_ofPieces {ps : List Piece} (size' offset offset' : Nat)
    (newline newline' : Bool) :
    startsImport size (Token.ofPieces offset newline ps) =
      startsImport size' (Token.ofPieces offset' newline' ps) :=
  startsImport_congr (by rw [Token.map_word_ofPieces, Token.map_word_ofPieces])

theorem imports_of_importDecl {source : Text} {t : Token} {ts rest : List Token}
    {decl : ImportDecl} (hstart : startsImport size (t :: ts) = true)
    (h : importDecl size d source t.start ts = .ok (decl, rest)) :
    imports size d source (t :: ts) =
      (imports size d source rest).map fun (ds, rest) => (decl :: ds, rest) := by
  rw [imports, if_pos hstart]
  split
  · simp_all
  · rename_i decl' rest' h'
    obtain ⟨rfl, rfl⟩ := Prod.mk.inj (Except.ok.inj (h.symm.trans h'))
    cases imports size d source rest <;> rfl

theorem imports_of_not_startsImport {source : Text} {ts : List Token}
    (h : startsImport size ts = false) : imports size d source ts = .ok ([], ts) := by
  cases ts with
  | nil => rw [imports]
  | cons t ts => rw [imports, if_neg (by simp [h])]

theorem suffix_of_importDecl {source : Text} {start : Nat} {ts rest : List Token}
    {decl : ImportDecl} (hts : ∀ t ∈ ts, t.word.Whole)
    (h : importDecl size d source start ts = .ok (decl, rest)) : rest <:+ ts := by
  obtain ⟨cs, target, as, sm, bs, typeOnly, rfl, -, -⟩ := isDecl_of_importDecl hts h
  exact ⟨cs ++ target :: (as ++ sm), by simp⟩

/-- What reading imports leaves are the last tokens. -/
theorem suffix_of_imports {source : Text} {ts rest : List Token} {ds : List ImportDecl}
    (hts : ∀ t ∈ ts, t.word.Whole) (h : imports size d source ts = .ok (ds, rest)) :
    rest <:+ ts := by
  induction hn : ts.length using Nat.strongRecOn generalizing ts ds with
  | _ n ih =>
    subst hn
    by_cases hstart : startsImport size ts = true
    · cases ts with
      | nil => cases hstart
      | cons t ts =>
        rw [imports, if_pos hstart] at h
        split at h
        · cases h
        rename_i decl mid hdecl
        have hmid := suffix_of_importDecl (fun u hu => hts u (by simp [hu])) hdecl
        split at h
        · cases h
        rename_i ds' rest' hmore
        obtain ⟨-, rfl⟩ := Prod.mk.inj (Except.ok.inj h)
        have hlen := hmid.length_le
        have hsuffix := @ih mid.length (by simp; omega) mid ds'
          (fun u hu => hts u (List.mem_cons_of_mem t (hmid.subset hu))) hmore rfl
        exact hsuffix.trans (hmid.trans (List.suffix_cons t ts))
    · rw [Bool.not_eq_true] at hstart
      rw [imports_of_not_startsImport hstart] at h
      obtain ⟨-, rfl⟩ := Prod.mk.inj (Except.ok.inj h)
      exact List.suffix_refl ts

/-- An import whose list reading gets stuck in cannot be read. -/
theorem imports_of_stuck {source : Text} {offset : Nat} {newline : Bool} {ps more : List Piece}
    {ws ws' : List Word} (hps : ∀ p ∈ ps ++ more, Piece.StandsBefore p [])
    (hwords : Piece.words ps = ws ++ ws') (h : Grammar.StuckClause d ws) :
    ∃ e, imports size d source
      (Token.ofPieces offset newline (⟨.name, "import".toList⟩ :: (ps ++ more))) = .error e := by
  have hwhole : ∀ t ∈ Token.ofPieces (offset + "import".toList.length) false (ps ++ more),
      t.word.Whole := fun t ht => Token.whole_of_mem_ofPieces hps ht
  have htok : Token.ofPieces offset newline (⟨.name, "import".toList⟩ :: (ps ++ more)) =
      ⟨.name, "import".toList, offset, newline⟩ ::
        Token.ofPieces (offset + "import".toList.length) false (ps ++ more) := rfl
  have hmap := Token.map_word_ofPieces (offset + "import".toList.length) false (ps ++ more)
  rw [Piece.words_append, hwords, List.append_assoc] at hmap
  rw [htok]
  generalize Token.ofPieces (offset + "import".toList.length) false (ps ++ more) = ts at *
  obtain ⟨cs, rest, rfl, rfl, -⟩ := List.map_eq_append_iff.1 hmap
  obtain ⟨e, he⟩ := @importClause_of_stuck size d offset cs rest
    (fun t ht => hwhole t (by simp [ht])) h
  have hdecl : importDecl size d source offset (cs ++ rest) = .error e := by
    simp only [importDecl, he]
    rfl
  have hstart : startsImport size (⟨.name, "import".toList, offset, newline⟩ :: (cs ++ rest)) =
      true := by
    obtain ⟨u, us, rfl, hu⟩ : ∃ u us, cs = u :: us ∧
        (u.kind = .name ∨ u.kind = .string ∨ u.word = .punct '*' ∨ u.word = .punct '\x7b') := by
      generalize hcs : cs.map Token.word = ws at h
      cases h with
      | list =>
        obtain ⟨u, us, rfl, hu, -⟩ := List.map_eq_cons_iff.1 hcs
        exact ⟨u, us, rfl, .inr (.inr (.inr hu))⟩
      | both | typedList | typedBoth =>
        obtain ⟨u, us, rfl, hu, -⟩ := List.map_eq_cons_iff.1 hcs
        exact ⟨u, us, rfl, .inl (congrArg Word.kind hu)⟩
    exact startsImport_of_next (hwhole u (by simp)) rfl hu
  refine ⟨e, ?_⟩
  rw [imports, if_pos hstart]
  split
  · simp_all
  · simp_all

/-- A sentence without semicolon before more on its line takes some of that along. -/
theorem length_of_imports_of_not_startsLine {pre source : Text} {newline : Bool} {s : Sentence}
    {more : List Piece} {ds : List ImportDecl} {rest : List Token}
    (hps : ∀ p ∈ s.pieces ++ more, Piece.StandsBefore p []) (hs : s.IsValid d)
    (hnone : s.semicolon = none) (hline : ¬StartsLine (Token.ofPieces 0 false more))
    (h : imports size d source (Token.ofPieces pre.length newline (s.pieces ++ more)) =
      .ok (ds, rest)) :
    rest.length < (Token.ofPieces (pre.length + (textOf s.pieces).length) false more).length := by
  have hwhole : ∀ t ∈ Token.ofPieces pre.length newline (s.pieces ++ more), t.word.Whole :=
    fun t ht => Token.whole_of_mem_ofPieces hps ht
  obtain ⟨cs, target, as, sm, htok, hclause, htarget, has, hsm, -⟩ :=
    Sentence.exists_tokens hs pre newline more
  obtain rfl : sm = [] := by
    rcases hsm with ⟨-, hsm⟩ | ⟨hsome, -⟩
    · exact hsm
    · rw [hnone] at hsome
      cases hsome
  rw [htok] at h hwhole
  rw [List.nil_append] at h hwhole
  have hline' : ¬StartsLine (Token.ofPieces (pre.length + (textOf s.pieces).length) false more) :=
    fun hstart => hline (startsLine_ofPieces hstart 0)
  have hstart := @startsImport_of_clause size d ⟨.name, "import".toList, pre.length, newline⟩ target
    cs _ _ _ (fun t ht => hwhole t (List.mem_cons_of_mem _ ht)) rfl hclause htarget
  rw [imports, if_pos hstart] at h
  split at h
  · cases h
  rename_i decl mid hdecl
  -- The first declaration takes at least one token behind the sentence, and the others give none
  -- back.
  have hlt := length_of_importDecl_of_not_startsLine
    (fun t ht => hwhole t (List.mem_cons_of_mem _ ht)) hclause htarget has hline' hdecl
  split at h
  · cases h
  rename_i ds' rest' hmore
  obtain ⟨-, rfl⟩ := Prod.mk.inj (Except.ok.inj h)
  have hmid := suffix_of_importDecl (fun t ht => hwhole t (List.mem_cons_of_mem _ ht)) hdecl
  have hle := (suffix_of_imports (fun t ht => hwhole t (List.mem_cons_of_mem _ (hmid.subset ht)))
    hmore).length_le
  omega

/-- Segments in a row are read as their declarations, whatever follows them. -/
theorem imports_append {pre : Text} {newline : Bool} {gs : List Segment} {tail : List Piece}
    (hps : ∀ p ∈ Segment.row gs ++ tail, Piece.StandsBefore p [])
    (hgs : Segment.AreValid d gs tail) :
    imports size d (pre ++ textOf (Segment.row gs ++ tail))
        (Token.ofPieces pre.length newline (Segment.row gs ++ tail)) =
      (imports size d (pre ++ textOf (Segment.row gs ++ tail))
        (Token.ofPieces (pre.length + (textOf (Segment.row gs)).length) (newline && gs.isEmpty)
          tail)).map fun (ds, rest) => (Segment.decls pre.length gs ++ ds, rest) := by
  induction gs generalizing pre newline with
  | nil =>
    simp only [Segment.row_nil, List.nil_append, Segment.decls, Piece.textOf_nil, List.length_nil,
      Nat.add_zero, List.isEmpty_nil, Bool.and_true]
    cases imports size d (pre ++ textOf tail) (Token.ofPieces pre.length newline tail) <;> rfl
  | cons g gs ih =>
    obtain ⟨hgap, hs, hline, hgs⟩ := hgs
    simp only [Segment.row_cons, List.append_assoc] at hps ⊢
    obtain ⟨ts, htok, hstart, hread⟩ := @importDecl_of_sentence size d (pre ++ textOf g.gap)
      g.sentence (Segment.row gs ++ tail) (fun p hp => hps p (List.mem_append_right _ hp)) hs hline
      (newline || g.gap.any Piece.endsLine)
    have hrest := @ih (pre ++ textOf g.gap ++ textOf g.sentence.pieces) false
      (fun p hp => hps p (by simp_all)) hgs
    rw [Token.ofPieces_gap_append hgap, ← List.length_append, htok]
    simp only [Piece.textOf_append, List.append_assoc, List.length_append, Nat.add_assoc,
      Bool.false_and, List.isEmpty_cons, Bool.and_false] at hstart hread hrest ⊢
    rw [imports_of_importDecl hstart hread, hrest]
    generalize imports size d _ _ = r
    cases r <;> simp [Except.map, Segment.decls, Nat.add_assoc]

/-- Segments in a row are read as their declarations, and code stops the reading. -/
theorem imports_of_segments {pre : Text} {newline : Bool} {gs : List Segment} {tail : List Piece}
    (hps : ∀ p ∈ Segment.row gs ++ tail, Piece.StandsBefore p [])
    (hgs : Segment.AreValid d gs tail)
    (hcode : startsImport 0 (Token.ofPieces 0 false tail) = false) :
    imports size d (pre ++ textOf (Segment.row gs ++ tail))
        (Token.ofPieces pre.length newline (Segment.row gs ++ tail)) =
      .ok (Segment.decls pre.length gs,
        Token.ofPieces (pre.length + (textOf (Segment.row gs)).length) (newline && gs.isEmpty)
          tail) := by
  rw [startsImport_ofPieces size 0 (pre.length + (textOf (Segment.row gs)).length) false
    (newline && gs.isEmpty)] at hcode
  rw [imports_append hps hgs, imports_of_not_startsImport hcode]
  simp [Except.map]

/-- Reading imports finds segments in a row. -/
theorem segments_of_imports {pre : Text} {newline : Bool} {ps : List Piece}
    {ds : List ImportDecl} {rest : List Token} (hps : ∀ p ∈ ps, Piece.StandsBefore p [])
    (h : imports size d (pre ++ textOf ps) (Token.ofPieces pre.length newline ps) =
      .ok (ds, rest)) :
    ∃ gs tail, ps = Segment.row gs ++ tail ∧ Segment.AreValid d gs tail ∧
      startsImport 0 (Token.ofPieces 0 false tail) = false := by
  induction hn : ps.length using Nat.strongRecOn generalizing pre newline ps ds rest with
  | _ n ih =>
    subst hn
    by_cases hstart : startsImport size (Token.ofPieces pre.length newline ps) = true
    · cases htok : Token.ofPieces pre.length newline ps with
      | nil =>
        rw [htok] at hstart
        cases hstart
      | cons t ts =>
        rw [htok] at h hstart
        rw [imports, if_pos hstart] at h
        split at h
        · cases h
        rename_i decl rest₁ hdecl
        obtain ⟨gap, s, more, rfl, hgap, hs, -, rfl, hline⟩ :=
          sentence_of_importDecl hps htok hstart hdecl
        split at h
        · cases h
        rename_i ds₂ rest₂ hmore
        have hne : 0 < (gap ++ s.pieces).length := by
          simp only [Sentence.pieces, List.length_append, List.length_cons]
          omega
        obtain ⟨gs, tail, rfl, hgs, hcode⟩ := @ih more.length (by simp at hne ⊢; omega)
          (pre ++ textOf gap ++ textOf s.pieces) false more ds₂ rest₂
          (fun p hp => hps p (by simp [hp])) (by simpa [Nat.add_assoc] using hmore) rfl
        exact ⟨⟨gap, s⟩ :: gs, tail, by simp, ⟨hgap, hs, hline, hgs⟩, hcode⟩
    · rw [Bool.not_eq_true] at hstart
      rw [startsImport_ofPieces 0 pre.length 0 newline false] at hstart
      exact ⟨[], ps, rfl, trivial, hstart⟩

end Parser

end ImportOrder
