import ImportOrder.Proofs.Source.Attachment

/-!
# The body of a source

Where code starts a piece starts, so that the pieces before it are those of the text before it,
whatever the code is. The declarations are made of these pieces; what is looked up ahead of the last
of them could only have made it longer. So a source is read with another body as it was with the
first one.

## Main definitions

* `Layout.withCode`: a layout with other code

## Main results

* `Piece.scan_left`: the pieces up to a place where one ends are those of the text up to there
* `Head.exists_layouts`: sources that differ behind the head have layouts that differ in the code
-/

namespace ImportOrder

open Piece (textOf)

namespace Piece

/-! ## Pieces of a text that goes on -/

theorem takeWhile_append_of_length_le {f : Char → Bool} {u rest : Text}
    (h : ((u ++ rest).takeWhile f).length ≤ u.length) :
    (u ++ rest).takeWhile f = u.takeWhile f := by
  induction u with
  | nil => simpa using h
  | cons c u ih =>
    by_cases hc : f c = true
    · simp only [List.cons_append, List.takeWhile_cons, hc, if_true, List.length_cons] at h ⊢
      rw [ih (by omega)]
    · simp [hc]

/-- What closes within a text closes there without what follows. -/
theorem closeString?_of_append {q : Char} {u rest body : Text}
    (h : closeString? q (u ++ rest) = some body) (hlength : body.length ≤ u.length) :
    closeString? q u = some body := by
  have hbody : body <+: u ++ rest := closeString?_prefix h
  obtain ⟨v, rfl⟩ := List.prefix_of_prefix_length_le hbody (List.prefix_append u rest) hlength
  exact closeString?_append h v

theorem closeBlockComment?_of_append {u rest body : Text}
    (h : closeBlockComment? (u ++ rest) = some body) (hlength : body.length ≤ u.length) :
    closeBlockComment? u = some body := by
  have hbody : body <+: u ++ rest := closeBlockComment?_prefix h
  obtain ⟨v, rfl⟩ := List.prefix_of_prefix_length_le hbody (List.prefix_append u rest) hlength
  exact closeBlockComment?_append h v

/-- What does not close in a text does not close in a part of it. -/
theorem closeString?_eq_none {q : Char} {u rest : Text}
    (h : closeString? q (u ++ rest) = none) : closeString? q u = none := by
  cases hu : closeString? q u with
  | none => rfl
  | some body =>
    obtain ⟨v, rfl⟩ := closeString?_prefix hu
    rw [List.append_assoc, closeString?_append hu] at h
    cases h

theorem closeBlockComment?_eq_none {u rest : Text}
    (h : closeBlockComment? (u ++ rest) = none) : closeBlockComment? u = none := by
  cases hu : closeBlockComment? u with
  | none => rfl
  | some body =>
    obtain ⟨v, rfl⟩ := closeBlockComment?_prefix hu
    rw [List.append_assoc, closeBlockComment?_append hu] at h
    cases h

theorem ofQuote_of_append {q : Char} {u rest : Text}
    (h : (ofQuote q (u ++ rest)).text.length ≤ u.length + 1) :
    ofQuote q (u ++ rest) = ofQuote q u := by
  unfold ofQuote at h ⊢
  cases hclose : closeString? q (u ++ rest) with
  | none => rw [closeString?_eq_none hclose]
  | some body =>
    rw [hclose] at h
    rw [closeString?_of_append hclose (by simpa using h)]

theorem ofSlash_of_append {u rest : Text} (h : (ofSlash (u ++ rest)).text.length ≤ u.length + 1) :
    ofSlash (u ++ rest) = ofSlash u := by
  cases u with
  | nil =>
    unfold ofSlash at h ⊢
    split at h
    · simp at h
    · split at h
      · simp at h
      · simp at h
    · rfl
  | cons c u =>
    by_cases hslash : c = '/'
    · subst hslash
      simp only [List.cons_append, ofSlash, List.length_cons] at h ⊢
      rw [takeWhile_append_of_length_le (by omega)]
    by_cases hstar : c = '*'
    · subst hstar
      simp only [List.cons_append, ofSlash] at h ⊢
      cases hclose : closeBlockComment? (u ++ rest) with
      | none => rw [closeBlockComment?_eq_none hclose]
      | some body =>
        rw [hclose] at h
        rw [closeBlockComment?_of_append hclose (by simpa using h)]
    · simp [ofSlash, hslash, hstar]

/-- The first piece of a text is that of a part of it which holds the piece. -/
theorem first_of_append {c : Char} {u rest : Text}
    (h : (first c (u ++ rest)).text.length ≤ u.length + 1) : first c (u ++ rest) = first c u := by
  by_cases hr : c = '\r'
  · subst hr
    have hterm : isLineTerminator '\r' = true := rfl
    -- A carriage return takes the line feed behind it, which has to be in `u`.
    cases u with
    | nil =>
      by_cases hn : rest.head? = some '\n'
      · simp [first, hn] at h
      · simp [first, hn, hterm]
    | cons d u => simp [first, hterm]
  by_cases ht : isLineTerminator c
  · simp [first, hr, ht]
  by_cases hs : isSpace c
  · simp only [first, hr, false_and, if_false, ht, hs, if_true, Bool.false_eq_true,
      List.length_cons] at h ⊢
    rw [takeWhile_append_of_length_le (by omega)]
  by_cases hl : c = '/'
  · subst hl
    simp only [first, hr, false_and, if_false, ht, hs, if_true, Bool.false_eq_true] at h ⊢
    exact ofSlash_of_append h
  by_cases hq : c = '\x27' ∨ c = '"'
  · simp only [first, hr, false_and, if_false, ht, hs, hl, hq, if_true, Bool.false_eq_true] at h ⊢
    exact ofQuote_of_append h
  by_cases hn : isNameStart c
  · simp only [first, hr, false_and, if_false, ht, hs, hl, hq, hn, if_true, Bool.false_eq_true,
      List.length_cons] at h ⊢
    rw [takeWhile_append_of_length_le (by omega)]
  · simp [first, hr, ht, hs, hl, hq, hn]

/-- **The pieces up to a place where one ends** are those of the text up to there. -/
theorem scan_left {t rest : Text} {ps qs : List Piece} (h : scan (t ++ rest) = ps ++ qs)
    (ht : textOf ps = t) : scan t = ps := by
  induction ps generalizing t with
  | nil =>
    obtain rfl : [] = t := ht
    rfl
  | cons p ps ih =>
    rw [List.cons_append] at h
    obtain ⟨htext, hp, hps⟩ := scan_eq_cons h
    subst ht
    obtain ⟨c, u, hc, hfirst⟩ := standsBefore_iff_first.1 hp
    have hrest : textOf (ps ++ qs) = textOf ps ++ rest := by
      rw [textOf_cons, List.append_assoc] at htext
      exact (List.append_cancel_left htext).symm
    rw [hrest] at hfirst hps
    rw [← List.append_assoc] at hfirst
    have hstays : first c (u ++ textOf ps) = p := by
      rw [← first_of_append, hfirst]
      rw [hfirst, hc]
      simp
    have hpst : StandsBefore p (textOf ps) := standsBefore_iff_first.2 ⟨c, u, hc, hstays⟩
    rw [textOf_cons, hpst, ih hps rfl]

end Piece

namespace Token

/-- The piece that a token comes from, and those before and behind it. -/
theorem exists_piece {offset : Nat} {newline : Bool} {ps : List Piece} {ts us : List Token}
    {t : Token} (h : ofPieces offset newline ps = ts ++ t :: us) :
    ∃ qs p rs, ps = qs ++ p :: rs ∧ p.isGap = false ∧ t.start = offset + (textOf qs).length ∧
      ∃ newline', ofPieces t.start newline' (p :: rs) = t :: us := by
  induction ps generalizing offset newline ts with
  | nil => simp at h
  | cons p ps ih =>
    rw [ofPieces] at h
    cases hk : p.kind.token? with
    | none =>
      simp only [hk] at h
      obtain ⟨qs, q, rs, rfl, hq, hstart, hrest⟩ := ih h
      exact ⟨p :: qs, q, rs, rfl, hq, by simp [hstart, Nat.add_assoc], hrest⟩
    | some k =>
      simp only [hk] at h
      cases ts with
      | nil =>
        obtain ⟨rfl, rfl⟩ := List.cons.inj h
        exact ⟨[], p, ps, rfl, by simp [Piece.isGap, hk], rfl, newline, by simp [ofPieces, hk]⟩
      | cons t' ts =>
        obtain ⟨-, h⟩ := List.cons.inj h
        obtain ⟨qs, q, rs, rfl, hq, hstart, hrest⟩ := ih h
        exact ⟨p :: qs, q, rs, rfl, hq, by simp [hstart, Nat.add_assoc], hrest⟩

theorem length_ofPieces (offset : Nat) (newline : Bool) (ps : List Piece) :
    (ofPieces offset newline ps).length = (Piece.words ps).length := by
  rw [← map_word_ofPieces offset newline ps, List.length_map]

/-- The pieces of a text on both sides of a token, and how many tokens there are from it on. -/
theorem scan_of_start {offset : Nat} {newline : Bool} {ps : List Piece} {ts us : List Token}
    {t : Token} {before body : Text} (hscan : Piece.scan (textOf ps) = ps)
    (htext : textOf ps = before ++ body) (h : ofPieces offset newline ps = ts ++ t :: us)
    (hstart : t.start = offset + before.length) :
    ps = Piece.scan before ++ Piece.scan body ∧
      (∃ p rs, Piece.scan body = p :: rs ∧ p.isGap = false) ∧
      (t :: us).length = (Piece.words (Piece.scan body)).length := by
  obtain ⟨qs, p, rs, rfl, hp, hoffset, newline', hrest⟩ := exists_piece h
  rw [Piece.textOf_append] at htext
  obtain ⟨hqs, hbody⟩ := List.append_inj htext (by omega)
  have hleft : Piece.scan before = qs := by
    rw [Piece.textOf_append, hqs] at hscan
    exact Piece.scan_left hscan hqs
  have hright : Piece.scan body = p :: rs := by
    rw [← hbody]
    exact Piece.scan_textOf_right hscan
  refine ⟨by rw [hleft, hright], ⟨p, rs, hright, hp⟩, ?_⟩
  rw [hright, ← hrest, length_ofPieces]

end Token

/-! ## Where code starts -/

theorem shebangLength_of_append {head body : Text}
    (h : shebangLength (head ++ body) ≤ head.length) :
    shebangLength (head ++ body) = shebangLength head := by
  unfold shebangLength at h ⊢
  by_cases hmark : "#!".toList.isPrefixOf (head ++ body) = true
  · rw [if_pos hmark] at h ⊢
    have htake := Piece.takeWhile_append_of_length_le h
    have hprefix : "#!".toList <+: (head ++ body).takeWhile fun c => c ≠ '\r' ∧ c ≠ '\n' := by
      obtain ⟨rest, hrest⟩ := List.isPrefixOf_iff_prefix.1 hmark
      rw [← hrest]
      exact ⟨rest.takeWhile fun c => c ≠ '\r' ∧ c ≠ '\n', by simp⟩
    have hhead : "#!".toList.isPrefixOf head = true := by
      rw [List.isPrefixOf_iff_prefix]
      rw [htake] at hprefix
      exact hprefix.trans (List.takeWhile_prefix _)
    rw [if_pos hhead, htake]
  · rw [if_neg hmark, if_neg]
    intro hhead
    rw [List.isPrefixOf_iff_prefix] at hhead hmark
    exact hmark (hhead.trans (List.prefix_append head body))

/-- What is read is made of tokens of the source. -/
theorem Head.exists_tokens {source : Text} {d : Dialect} {h : Head} {n : Nat}
    (hparse : Head.parse source d = .ok h) (hcode : h.codeStart = some n) :
    ∃ ts t us, Token.ofPieces (shebangLength source) false
      (Piece.scan (source.drop (shebangLength source))) = ts ++ t :: us ∧ t.start = n := by
  simp only [Head.parse] at hparse
  obtain ⟨⟨decls, rest⟩, himports, hret⟩ := Parser.ok_of_bind hparse
  obtain rfl := Except.ok.inj hret
  obtain ⟨t, ht, hstart⟩ := Option.map_eq_some_iff.1 hcode
  obtain ⟨us, rfl⟩ := List.head?_eq_some_iff.1 ht
  generalize hdirs : Parser.directives (Token.ofPieces (shebangLength source) false
    (Piece.scan (source.drop (shebangLength source)))) = r at himports
  obtain ⟨spans, ts⟩ := r
  obtain ⟨vs, -, hts, -⟩ := Parser.directives_eq hdirs
  have hwhole : ∀ u ∈ ts, u.word.Whole := by
    intro u hu
    have hmem := List.mem_append_right vs hu
    rw [← hts] at hmem
    exact Token.whole_of_mem_ofPieces (fun p hp => Piece.standsBefore_of_mem_scan hp) hmem
  obtain ⟨ws, rfl⟩ := Parser.suffix_of_imports hwhole himports
  exact ⟨vs ++ ws, t, us, by rw [hts, List.append_assoc], hstart⟩

/-- **Code starts where a piece starts**: the shebang and the pieces of the head are those of the
text before the code. -/
theorem Head.scan_of_codeStart {head body : Text} {d : Dialect} {h : Head}
    (hparse : Head.parse (head ++ body) d = .ok h) (hcode : h.codeStart = some head.length) :
    shebangLength (head ++ body) = shebangLength head ∧ shebangLength head ≤ head.length ∧
      Piece.scan (head.drop (shebangLength head) ++ body) =
        Piece.scan (head.drop (shebangLength head)) ++ Piece.scan body ∧
      ∃ p ps, Piece.scan body = p :: ps ∧ p.isGap = false := by
  obtain ⟨ts, t, us, htok, hstart⟩ := exists_tokens hparse hcode
  have hle : shebangLength (head ++ body) ≤ head.length := by
    have hmem : t ∈ ts ++ t :: us := by simp
    rw [← htok] at hmem
    have := (Token.mem_ofPieces_le hmem).1
    omega
  have hshebang := shebangLength_of_append hle
  rw [hshebang] at htok hle
  rw [List.drop_append_of_le_length hle] at htok
  obtain ⟨hpieces, hbody, -⟩ := Token.scan_of_start (by rw [Piece.textOf_scan])
    (Piece.textOf_scan _) htok (by rw [List.length_drop]; omega)
  exact ⟨hshebang, hle, hpieces, hbody⟩

/-! ## Reading with other code -/

namespace Parser

variable {size : Nat} {d : Dialect}

theorem length_of_startsImport {source : Text} {ts rest : List Token} {ds : List ImportDecl}
    (hts : ∀ t ∈ ts, t.word.Whole) (hstart : startsImport size ts = true)
    (h : imports size d source ts = .ok (ds, rest)) : rest.length < ts.length := by
  cases ts with
  | nil => cases hstart
  | cons t ts =>
    rw [imports, if_pos hstart] at h
    split at h
    · cases h
    rename_i decl mid hdecl
    have hmid := suffix_of_importDecl (fun u hu => hts u (List.mem_cons_of_mem t hu)) hdecl
    split at h
    · cases h
    rename_i ds' rest' hmore
    obtain ⟨-, rfl⟩ := Prod.mk.inj (Except.ok.inj h)
    have hrest := suffix_of_imports
      (fun u hu => hts u (List.mem_cons_of_mem t (hmid.subset hu))) hmore
    have hlong := hmid.length_le
    have hlonger := hrest.length_le
    rw [List.length_cons]
    omega

/-- Whether segments start a line is decided by the gap before the first of them. -/
theorem startsLine_row {g : Segment} {gs : List Segment} {tail : List Piece}
    (hgs : Segment.AreValid d (g :: gs) tail) (after : List Piece) :
    StartsLine (Token.ofPieces 0 false (Segment.row (g :: gs) ++ after)) ↔
      g.gap.any Piece.endsLine = true := by
  obtain ⟨ts, hts⟩ := Layout.ofPieces_row hgs (g := g) rfl 0 after
  rw [hts]
  simp [StartsLine, Token.word, Word.punct]

/-- A sentence without a semicolon is followed by a new line before other pieces too, if reading
leaves these alone. -/
theorem startsLine_of_imports {pre : Text} {newline : Bool} {s : Sentence} {gs : List Segment}
    {tail tail' : List Piece} {ds : List ImportDecl} {rest : List Token}
    (hps : ∀ p ∈ s.pieces ++ (Segment.row gs ++ tail'), Piece.StandsBefore p [])
    (hs : s.IsValid d) (hnone : s.semicolon = none) (hgs : Segment.AreValid d gs tail)
    (hline : StartsLine (Token.ofPieces 0 false (Segment.row gs ++ tail)))
    (h : imports size d (pre ++ textOf (s.pieces ++ (Segment.row gs ++ tail')))
      (Token.ofPieces pre.length newline (s.pieces ++ (Segment.row gs ++ tail'))) = .ok (ds, rest))
    (hrest : (Piece.words tail').length ≤ rest.length) :
    StartsLine (Token.ofPieces 0 false (Segment.row gs ++ tail')) := by
  cases gs with
  | nil =>
    by_contra hnot
    rw [Segment.row_nil, List.nil_append] at hnot h hps
    have hlt := length_of_imports_of_not_startsLine hps hs hnone hnot h
    rw [Token.length_ofPieces] at hlt
    omega
  | cons g gs => exact (startsLine_row hgs tail').2 ((startsLine_row hgs tail).1 hline)

/-- **Segments before other pieces**: if reading leaves the other pieces alone, the segments are
valid before them, and they start no import. -/
theorem areValid_of_imports {pre : Text} {newline : Bool} {gs : List Segment}
    {tail tail' : List Piece} {ds : List ImportDecl} {rest : List Token}
    (hps : ∀ p ∈ Segment.row gs ++ tail', Piece.StandsBefore p [])
    (hgs : Segment.AreValid d gs tail)
    (h : imports size d (pre ++ textOf (Segment.row gs ++ tail'))
      (Token.ofPieces pre.length newline (Segment.row gs ++ tail')) = .ok (ds, rest))
    (hrest : (Piece.words tail').length ≤ rest.length) :
    Segment.AreValid d gs tail' ∧ startsImport 0 (Token.ofPieces 0 false tail') = false := by
  induction gs generalizing pre newline ds with
  | nil =>
    -- If the other pieces started an import, reading would take some of their tokens.
    refine ⟨trivial, ?_⟩
    rw [Segment.row_nil, List.nil_append] at h hps
    rw [← Bool.not_eq_true, startsImport_ofPieces size 0 pre.length false newline]
    intro hstart
    have hlt := length_of_startsImport (fun t ht => Token.whole_of_mem_ofPieces hps ht) hstart h
    rw [Token.length_ofPieces] at hlt
    omega
  | cons g gs ih =>
    obtain ⟨hgap, hs, hline, hgs⟩ := hgs
    simp only [Segment.row_cons, List.append_assoc] at h hps
    have hnext : ∀ p ∈ g.sentence.pieces ++ (Segment.row gs ++ tail'), Piece.StandsBefore p [] :=
      fun p hp => hps p (List.mem_append_right _ hp)
    rw [Token.ofPieces_gap_append hgap, Piece.textOf_append, ← List.append_assoc,
      ← List.length_append] at h
    have hline' : g.sentence.semicolon = none →
        StartsLine (Token.ofPieces 0 false (Segment.row gs ++ tail')) :=
      fun hnone => startsLine_of_imports hnext hs hnone hgs (hline hnone) h hrest
    obtain ⟨ts, htok, hstart, hread⟩ := @importDecl_of_sentence size d (pre ++ textOf g.gap)
      g.sentence (Segment.row gs ++ tail') hnext hs hline' (newline || g.gap.any Piece.endsLine)
    rw [htok, imports_of_importDecl hstart hread] at h
    cases hmore : imports size d (pre ++ textOf g.gap ++ textOf (g.sentence.pieces ++
        (Segment.row gs ++ tail'))) (Token.ofPieces ((pre ++ textOf g.gap).length +
          (textOf g.sentence.pieces).length) false (Segment.row gs ++ tail')) with
    | error e =>
      rw [hmore] at h
      cases h
    | ok r =>
      obtain ⟨ds', rest'⟩ := r
      rw [hmore] at h
      obtain ⟨-, rfl⟩ := Prod.mk.inj (Except.ok.inj h)
      rw [Piece.textOf_append, ← List.append_assoc, ← List.length_append] at hmore
      obtain ⟨hgs', hcode⟩ := ih (fun p hp => hnext p (List.mem_append_right _ hp)) hgs hmore
      exact ⟨⟨hgap, hs, hline', hgs'⟩, hcode⟩

end Parser

/-- What reading leaves are the tokens of the code. -/
theorem Prologue.IsBefore.length_rest {d : Dialect} {pr : Prologue} {ps : List Piece} {size : Nat}
    {decls : List ImportDecl} {rest : List Token} {before body : Text} (h : pr.IsBefore ps)
    (htext : textOf ps = before ++ body)
    (himports : Parser.imports size d (pr.source ps) (Token.ofPieces pr.floor false ps) =
      .ok (decls, rest))
    (hcode : rest.head?.map Token.start = some (pr.floor + before.length)) :
    rest.length = (Piece.words (Piece.scan body)).length := by
  obtain ⟨t, ht, hstart⟩ := Option.map_eq_some_iff.1 hcode
  obtain ⟨us, rfl⟩ := List.head?_eq_some_iff.1 ht
  have hwhole : ∀ u ∈ Token.ofPieces pr.floor false ps, u.word.Whole := fun u hu =>
    Token.whole_of_mem_ofPieces (fun p hp => h.isRead.standsBefore p (List.mem_append_right _ hp))
      hu
  obtain ⟨ws, hws⟩ := Parser.suffix_of_imports hwhole himports
  exact (Token.scan_of_start (Piece.scan_textOf_right h.pieces) htext hws.symm hstart).2.2

namespace Layout

variable {d : Dialect} {l : Layout} {head body : Text}

theorem length_head (l : Layout) :
    l.prologue.floor + (textOf (Segment.row l.segments ++ l.gap)).length =
      (l.shebang ++ textOf l.headPieces).length := by
  rw [List.length_append, headPieces, Piece.textOf_append l.directives, List.length_append,
    ← Nat.add_assoc]
  rfl

/-- The pieces of the head are those of its text. -/
theorem IsValid.scan_headPieces (hl : l.IsValid d) :
    Piece.scan (textOf l.headPieces) = l.headPieces := by
  have hscan := hl.pieces
  rw [pieces_eq, Piece.textOf_append] at hscan
  exact Piece.scan_left hscan rfl

/-- The shebang is that of the text before the code. -/
theorem IsValid.shebangLength_head (hl : l.IsValid d)
    (hhead : l.shebang ++ textOf l.headPieces = head) : shebangLength head = l.shebang.length := by
  have hshebang := hl.shebang
  rw [source_eq, hhead] at hshebang
  rw [← hshebang, shebangLength_of_append]
  rw [hshebang, ← hhead, List.length_append]
  exact Nat.le_add_right _ _

theorem source_withCode (hhead : l.shebang ++ textOf l.headPieces = head) :
    (l.withCode (Piece.scan body)).source = head ++ body := by
  rw [source_eq]
  show l.shebang ++ textOf l.headPieces ++ textOf (Piece.scan body) = head ++ body
  rw [hhead, Piece.textOf_scan]

section OtherCode

variable {h : Head} (hl : l.IsValid d) (hhead : l.shebang ++ textOf l.headPieces = head)
  (hparse : Head.parse (head ++ body) d = .ok h) (hcode : h.codeStart = some head.length)

include hl hhead hparse hcode

theorem IsValid.shebangLength_withCode :
    shebangLength (l.withCode (Piece.scan body)).source = l.shebang.length := by
  obtain ⟨hshebang, -⟩ := Head.scan_of_codeStart hparse hcode
  rw [source_withCode hhead, hshebang, hl.shebangLength_head hhead]

theorem IsValid.scan_withCode : Piece.scan (textOf (l.withCode (Piece.scan body)).pieces) =
    (l.withCode (Piece.scan body)).pieces := by
  obtain ⟨-, -, hscan, -⟩ := Head.scan_of_codeStart hparse hcode
  have hdrop : head.drop (shebangLength head) = textOf l.headPieces := by
    rw [hl.shebangLength_head hhead, ← hhead, List.drop_left]
  rw [pieces_eq, Piece.textOf_append]
  show Piece.scan (textOf l.headPieces ++ textOf (Piece.scan body)) =
    l.headPieces ++ Piece.scan body
  rw [Piece.textOf_scan, ← hdrop, hscan, hdrop, hl.scan_headPieces]

/-- Reading with another body leaves the code of that body. -/
theorem IsValid.exists_imports_withCode :
    ∃ size decls rest,
      Parser.imports size d (l.shebang ++ textOf l.directives ++
          textOf (Segment.row l.segments ++ (l.gap ++ Piece.scan body)))
        (Token.ofPieces (l.shebang ++ textOf l.directives).length false
          (Segment.row l.segments ++ (l.gap ++ Piece.scan body))) = .ok (decls, rest) ∧
      rest.length = (Piece.words (Piece.scan body)).length := by
  have hbefore := hl.prologue_withCode (hl.shebangLength_withCode hhead hparse hcode)
    (hl.scan_withCode hhead hparse hcode)
  have hread := @Prologue.parse_source d _ _ hbefore.isRead
  have hsource : l.prologue.source (Segment.row l.segments ++ (l.gap ++ Piece.scan body)) =
      head ++ body := source_withCode hhead
  rw [hsource, hparse] at hread
  generalize himports : Parser.imports _ _ _ _ = r at hread
  obtain e | ⟨decls, rest⟩ := r
  · cases hread
  obtain rfl := Except.ok.inj hread
  rw [← hsource] at himports
  have htext : textOf (Segment.row l.segments ++ (l.gap ++ Piece.scan body)) =
      textOf (Segment.row l.segments ++ l.gap) ++ body := by
    simp
  have hrest := hbefore.length_rest htext himports (by rw [length_head, hhead]; exact hcode)
  refine ⟨(l.prologue.source (Segment.row l.segments ++ (l.gap ++ Piece.scan body))).length, decls,
    rest, ?_, hrest⟩
  rw [List.append_assoc, ← Piece.textOf_append, List.length_append]
  exact himports

/-- **A layout is valid with other code** behind the same head, if code starts there as well. -/
theorem IsValid.withCode : (l.withCode (Piece.scan body)).IsValid d := by
  obtain ⟨-, -, -, p, ps, hbody, hp⟩ := Head.scan_of_codeStart hparse hcode
  obtain ⟨size, decls, rest, himports, hrest⟩ := hl.exists_imports_withCode hhead hparse hcode
  have hscan := hl.scan_withCode hhead hparse hcode
  have hwords : Piece.words (l.gap ++ Piece.scan body) = Piece.words (Piece.scan body) := by
    rw [Piece.words_append, Piece.words_eq_nil_of_gaps hl.gap, List.nil_append]
  have hstands : ∀ q ∈ Segment.row l.segments ++ (l.gap ++ Piece.scan body),
      Piece.StandsBefore q [] := by
    intro q hq
    have hmem : q ∈ (l.withCode (Piece.scan body)).pieces := List.mem_append_right _ hq
    rw [← hscan] at hmem
    exact Piece.standsBefore_of_mem_scan hmem
  obtain ⟨hsegments, hstart⟩ := Parser.areValid_of_imports hstands hl.segments himports
    (by rw [hwords, hrest])
  refine ⟨hl.shebangLength_withCode hhead hparse hcode, hscan, hl.directives, hl.directivesEnd,
    hl.nonempty, hsegments, hl.gap, ?_, hstart⟩
  intro q hq
  have hfirst : q ∈ (Piece.scan body).head? := hq
  rw [hbody] at hfirst
  obtain rfl := Option.some.inj hfirst
  exact hp

end OtherCode

end Layout

namespace Head

/-- **Sources that differ behind the head** have layouts that differ in the code. -/
theorem exists_layouts {d : Dialect} {head body body' : Text} {h h' : Head}
    (hparse : Head.parse (head ++ body) d = .ok h) (hcode : h.codeStart = some head.length)
    (hparse' : Head.parse (head ++ body') d = .ok h') (hcode' : h'.codeStart = some head.length)
    (himports : h.imports ≠ []) :
    ∃ (l : Layout) (code : List Piece), l.IsValid d ∧ (l.withCode code).IsValid d ∧ h = l.head d ∧
      h' = (l.withCode code).head d ∧ l.shebang ++ textOf l.headPieces = head := by
  obtain ⟨l, hl, hsource, rfl⟩ := Layout.exists_of_parse hparse himports
  have hend : l.headEnd = head.length := by
    have hstart : (if l.code.isEmpty then none else some l.headEnd) = some head.length := hcode
    split at hstart
    · cases hstart
    · exact Option.some.inj hstart
  have hhead : l.shebang ++ textOf l.headPieces = head := by
    rw [Layout.source_eq] at hsource
    refine (List.append_inj hsource ?_).1
    rw [List.length_append, ← hend, Layout.headEnd]
  have hl' := hl.withCode hhead hparse' hcode'
  have hread := Layout.parse_source hl'
  rw [Layout.source_withCode hhead, hparse'] at hread
  exact ⟨l, _, hl, hl', rfl, Except.ok.inj hread, hhead⟩

end Head

end ImportOrder
