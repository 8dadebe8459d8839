import ImportOrder.Json5.Reader
import ImportOrder.Proofs.Source.LineEndings

/-!
# Data files are no modules

A document that holds a map starts with an opening brace, behind blanks and comments. What counts as
blank there is blank in a source too, or else starts a name. So the document has no imports when it
is read as a source.

## Main results

* `Json5.skipBlanks_eq_of_parse`: a document with a map starts with a brace
* `Json5.exists_first`: its first token in a source
* `Json5.imports_eq_nil_of_parse`: a document with a map has no imports
-/

namespace ImportOrder

namespace Json5

open Piece

/-! ## Blanks -/

theorem skipFrom_eq (skip : Nat) (t : Text) : skipFrom skip t = skipBlanks (t.drop skip) := by
  induction t generalizing skip with
  | nil => cases skip <;> rfl
  | cons c t ih =>
    cases skip with
    | zero => rfl
    | succ skip => exact ih skip

theorem skipBlanks_separator {c : Char} (h : isSeparator c = true) (t : Text) :
    skipBlanks (c :: t) = skipBlanks t := by
  rw [skipBlanks, skipFrom, if_pos h]
  rfl

theorem skipBlanks_separators {t : Text} (h : ∀ c ∈ t, isSeparator c = true) (rest : Text) :
    skipBlanks (t ++ rest) = skipBlanks rest := by
  induction t with
  | nil => rfl
  | cons c t ih =>
    rw [List.cons_append, skipBlanks_separator (h c List.mem_cons_self),
      ih fun d hd => h d (List.mem_cons_of_mem c hd)]

/-- A comment is skipped as a whole. -/
theorem skipBlanks_comment {t rest : Text} (h : commentLength (t ++ rest) = t.length)
    (hslash : t.head? = some '/') : skipBlanks (t ++ rest) = skipBlanks rest := by
  obtain ⟨u, rfl⟩ := List.head?_eq_some_iff.1 hslash
  have hseparator : isSeparator '/' = false := by decide
  rw [List.cons_append] at h ⊢
  rw [skipBlanks, skipFrom, hseparator, h]
  show skipFrom u.length (u ++ rest) = _
  rw [skipFrom_eq, List.drop_left]

/-- Where nothing is skipped, the text starts with neither a blank nor a comment. -/
theorem skipBlanks_cons_cases (c : Char) (t : Text) :
    isSeparator c = true ∨ c = '/' ∨ skipBlanks (c :: t) = c :: t := by
  by_cases hseparator : isSeparator c = true
  · exact .inl hseparator
  · by_cases hslash : c = '/'
    · exact .inr (.inl hslash)
    · right; right
      have hnone : commentLength (c :: t) = 0 := by
        rw [commentLength]
        · intro u hu
          exact hslash (List.cons.inj hu).1
        · intro u hu
          exact hslash (List.cons.inj hu).1
      rw [skipBlanks, skipFrom, if_neg hseparator, hnone]

theorem isSeparator_of_isLineTerminator {c : Char} (h : isLineTerminator c = true) :
    isSeparator c = true := by
  simp [isSeparator, h]

theorem isSeparator_of_isSpace {c : Char} (h : isSpace c = true) : isSeparator c = true := by
  simp only [isSpace, Bool.or_eq_true, beq_iff_eq] at h
  rcases h with ((((rfl | rfl) | rfl) | rfl) | rfl) | rfl <;> decide

/-! ## Blank pieces -/

theorem commentLength_lineComment {t rest : Text} (h : ∀ c ∈ t, isLineTerminator c = false)
    (hrest : ∀ c ∈ rest.head?, isLineTerminator c = true) :
    commentLength ('/' :: '/' :: t ++ rest) = t.length + 2 := by
  have hbody : (t ++ rest).takeWhile (!isLineTerminator ·) = t := by
    rw [takeWhile_append_eq_left_iff]
    constructor
    · rw [List.takeWhile_eq_self_iff]
      intro c hc
      rw [h c hc]
      rfl
    · cases rest with
      | nil => rfl
      | cons d rest => simp [hrest d rfl]
  show 2 + ((t ++ rest).takeWhile (!isLineTerminator ·)).length = _
  rw [hbody, Nat.add_comm]

theorem commentLength_blockComment {t : Text} (h : closeBlockComment? t = some t) (rest : Text) :
    commentLength ('/' :: '*' :: t ++ rest) = t.length + 2 := by
  show ((closeBlockComment? (t ++ rest)).map (2 + ·.length)).getD 0 = _
  rw [(closeBlockComment?_append_iff t rest).2 h, Nat.add_comm]
  rfl

/-- **A piece that is no token** is blank in a document too. -/
theorem skipBlanks_piece {p : Piece} {rest : Text} (hshape : Shape p)
    (hends : p.endsBefore rest.head? = true) (hblank : p.kind.token? = none) :
    skipBlanks (Text.withEol .lf (p.text ++ rest)) = skipBlanks (Text.withEol .lf rest) := by
  rw [Text.withEol_append (getLast?_of_shape hshape hends)]
  -- one case for each kind of piece that is no token; line endings are line feeds in the document
  cases hshape with
  | @newline c hc =>
    apply skipBlanks_separators
    intro d hd
    apply isSeparator_of_isLineTerminator
    by_cases hbreak : c = '\r' ∨ c = '\n'
    · rw [Text.withEol_break hbreak (by simp)] at hd
      rw [List.mem_singleton.1 hd]
      rfl
    · obtain ⟨hr, hn⟩ := not_or.1 hbreak
      rw [Text.withEol_plain hr hn] at hd
      rw [List.mem_singleton.1 hd]
      exact hc
  | crlf => exact skipBlanks_separator (by decide) _
  | space _ hall =>
    rw [Text.withEol_of_plain fun c hc => plain_of_isSpace (hall c hc)]
    exact skipBlanks_separators (fun c hc => isSeparator_of_isSpace (hall c hc)) _
  | @lineComment t hall =>
    have hplain : ∀ c ∈ '/' :: '/' :: t, c ≠ '\r' ∧ c ≠ '\n' := by
      intro c hc
      simp only [List.mem_cons] at hc
      rcases hc with rfl | rfl | hc
      · decide
      · decide
      · exact plain_of_not_terminator (hall c hc)
    have hend : ∀ c ∈ (Text.withEol .lf rest).head?, isLineTerminator c = true := by
      intro c hc
      rw [Text.head?_withEol] at hc
      obtain ⟨d, hd, rfl⟩ := Option.map_eq_some_iff.1 hc
      unfold Eol.head
      split
      · rfl
      · rw [hd] at hends
        exact hends
    rw [Text.withEol_of_plain hplain]
    exact skipBlanks_comment (commentLength_lineComment hall hend) rfl
  | @blockComment t hclose =>
    show skipBlanks (Text.withEol .lf ('/' :: '*' :: t) ++ _) = _
    rw [Text.withEol_plain (by decide) (by decide), Text.withEol_plain (by decide) (by decide)]
    exact skipBlanks_comment (commentLength_blockComment (closeBlockComment?_withEol hclose) _) rfl
  | string => cases hblank
  | bad => cases hblank
  | name => cases hblank
  | punct => cases hblank

/-! ## The first token -/

/-- A piece that starts a document with a map is neither a string nor the word for imports. -/
theorem token_of_skipBlanks {p : Piece} {rest u : Text} (hshape : Shape p)
    (h : skipBlanks (Text.withEol .lf (p.text ++ rest)) = '\x7b' :: u) :
    p.kind ≠ .string ∧ p.text ≠ "import".toList := by
  have hhead : ∀ c ∈ p.text.head?, isSeparator c = true ∨ c = '/' ∨ c = '\x7b' := by
    intro c hc
    obtain ⟨t, ht⟩ := List.head?_eq_some_iff.1 hc
    by_cases hbreak : c = '\r' ∨ c = '\n'
    · rcases hbreak with rfl | rfl <;> exact .inl (by decide)
    · obtain ⟨hr, hn⟩ := not_or.1 hbreak
      rw [ht, List.cons_append, Text.withEol_plain hr hn] at h
      rcases skipBlanks_cons_cases c (Text.withEol .lf (t ++ rest)) with hc | hc | hc
      · exact .inl hc
      · exact .inr (.inl hc)
      · rw [hc] at h
        exact .inr (.inr (List.cons.inj h).1)
  constructor
  · intro hstring
    cases hshape with
    | @string q t hq _ =>
      rcases hhead q rfl with hc | hc | hc <;> rcases hq with rfl | rfl <;> revert hc <;> decide
    | _ => cases hstring
  · intro himport
    rw [himport] at hhead
    rcases hhead 'i' rfl with hc | hc | hc <;> revert hc <;> decide

/-- **The first token** of a document with a map, when it is read as a source. -/
theorem exists_first {source u : Text}
    (h : skipBlanks (Text.withEol .lf source) = '\x7b' :: u) (offset : Nat) (newline : Bool) :
    ∃ t ts, Token.ofPieces offset newline (scan source) = t :: ts ∧ t.kind ≠ .string ∧
      t.text ≠ "import".toList := by
  generalize hscan : scan source = ps
  induction ps generalizing source offset newline with
  | nil =>
    have hsource : source = [] := by rw [← flatMap_scan source, hscan]; rfl
    rw [hsource] at h
    cases h
  | cons p ps ih =>
    obtain ⟨hsource, hp, hps⟩ := scan_eq_cons hscan
    rw [hsource] at h
    cases hk : p.kind.token? with
    | none =>
      have hbad : p.kind ≠ .bad := by
        intro hbad
        rw [hbad] at hk
        cases hk
      rw [skipBlanks_piece hp.shape ((standsBefore_iff hbad).1 hp).2 hk] at h
      rw [Token.ofPieces, hk]
      exact ih h _ _ hps
    | some k =>
      obtain ⟨hstring, htext⟩ := token_of_skipBlanks hp.shape h
      rw [Token.ofPieces, hk]
      refine ⟨_, _, rfl, ?_, htext⟩
      rintro rfl
      apply hstring
      revert hk
      cases p.kind <;> simp [PieceKind.token?]

/-! ## Maps -/

theorem eq_some_of_guard {α β : Type} {c : Prop} [Decidable c] {f : β → Option α} {x : Option α}
    {a : α} (h : (if c then none.bind f else x) = some a) : x = some a := by
  split at h
  · cases h
  · exact h

theorem exists_scalar_of_eq {s : Scalar} {d : Data} {t rest : Text}
    (h : some (Data.scalar s, t) = some (d, rest)) : ∃ s, d = .scalar s :=
  ⟨s, (congrArg Prod.fst (Option.some.inj h)).symm⟩

theorem exists_scalar_of_decimal {negative : Bool} {t rest : Text} {d : Data}
    (h : decimal negative t = some (d, rest)) : ∃ s, d = .scalar s := by
  have h := eq_some_of_guard (eq_some_of_guard h)
  obtain ⟨exponent, -, h⟩ := Option.bind_eq_some_iff.1 h
  rcases ite_eq_iff.1 h with ⟨-, h⟩ | ⟨-, h⟩
  · exact exists_scalar_of_eq (eq_some_of_guard h)
  · exact exists_scalar_of_eq h

theorem exists_scalar_of_number {t rest : Text} {d : Data} (h : number t = some (d, rest)) :
    ∃ s, d = .scalar s := by
  unfold number at h
  dsimp only at h
  split at h
  · exact exists_scalar_of_eq h
  · exact exists_scalar_of_eq h
  · split at h
    · obtain ⟨n, -, h⟩ := Option.bind_eq_some_iff.1 (eq_some_of_guard h)
      exact exists_scalar_of_eq h
    · exact exists_scalar_of_decimal h
  · exact exists_scalar_of_decimal h

/-- A value that is no collection is a scalar. -/
theorem exists_scalar_of_single {t rest : Text} {d : Data} (h : single t = some (d, rest)) :
    ∃ s, d = .scalar s := by
  unfold single at h
  split at h
  · cases h
  split at h
  · obtain ⟨⟨s, after⟩, -, hpair⟩ := Option.map_eq_some_iff.1 h
    obtain ⟨rfl, -⟩ := Prod.mk.inj hpair
    exact ⟨_, rfl⟩
  split at h
  · exact exists_scalar_of_eq h
  · exact exists_scalar_of_eq h
  · exact exists_scalar_of_eq h
  · exact exists_scalar_of_number h

/-- A document with a map starts with a brace. -/
theorem skipBlanks_eq_of_parse {room : Nat} {t : Text} {es : List (Scalar × Data)}
    (h : parse room t = .ok (.map es)) : ∃ u, skipBlanks t = '\x7b' :: u := by
  obtain ⟨⟨d, rest⟩, hvalue, h⟩ := Parser.ok_of_bind h
  rcases ite_eq_iff.1 h with ⟨-, h⟩ | ⟨-, h⟩
  · obtain rfl := Except.ok.inj h
    unfold value at hvalue
    split at hvalue
    · exact ⟨_, by assumption⟩
    · split at hvalue
      · cases hvalue
      · generalize elements _ _ _ = r at hvalue
        cases r <;> cases hvalue
    · unfold orMalformed at hvalue
      split at hvalue
      · rename_i hsingle
        obtain rfl := Except.ok.inj hvalue
        obtain ⟨s, hs⟩ := exists_scalar_of_single hsingle
        cases hs
      · cases hvalue
  · cases h

/-- **A document with a map has no imports.** -/
theorem imports_eq_nil_of_parse {room : Nat} {source : Text} {es : List (Scalar × Data)}
    {d : Dialect} {head : Head} (h : parse room (source.withEol .lf) = .ok (.map es))
    (hparse : Head.parse source d = .ok head) : head.imports = [] := by
  obtain ⟨u, hu⟩ := skipBlanks_eq_of_parse h
  have hshebang : shebangLength source = 0 := by
    unfold shebangLength
    split
    · rename_i hprefix
      obtain ⟨rest, rfl⟩ := List.isPrefixOf_iff_prefix.1 hprefix
      cases hu
    · rfl
  obtain ⟨t, ts, htokens, hstring, himport⟩ := exists_first hu 0 false
  have hdirectives : Parser.directives (t :: ts) = ([], t :: ts) := by
    rw [Parser.directives.eq_def]
    exact if_neg hstring
  have himports : Parser.imports source.length d source (t :: ts) = .ok ([], t :: ts) := by
    rw [Parser.imports, if_neg]
    intro hstarts
    have hname := (Bool.and_eq_true_iff.1 hstarts).1
    exact himport (eq_of_beq (Bool.and_eq_true_iff.1 hname).2)
  simp only [Head.parse, hshebang, List.drop_zero, htokens, hdirectives, himports] at hparse
  obtain rfl := Except.ok.inj hparse
  rfl

end Json5

end ImportOrder
