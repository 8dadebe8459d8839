import ImportOrder.Proofs.Render.Written

/-!
# String literals with other quotes

A string literal is a row of units: characters, and escapes that take the character behind the
backslash along. An escaped quote denotes the bare quote, so that it does not matter to the meaning
which quotes stand around a literal. Writing it with the other quotes takes the backslash from the
old quotes inside and gives one to the new ones, unit by unit, so that the result is a literal again
and denotes the same.

## Main definitions

* `LiteralUnit`, `meaning`: what stands between the quotes of a literal

## Main results

* `scan_enclose_iff`: which bodies make a literal
* `meaning_requoteBody`: other quotes do not change what is denoted
* `requote_denotes`: a literal with other quotes is a literal that denotes the same
-/

namespace ImportOrder

/-- **A unit of a string literal**: a character, or an escape other than that of a quote, which is
left as it is. -/
inductive LiteralUnit where
  | char (c : Char)
  | escape (c : Char)
deriving Repr, DecidableEq

/-- **What the body of a string literal denotes.** A backslash takes the character behind it along,
and the escape of a quote is the bare quote. -/
def meaning : Text → List LiteralUnit
  | [] => []
  | '\\' :: c :: t =>
    (if (Quote.ofChar? c).isSome then .char c else .escape c) :: meaning t
  | c :: t => .char c :: meaning t

@[simp] theorem meaning_escapedQuote (q : Quote) (t : Text) :
    meaning ('\\' :: q.char :: t) = .char q.char :: meaning t := by
  rw [meaning, Quote.ofChar?_char]
  rfl

theorem meaning_plain {c : Char} (t : Text) (hc : ∀ d u, c = '\\' → t = d :: u → False) :
    meaning (c :: t) = .char c :: meaning t := by
  rw [meaning]
  exact hc

@[simp] theorem meaning_quote (q : Quote) (t : Text) :
    meaning (q.char :: t) = .char q.char :: meaning t :=
  meaning_plain t fun _ _ h _ => q.char_ne_backslash h

/-- **Other quotes do not change what is denoted.** -/
theorem meaning_requoteBody (q r : Quote) (body : Text) :
    meaning (requoteBody q.char r.char body) = meaning body := by
  fun_induction requoteBody q.char r.char body with
  | case1 => rfl
  | case2 t ih => rw [meaning_quote, meaning_escapedQuote, ih]
  | case3 c t _ ih => rw [meaning, meaning, ih]
  | case4 t _ ih => rw [meaning_escapedQuote, meaning_quote, ih]
  | case5 c t hesc _ ih =>
    have hplain : ∀ d u, c = '\\' → requoteBody q.char r.char t = d :: u → False := by
      intro d u hc hu
      cases t with
      | nil => cases hu
      | cons e t => exact hesc e t hc rfl
    rw [meaning_plain _ hplain, meaning_plain _ hesc, ih]

/-! ## Literals in a source -/

/-- **Which bodies make a literal** that is read as one string. -/
theorem scan_enclose_iff {q : Quote} {body : Text} :
    Piece.scan (q.enclose body) = [⟨.string, q.enclose body⟩] ↔ q.Encloses body := by
  have hwhole : Piece.scan (q.enclose body) = [⟨.string, q.enclose body⟩] ↔
      Piece.StandsBefore ⟨.string, q.enclose body⟩ [] := by
    rw [Piece.StandsBefore, List.append_nil]
    rfl
  rw [hwhole]
  constructor
  · intro h
    obtain ⟨q', body', heq, hbody⟩ := Word.whole_string_iff.1 ⟨.string, rfl, h⟩
    obtain ⟨hquote, htail⟩ := List.cons.inj heq
    obtain rfl : q = q' := by
      have hsame := congrArg Quote.ofChar? hquote
      rw [Quote.ofChar?_char, Quote.ofChar?_char] at hsame
      exact Option.some.inj hsame
    rwa [List.append_cancel_right htail]
  · intro h
    obtain ⟨k, hk, hstands⟩ := Word.whole_string_iff.2 ⟨q, body, rfl, h⟩
    cases k <;> cases hk
    exact hstands

/-- A literal is read as one string, whatever comes behind it. -/
theorem scan_enclose_append {q : Quote} {body : Text} (h : q.Encloses body) (rest : Text) :
    Piece.scan (q.enclose body ++ rest) = ⟨.string, q.enclose body⟩ :: Piece.scan rest := by
  have halone : Piece.StandsBefore ⟨.string, q.enclose body⟩ [] := by
    rw [Piece.StandsBefore, List.append_nil]
    exact scan_enclose_iff.2 h
  exact (Piece.standsBefore_iff (p := ⟨.string, q.enclose body⟩) (by simp)).2 ⟨halone, rfl⟩

/-- **A literal with other quotes is a literal that denotes the same**: it stands between the new
quotes, and it is read as one string wherever it stands. -/
theorem requote_denotes {q : Quote} {body : Text} (r : Quote)
    (h : Piece.scan (q.enclose body) = [⟨.string, q.enclose body⟩]) :
    ∃ body', requote body q r = r.enclose body' ∧
      (∀ rest, Piece.scan (requote body q r ++ rest) =
        ⟨.string, requote body q r⟩ :: Piece.scan rest) ∧
      meaning body' = meaning body := by
  have hbody := scan_enclose_iff.1 h
  by_cases hqr : q = r
  · subst hqr
    have hsame : requote body q q = q.enclose body := by simp [requote, Quote.enclose]
    rw [hsame]
    exact ⟨body, rfl, scan_enclose_append hbody, rfl⟩
  · have hother : requote body q r = r.enclose (requoteBody q.char r.char body) := by
      simp [requote, Quote.enclose, hqr]
    rw [hother]
    exact ⟨_, rfl, scan_enclose_append (closeString?_requoteBody hqr hbody),
      meaning_requoteBody q r body⟩

/-- A body with both quotes, one of them escaped, an escaped line break and backslashes at the
end. -/
def mixedQuotes : Text := "a\\'\\\\\"b\\\n\\\\".toList

/-- Between double quotes, the single quote loses its backslash, and the double quote gets one
behind the two that were there. -/
theorem requote_mixedQuotes :
    Piece.scan (Quote.single.enclose mixedQuotes) =
        [⟨.string, Quote.single.enclose mixedQuotes⟩] ∧
      ∃ body', requote mixedQuotes .single .double = Quote.double.enclose body' ∧
        (∀ rest, Piece.scan (requote mixedQuotes .single .double ++ rest) =
          ⟨.string, requote mixedQuotes .single .double⟩ :: Piece.scan rest) ∧
        meaning body' = meaning mixedQuotes ∧
        body' = "a'\\\\\\\"b\\\n\\\\".toList := by
  have hscan : Piece.scan (Quote.single.enclose mixedQuotes) =
      [⟨.string, Quote.single.enclose mixedQuotes⟩] := by decide +kernel
  obtain ⟨body', heq, hread, hdenotes⟩ := requote_denotes .double hscan
  have hwritten : requote mixedQuotes .single .double =
      Quote.double.enclose "a'\\\\\\\"b\\\n\\\\".toList := by decide +kernel
  refine ⟨hscan, body', heq, hread, hdenotes, ?_⟩
  exact List.append_cancel_right (List.cons.inj (heq.symm.trans hwritten)).2

end ImportOrder
