import ImportOrder.Proofs.Source.Cut
import ImportOrder.Source.Token

/-!
# Tokens and comments of pieces in a row

The tokens of pieces in a row are those of the first ones and then those of the others, at offsets
that go on. What a token is, without its place, is a word.

## Main definitions

* `Word`, `Token.word`, `Piece.words`: tokens without their places
* `Piece.isGap`: pieces between tokens
* `Token.pending`: whether a line has ended since the last token of some pieces
* `Word.Whole`: a word that is a piece of some text

## Main results

* `Token.ofPieces_append`, `Comment.ofPieces_append`: tokens and comments of pieces in a row
* `Token.exists_run`: the pieces that given tokens come from
-/

namespace ImportOrder

open Piece (textOf)

/-- **A token without its place.** -/
structure Word where
  kind : TokenKind
  text : Text
deriving Repr, DecidableEq

namespace Word

/-- **A whole word** is a piece by itself. -/
def Whole (w : Word) : Prop :=
  ∃ k, k.token? = some w.kind ∧ Piece.StandsBefore ⟨k, w.text⟩ []

/-- Whole words with the same text are the same. -/
theorem Whole.eq_of_text {v w : Word} (hv : v.Whole) (hw : w.Whole) (h : v.text = w.text) :
    v = w := by
  obtain ⟨k, hk, hs⟩ := hv
  obtain ⟨l, hl, hs'⟩ := hw
  rw [Piece.StandsBefore, h] at hs
  rw [Piece.StandsBefore, hs] at hs'
  obtain rfl : k = l := congrArg Piece.kind (List.cons.inj hs').1
  have hkind : v.kind = w.kind := Option.some.inj (hk.symm.trans hl)
  cases v
  cases w
  simp_all

end Word

namespace Piece

/-- Whether a piece is no token: a space, a line break or a comment. -/
def isGap (p : Piece) : Bool := p.kind.token?.isNone

theorem exists_token_of_isGap {p : Piece} (h : p.isGap = false) :
    ∃ k, p.kind.token? = some k := by
  simpa [isGap, Option.isNone_eq_false_iff, Option.isSome_iff_exists] using h

/-- The word that a piece is, if it is a token. -/
def word? (p : Piece) : Option Word := p.kind.token?.map (⟨·, p.text⟩)

/-- The words among pieces. -/
def words (ps : List Piece) : List Word := ps.filterMap word?

@[simp] theorem words_nil : words [] = [] := rfl

theorem words_cons (p : Piece) (ps : List Piece) :
    words (p :: ps) = p.word?.toList ++ words ps := by
  cases hp : p.word? <;> simp [words, hp]

theorem words_append (ps qs : List Piece) : words (ps ++ qs) = words ps ++ words qs :=
  List.filterMap_append

theorem words_eq_nil_of_gaps {ps : List Piece} (h : ∀ p ∈ ps, p.isGap) : words ps = [] := by
  refine List.filterMap_eq_nil_iff.2 fun p hp => ?_
  simpa [word?, isGap] using h p hp

end Piece

namespace Token

/-- The word of a token. -/
def word (t : Token) : Word := ⟨t.kind, t.text⟩

/-- Whether a line has ended since the last token of some pieces, where `newline` tells it at their
start. -/
def pending (newline : Bool) : List Piece → Bool
  | [] => newline
  | p :: ps => pending (p.isGap && (newline || p.endsLine)) ps

@[simp] theorem pending_append (newline : Bool) (ps qs : List Piece) :
    pending newline (ps ++ qs) = pending (pending newline ps) qs := by
  induction ps generalizing newline with
  | nil => rfl
  | cons p ps ih => exact ih _

theorem pending_of_gaps {newline : Bool} {ps : List Piece} (h : ∀ p ∈ ps, p.isGap) :
    pending newline ps = (newline || ps.any Piece.endsLine) := by
  induction ps generalizing newline with
  | nil => simp [pending]
  | cons p ps ih =>
    rw [pending, ih fun q hq => h q (List.mem_cons_of_mem p hq), h p (by simp)]
    simp [Bool.or_assoc]

theorem pending_of_getLast? {ps : List Piece} (h : ∀ p ∈ ps.getLast?, p.isGap = false) :
    pending false ps = false := by
  rcases List.eq_nil_or_concat ps with rfl | ⟨init, p, rfl⟩
  · rfl
  · simp [pending, h p (by simp)]

theorem ofPieces_append (offset : Nat) (newline : Bool) (ps qs : List Piece) :
    ofPieces offset newline (ps ++ qs) = ofPieces offset newline ps ++
      ofPieces (offset + (textOf ps).length) (pending newline ps) qs := by
  induction ps generalizing offset newline with
  | nil => rfl
  | cons p ps ih =>
    simp only [List.cons_append, ofPieces, pending, Piece.isGap, Piece.textOf_cons,
      List.length_append]
    cases hk : p.kind.token? <;> simp [ih, Nat.add_assoc]

@[simp] theorem ofPieces_nil (offset : Nat) (newline : Bool) : ofPieces offset newline [] = [] :=
  rfl

theorem map_word_ofPieces (offset : Nat) (newline : Bool) (ps : List Piece) :
    (ofPieces offset newline ps).map word = Piece.words ps := by
  induction ps generalizing offset newline with
  | nil => rfl
  | cons p ps ih =>
    rw [Piece.words_cons, ofPieces, Piece.word?]
    cases hk : p.kind.token? with
    | none => exact ih _ _
    | some k => simp [word, ih]

theorem ofPieces_of_gaps {offset : Nat} {newline : Bool} {ps : List Piece}
    (h : ∀ p ∈ ps, p.isGap) : ofPieces offset newline ps = [] := by
  rw [← List.map_eq_nil_iff (f := word), map_word_ofPieces, Piece.words_eq_nil_of_gaps h]

/-- A gap only moves the tokens behind it. -/
theorem ofPieces_gap_append {offset : Nat} {newline : Bool} {gap : List Piece}
    (h : ∀ q ∈ gap, q.isGap) (ps : List Piece) :
    ofPieces offset newline (gap ++ ps) =
      ofPieces (offset + (textOf gap).length) (newline || gap.any Piece.endsLine) ps := by
  rw [ofPieces_append, ofPieces_of_gaps h, pending_of_gaps h, List.nil_append]

/-- The first token behind a gap. -/
theorem ofPieces_gap_cons {offset : Nat} {newline : Bool} {gap ps : List Piece} {p : Piece}
    {k : TokenKind} (h : ∀ q ∈ gap, q.isGap) (hk : p.kind.token? = some k) :
    ofPieces offset newline (gap ++ p :: ps) =
      ⟨k, p.text, offset + (textOf gap).length, newline || gap.any Piece.endsLine⟩ ::
        ofPieces (offset + (textOf gap).length + p.text.length) false ps := by
  rw [ofPieces_gap_append h]
  simp [ofPieces, hk]

/-- The gap at the start of pieces, and what follows it. -/
theorem exists_gap (ps : List Piece) :
    ∃ gap rest, ps = gap ++ rest ∧ (∀ p ∈ gap, p.isGap) ∧
      ∀ p ∈ rest.head?, p.isGap = false := by
  refine ⟨ps.takeWhile Piece.isGap, ps.dropWhile Piece.isGap, ?_, ?_, ?_⟩
  · simp
  · exact fun p hp => List.mem_takeWhile_imp hp
  · intro p hp
    have := List.head?_dropWhile_not Piece.isGap ps
    rw [Option.mem_def.1 hp] at this
    simpa using this

/-- Pieces that start and end with a token, and what tokens they are. -/
structure IsRun (run : List Piece) : Prop where
  first : ∃ p ps, run = p :: ps ∧ p.isGap = false
  last : ∃ ps p, run = ps ++ [p] ∧ p.isGap = false

theorem IsRun.ne_nil {run : List Piece} (h : IsRun run) : run ≠ [] := by
  obtain ⟨p, ps, rfl, -⟩ := h.first
  simp

theorem IsRun.pending {run : List Piece} (h : IsRun run) (newline : Bool) :
    pending newline run = false := by
  obtain ⟨ps, p, rfl, hp⟩ := h.last
  simp [Token.pending, hp]

/-- The pieces that some tokens come from, without the gaps around them. -/
theorem exists_run {offset : Nat} {newline : Bool} {ps : List Piece} {ts us : List Token}
    (h : ofPieces offset newline ps = ts ++ us) (hts : ts ≠ []) :
    ∃ gap run rest, ps = gap ++ run ++ rest ∧ (∀ p ∈ gap, p.isGap) ∧ IsRun run ∧
      ofPieces (offset + (textOf gap).length) (newline || gap.any Piece.endsLine) run = ts ∧
      ofPieces (offset + (textOf gap).length + (textOf run).length) false rest = us := by
  -- On the tokens: each takes the gap before it and its own piece.
  induction ts generalizing offset newline ps with
  | nil => exact absurd rfl hts
  | cons t ts ih =>
    obtain ⟨gap, rest, rfl, hgap, hrest⟩ := exists_gap ps
    cases rest with
    | nil =>
      rw [List.append_nil, ofPieces_of_gaps hgap] at h
      simp at h
    | cons p rest =>
      have hp : p.isGap = false := hrest p rfl
      obtain ⟨k, hk⟩ := Piece.exists_token_of_isGap hp
      rw [ofPieces_gap_cons hgap hk] at h
      obtain ⟨ht, h⟩ := List.cons.inj h
      by_cases hnil : ts = []
      · subst hnil
        refine ⟨gap, [p], rest, by simp, hgap, ⟨⟨p, [], rfl, hp⟩, ⟨[], p, rfl, hp⟩⟩, ?_, ?_⟩
        · simp [ofPieces, hk, ht]
        · simpa using h
      · obtain ⟨gap', run, more, rfl, hgap', hrun, htok, hmore⟩ := ih h hnil
        obtain ⟨init, q, rfl, hq⟩ := hrun.last
        refine ⟨gap, p :: gap' ++ (init ++ [q]), more, by simp, hgap,
          ⟨⟨p, gap' ++ (init ++ [q]), rfl, hp⟩, ⟨p :: gap' ++ init, q, by simp, hq⟩⟩, ?_, ?_⟩
        · rw [← ht, ← htok]
          simp only [List.cons_append, ofPieces, hk, ofPieces_gap_append hgap']
        · rw [← hmore]
          congr 1
          simp [Nat.add_assoc]

/-- Tokens stand within the pieces that they come from. -/
theorem mem_ofPieces_le {offset : Nat} {newline : Bool} {ps : List Piece} {t : Token}
    (h : t ∈ ofPieces offset newline ps) :
    offset ≤ t.start ∧ t.stop ≤ offset + (textOf ps).length := by
  induction ps generalizing offset newline with
  | nil => simp at h
  | cons p ps ih =>
    have hstep : ∀ newline, t ∈ ofPieces (offset + p.text.length) newline ps →
        offset ≤ t.start ∧ t.stop ≤ offset + (textOf (p :: ps)).length := by
      intro newline hmem
      obtain ⟨hstart, hstop⟩ := ih hmem
      rw [Piece.textOf_cons, List.length_append]
      omega
    simp only [ofPieces] at h
    split at h
    · rcases List.mem_cons.1 h with rfl | h
      · simp [stop]
      · exact hstep _ h
    · exact hstep _ h

theorem whole_of_mem_ofPieces {offset : Nat} {newline : Bool} {ps : List Piece} {t : Token}
    (hps : ∀ p ∈ ps, Piece.StandsBefore p []) (h : t ∈ ofPieces offset newline ps) :
    t.word.Whole := by
  induction ps generalizing offset newline with
  | nil => simp at h
  | cons p ps ih =>
    have hrest := fun q hq => hps q (List.mem_cons_of_mem p hq)
    simp only [ofPieces] at h
    split at h
    · rename_i k hk
      rcases List.mem_cons.1 h with rfl | h
      · exact ⟨p.kind, hk, hps p (by simp)⟩
      · exact ih hrest h
    · exact ih hrest h

end Token

namespace Comment

@[simp] theorem ofPieces_nil (offset : Nat) : ofPieces offset [] = [] := rfl

theorem ofPieces_append (offset : Nat) (ps qs : List Piece) :
    ofPieces offset (ps ++ qs) =
      ofPieces offset ps ++ ofPieces (offset + (textOf ps).length) qs := by
  induction ps generalizing offset with
  | nil => rfl
  | cons p ps ih =>
    simp only [List.cons_append, ofPieces, Piece.textOf_cons, List.length_append]
    split <;> simp [ih, Nat.add_assoc]

/-- Comments stand within the pieces that they come from. -/
theorem mem_ofPieces_lt {offset : Nat} {ps : List Piece} {c : Comment}
    (hps : ∀ p ∈ ps, p.text ≠ []) (h : c ∈ ofPieces offset ps) :
    offset ≤ c.start ∧ c.start < offset + (textOf ps).length := by
  induction ps generalizing offset with
  | nil => simp at h
  | cons p ps ih =>
    have hpos : 0 < p.text.length := List.length_pos_iff.2 (hps p (by simp))
    rw [Piece.textOf_cons, List.length_append]
    simp only [ofPieces] at h
    split at h
    · rcases List.mem_cons.1 h with rfl | h
      · dsimp only
        omega
      · have := ih (fun q hq => hps q (by simp [hq])) h
        omega
    · have := ih (fun q hq => hps q (by simp [hq])) h
      omega

theorem stop_le_of_mem_ofPieces {offset : Nat} {ps : List Piece} {c : Comment}
    (h : c ∈ ofPieces offset ps) : c.stop ≤ offset + (textOf ps).length := by
  induction ps generalizing offset with
  | nil => simp at h
  | cons p ps ih =>
    rw [Piece.textOf_cons, List.length_append, ← Nat.add_assoc]
    simp only [ofPieces] at h
    split at h
    · rcases List.mem_cons.1 h with rfl | h
      · exact Nat.le_add_right _ _
      · exact ih h
    · exact ih h

end Comment

end ImportOrder
