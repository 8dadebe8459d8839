import ImportOrder.DataFile
import ImportOrder.Proofs.Results

/-!
# Nested collections

There is a limit on how deep the collections of a document may be nested, and less room is left
where files are read one on account of another. The room decides nothing but this: a document is
read as it would be with any other room, or it is nested too deep.

## Main definitions

* `Json5.document`: a document, however deep its collections are nested
* `Json5.UpToNesting`: the same result, unless collections are nested too deep

## Main results

* `Json5.parse_upToNesting`: a document with some room
* `Json5.document_ne_broken`: no document is nested too deep without a limit
-/

namespace ImportOrder

namespace Json5

/-- **A document, however deep its collections are nested.** It has no more of them than it has
characters. -/
def document (t : Text) : Except Rejection Data := parse (2 * t.length + 2) t

/-- **The same result, unless collections are nested too deep.** -/
def UpToNesting {α : Type} (x y : Except Rejection α) : Prop :=
  x = y ∨ x = .error (.broken .tooDeep)

namespace UpToNesting

variable {α β : Type} {x y : Except Rejection α}

theorem refl (x : Except Rejection α) : UpToNesting x x := .inl rfl

theorem bind {f g : α → Except Rejection β} (h : UpToNesting x y)
    (hfg : ∀ a, UpToNesting (f a) (g a)) : UpToNesting (x >>= f) (y >>= g) := by
  rcases h with rfl | rfl
  · cases x with
    | error e => exact .inl rfl
    | ok a => exact hfg a
  · exact .inr rfl

theorem map (f : α → β) (h : UpToNesting x y) : UpToNesting (x.map f) (y.map f) := by
  rcases h with rfl | rfl
  · exact refl _
  · exact .inr rfl

end UpToNesting

/-- **What the readers give with some fuel does not depend on the room**, if there is enough. -/
structure ReadsUpToNesting (fuel : Nat) : Prop where
  ofValue {room room' : Nat} (h : room ≤ room') (t : Text) :
    UpToNesting (value fuel room t) (value fuel room' t)
  ofElements {room room' : Nat} (h : room ≤ room') (t : Text) :
    UpToNesting (elements fuel room t) (elements fuel room' t)
  ofMembers {room room' : Nat} (h : room ≤ room') (t : Text) (seen : List (Scalar × Data)) :
    UpToNesting (members fuel room t seen) (members fuel room' t seen)

section

variable {fuel room room' : Nat}

theorem ReadsUpToNesting.ofValue_succ (hread : ReadsUpToNesting fuel) (h : room ≤ room')
    (t : Text) : UpToNesting (value (fuel + 1) room t) (value (fuel + 1) room' t) := by
  rw [value.eq_def, value.eq_def (fuel + 1) room']
  dsimp only
  split
  · by_cases hroom : room = 0
    · rw [if_pos hroom]
      exact .inr rfl
    · rw [if_neg hroom, if_neg (by omega)]
      exact (hread.ofMembers (by omega) _ _).map _
  · by_cases hroom : room = 0
    · rw [if_pos hroom]
      exact .inr rfl
    · rw [if_neg hroom, if_neg (by omega)]
      exact (hread.ofElements (by omega) _).map _
  · exact .refl _

theorem ReadsUpToNesting.ofElements_succ (hread : ReadsUpToNesting fuel) (h : room ≤ room')
    (t : Text) : UpToNesting (elements (fuel + 1) room t) (elements (fuel + 1) room' t) := by
  rw [elements.eq_def, elements.eq_def (fuel + 1) room']
  dsimp only
  split
  · exact .refl _
  · refine (hread.ofValue h _).bind fun p => ?_
    obtain ⟨d, rest⟩ := p
    dsimp only
    split
    · exact (hread.ofElements h _).bind fun _ => .refl _
    · exact .refl _
    · exact .refl _

theorem ReadsUpToNesting.ofMembers_succ (hread : ReadsUpToNesting fuel) (h : room ≤ room')
    (t : Text) (seen : List (Scalar × Data)) :
    UpToNesting (members (fuel + 1) room t seen) (members (fuel + 1) room' t seen) := by
  rw [members.eq_def, members.eq_def (fuel + 1) room']
  dsimp only
  split
  · exact .refl _
  · refine (UpToNesting.refl _).bind fun p => ?_
    obtain ⟨k, rest⟩ := p
    dsimp only
    split
    · refine (hread.ofValue h _).bind fun p => ?_
      obtain ⟨d, rest⟩ := p
      dsimp only
      split
      · exact hread.ofMembers h _ _
      · exact .refl _
      · exact .refl _
    · exact .refl _

end

theorem readsUpToNesting (fuel : Nat) : ReadsUpToNesting fuel := by
  -- The three readers call each other with less fuel, so they are followed together.
  induction fuel with
  | zero => exact ⟨fun _ _ => .refl _, fun _ _ => .refl _, fun _ _ _ => .refl _⟩
  | succ fuel ih => exact ⟨ih.ofValue_succ, ih.ofElements_succ, ih.ofMembers_succ⟩

/-! ## Enough room -/

/-- No breakdown, whatever else the result is. -/
def Unbroken {α : Type} (x : Except Rejection α) : Prop := ∀ cause, x ≠ .error (.broken cause)

namespace Unbroken

variable {α β : Type} {x : Except Rejection α}

theorem ok (a : α) : Unbroken (.ok a) := nofun

theorem malformed : Unbroken (.error .malformed : Except Rejection α) := nofun

theorem orMalformed (x : Option α) : Unbroken (orMalformed x) := by
  cases x with
  | none => exact malformed
  | some a => exact ok a

theorem bind {f : α → Except Rejection β} (h : Unbroken x) (hf : ∀ a, Unbroken (f a)) :
    Unbroken (x >>= f) := by
  cases x with
  | ok a => exact hf a
  | error e =>
    intro cause hbroken
    exact h cause (congrArg Except.error (Except.error.inj hbroken))

theorem map (f : α → β) (h : Unbroken x) : Unbroken (x.map f) := by
  intro cause hbroken
  exact h cause (Except.eq_error_of_map hbroken)

end Unbroken

/-- **With as much room as fuel the readers do not break down**: each collection takes a step. -/
structure ReadsUnbroken (fuel : Nat) : Prop where
  ofValue {room : Nat} (h : fuel ≤ room) (t : Text) : Unbroken (value fuel room t)
  ofElements {room : Nat} (h : fuel ≤ room) (t : Text) : Unbroken (elements fuel room t)
  ofMembers {room : Nat} (h : fuel ≤ room) (t : Text) (seen : List (Scalar × Data)) :
    Unbroken (members fuel room t seen)

section

variable {fuel room : Nat}

theorem ReadsUnbroken.ofValue_succ (hread : ReadsUnbroken fuel) (h : fuel + 1 ≤ room) (t : Text) :
    Unbroken (value (fuel + 1) room t) := by
  rw [value.eq_def]
  dsimp only
  split
  · rw [if_neg (by omega)]
    exact (hread.ofMembers (by omega) _ _).map _
  · rw [if_neg (by omega)]
    exact (hread.ofElements (by omega) _).map _
  · exact .orMalformed _

theorem ReadsUnbroken.ofElements_succ (hread : ReadsUnbroken fuel) (h : fuel + 1 ≤ room)
    (t : Text) : Unbroken (elements (fuel + 1) room t) := by
  rw [elements.eq_def]
  dsimp only
  split
  · exact .ok _
  · refine (hread.ofValue (by omega) _).bind fun p => ?_
    obtain ⟨d, rest⟩ := p
    dsimp only
    split
    · exact (hread.ofElements (by omega) _).bind fun _ => .ok _
    · exact .ok _
    · exact .malformed

theorem ReadsUnbroken.ofMembers_succ (hread : ReadsUnbroken fuel) (h : fuel + 1 ≤ room) (t : Text)
    (seen : List (Scalar × Data)) : Unbroken (members (fuel + 1) room t seen) := by
  rw [members.eq_def]
  dsimp only
  split
  · exact .ok _
  · refine (Unbroken.orMalformed _).bind fun p => ?_
    obtain ⟨k, rest⟩ := p
    dsimp only
    split
    · refine (hread.ofValue (by omega) _).bind fun p => ?_
      obtain ⟨d, rest⟩ := p
      dsimp only
      split
      · exact hread.ofMembers (by omega) _ _
      · exact .ok _
      · exact .malformed
    · exact .malformed

end

theorem readsUnbroken (fuel : Nat) : ReadsUnbroken fuel := by
  induction fuel with
  | zero => exact ⟨fun _ _ => .malformed, fun _ _ => .malformed, fun _ _ _ => .malformed⟩
  | succ fuel ih => exact ⟨ih.ofValue_succ, ih.ofElements_succ, ih.ofMembers_succ⟩

/-! ## Documents -/

/-- **No document is nested too deep** without a limit. -/
theorem document_ne_broken (t : Text) : Unbroken (document t) := by
  refine ((readsUnbroken _).ofValue (Nat.le_refl _) _).bind fun p => ?_
  obtain ⟨d, rest⟩ := p
  dsimp only
  split
  · exact .ok _
  · exact .malformed

/-- **A document with some room** is read as without a limit, or it is nested too deep. -/
theorem parse_upToNesting (room : Nat) (t : Text) : UpToNesting (parse room t) (document t) := by
  have hread := readsUpToNesting (2 * t.length + 2)
  have hvalue : UpToNesting (value (2 * t.length + 2) room (skipBlanks t))
      (value (2 * t.length + 2) (2 * t.length + 2) (skipBlanks t)) := by
    rcases Nat.le_total room (2 * t.length + 2) with hle | hle
    · exact hread.ofValue hle _
    · rcases hread.ofValue hle (skipBlanks t) with hsame | hdeep
      · exact .inl hsame.symm
      · exact absurd hdeep ((readsUnbroken _).ofValue (Nat.le_refl _) _ _)
  exact hvalue.bind fun _ => .refl _

end Json5

namespace Workspace

variable {w : Workspace} {p : Path}

/-- The data of a file, however deep its collections are nested. -/
def contents (w : Workspace) (p : Path) : Except SettingsError Data :=
  w.readWith Json5.document .malformedJson p

theorem contents_ne_broken (cause : Breakdown) : w.contents p ≠ .error (.broken cause) := by
  intro h
  rcases Except.bind_eq_error h with h | ⟨source, -, h⟩
  · obtain ⟨fault, -, hfault⟩ := mapError_eq_error h
    cases hfault
  · split at h
    · cases h
    · cases h
    · rename_i cause' hbroken
      exact Json5.document_ne_broken _ cause' hbroken

/-- **The data of a file** is read as without a limit, or it is nested too deep. -/
theorem readJson_cases [Platform] (w : Workspace) (p : Path) (before : Nat) :
    w.readJson p before = w.contents p ∨ w.readJson p before = .error (.broken .tooDeep) := by
  have hjson : DataFormat.json.parse before = Json5.parse (Platform.jsonDepth before) := rfl
  rw [readJson, readData, hjson, contents, readWith, readWith]
  cases (w.readSource p).mapError (SettingsError.unreadableFile p.toString) with
  | error e => exact .inl rfl
  | ok source =>
    simp only [bind, Except.bind]
    rcases Json5.parse_upToNesting (Platform.jsonDepth before) (source.withEol .lf) with h | h
    · exact .inl (by rw [h]; rfl)
    · exact .inr (by rw [h]; rfl)

end Workspace

end ImportOrder
