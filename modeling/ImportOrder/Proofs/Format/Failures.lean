import ImportOrder.Format
import ImportOrder.Proofs.Arrangement.Buckets

/-!
# How formatting can fail

Groups that were built take every statement, so that arranging fails at groups which cannot be built
and at statements which cannot be merged only. Writing fails at comments inside of statements, or
where the settings ask for what cannot be done.

## Main definitions

* `Settings.Overasks`, `Settings.Fits`: settings that ask for what cannot, and for what can be done

## Main results

* `Group.isSome_classify?`: every statement has a group
* `arrange_eq_error`: why arranging fails
* `renderRegion_eq_error`: why writing fails
* `FormatContext.regionText_failure`: why the imports of a source cannot be written
-/

namespace ImportOrder

/-! ## Arranging -/

namespace Group

theorem hasCatchAll_withCatchAll (groups : List Group) :
    hasCatchAll (withCatchAll groups) = true := by
  unfold withCatchAll
  split
  · assumption
  · simp [hasCatchAll, Matcher.isCatchAll]

theorem accepts_of_isCatchAll {project : Option Project} {st : Statement} {m : Matcher}
    (h : m.isCatchAll = true) : m.accepts project st = true := by
  cases m with
  | any => rfl
  | _ => cases h

/-- **Every statement has a group.** -/
theorem isSome_classify? [Platform] {rules : List GroupRule} {groups : List Group}
    (h : build rules = .ok groups) (project : Option Project) (st : Statement) :
    (classify? project groups st).isSome = true := by
  have hcatchAll : hasCatchAll groups = true := by
    unfold build at h
    cases hrules : compileRules 0 [] rules with
    | error e =>
      rw [hrules] at h
      cases h
    | ok compiled =>
      rw [hrules] at h
      obtain rfl := Except.ok.inj h
      exact hasCatchAll_withCatchAll compiled
  obtain ⟨g, hg, hany⟩ := List.any_eq_true.1 hcatchAll
  obtain ⟨m, hm, hall⟩ := List.any_eq_true.1 hany
  rw [classify?, List.find?_isSome]
  exact ⟨g, hg, List.any_eq_true.2 ⟨m, hm, accepts_of_isCatchAll hall⟩⟩

end Group

/-- Statements of one key cannot be combined if there are comments inside of them, or if they
exclude each other. -/
theorem Statement.combine_eq_error {first : Statement} {others : List Statement} {e : Failure}
    (h : first.combine others = .error e) :
    ((∃ st ∈ first :: others, st.innerComments = true) ∧ ∃ cause, e = .unsupported cause) ∨
      ∃ k, e = .conflict k := by
  simp only [combine] at h
  split at h
  · rename_i hinner
    exact .inl ⟨List.any_eq_true.1 hinner, _, (Except.error.inj h).symm⟩
  · split at h
    · exact .inr ⟨_, (Except.error.inj h).symm⟩
    · cases h

/-- Merging fails at statements of one key that cannot be combined. -/
theorem exists_combine_of_mergeDuplicates {ss : List Statement} {e : Failure}
    (h : (mergeDuplicates ss).result = .error e) :
    ∃ first others, first :: others ∈ classesByKey ss ∧ others ≠ [] ∧
      first.combine others = .error e := by
  rcases Journaled.bind_eq_error h with h | ⟨ms, -, h⟩
  · obtain ⟨c, hmem, hc⟩ := Journaled.exists_of_forEach_eq_error h
    unfold mergeClass at hc
    split at hc
    · cases hc
    · cases hc
    · rename_i first others hmore
      rcases Journaled.bind_eq_error hc with hc | ⟨merged, -, hc⟩
      · exact ⟨first, others, hmem, hmore, hc⟩
      · cases hc
  · cases h

/-- **Why arranging fails**: the groups cannot be built, or statements cannot be handled or exclude
each other. -/
theorem arrange_eq_error [Platform] {s : Settings} {project : Option Project} {ss : List Statement}
    {e : Failure} (h : (arrange s project ss).result = .error e) :
    (∃ cause, e = .unsupported cause) ∨ (∃ k, e = .conflict k) ∨
      ∃ e', e = .settings e' ∧ s.builtGroups = .error e' := by
  rcases Journaled.bind_eq_error h with h | ⟨groups, hgroups, h⟩
  · obtain ⟨e', he', rfl⟩ := mapError_eq_error h
    exact .inr (.inr ⟨e', rfl, he'⟩)
  have hbuilt := mapError_eq_ok_iff.1 hgroups
  obtain ⟨placed, hplaced⟩ := exists_classifyAll_iff.2 fun st (_ : st ∈ ss) =>
    Group.isSome_classify? hbuilt project st
  rw [hplaced] at h
  rcases Journaled.bind_eq_error h with h | ⟨placed', -, h⟩
  · cases h
  rcases Journaled.bind_eq_error h with h | ⟨arranged, -, h⟩
  · obtain ⟨position, -, h⟩ := Journaled.exists_of_forEach_eq_error h
    rw [arrangeGroup] at h
    split at h
    · rcases Journaled.bind_eq_error h with h | ⟨members, -, h⟩
      · obtain ⟨first, others, -, -, h⟩ := exists_combine_of_mergeDuplicates h
        exact (Statement.combine_eq_error h).imp (·.2) .inl
      · cases h
    · cases h
  · rcases Journaled.bind_eq_error h with h | ⟨-, -, h⟩
    · cases h
    · cases h

/-! ## Writing -/

/-- A text cannot be repeated so often that it is too long to be held. -/
theorem Text.checkTimes_eq_error_iff [Platform] {t : Text} {n : Nat} :
    (∃ cause, t.checkTimes n = .error cause) ↔ sizeLimit < t.length * n := by
  unfold checkTimes sizeLimit
  by_cases hlength : lengthLimit < t.length * n
  · rw [if_pos hlength]
    exact ⟨fun _ => by omega, fun _ => ⟨_, rfl⟩⟩
  · rw [if_neg hlength]
    by_cases hmemory : Platform.memoryLimit < t.length * n
    · rw [if_pos hmemory]
      exact ⟨fun _ => by omega, fun _ => ⟨_, rfl⟩⟩
    · rw [if_neg hmemory]
      exact ⟨nofun, fun h => by omega⟩

theorem Text.checkTimes_eq_ok [Platform] {t : Text} {n : Nat} (h : t.length * n ≤ sizeLimit) :
    t.checkTimes n = .ok () := by
  cases hcheck : t.checkTimes n with
  | ok _ => rfl
  | error cause => exact absurd (checkTimes_eq_error_iff.1 ⟨cause, hcheck⟩) (Nat.not_lt.2 h)

namespace Settings

/-- **Settings that ask for what cannot be done** when lines end in a given way: quotes that are not
known, an indentation or blank lines between groups that cannot be held. -/
inductive Overasks [Platform] (s : Settings) (eol : Eol) : Breakdown → Prop
  | quote (h : s.knowsQuote = false) : Overasks s eol .unknownStyle
  | indent {cause : Breakdown} (hwraps : s.maxLineLength ≠ 0)
      (h : Text.checkTimes [' '] s.indent = .error cause) : Overasks s eol cause
  | breaks {cause : Breakdown} (h : eol.text.checkTimes s.breaks = .error cause) :
      Overasks s eol cause

/-- The line endings that may be used under some settings. -/
def MayUse (s : Settings) (eol : Eol) : Prop := s.eol? = some eol ∨ s.eol = "auto"

/-- **Settings that ask for what can be done**: their styles are known, and there is room for the
blank lines between groups with any line ending that may be used, and for the indentation if lines
may be wrapped. -/
structure Fits [Platform] (s : Settings) : Prop where
  eol : s.knowsEol = true
  quote : s.knowsQuote = true
  breaks (eol : Eol) (h : s.MayUse eol) : eol.text.length * s.breaks ≤ sizeLimit
  indent : s.maxLineLength = 0 ∨ s.indent ≤ sizeLimit

theorem Fits.not_overasks [Platform] {s : Settings} (h : s.Fits) {eol : Eol} (heol : s.MayUse eol)
    (cause : Breakdown) : ¬s.Overasks eol cause := by
  rintro (hquote | ⟨hwraps, hcheck⟩ | hcheck)
  · rw [h.quote] at hquote
    cases hquote
  · have hlong := Text.checkTimes_eq_error_iff.1 ⟨cause, hcheck⟩
    rw [List.length_singleton, Nat.one_mul] at hlong
    exact absurd (h.indent.resolve_left hwraps) (Nat.not_le.2 hlong)
  · exact absurd (h.breaks eol heol) (Nat.not_le.2 (Text.checkTimes_eq_error_iff.1 ⟨cause, hcheck⟩))

end Settings

theorem Statement.renderLines_eq_error [Platform] {s : Settings} {eol : Eol} {st : Statement}
    {e : Failure} (h : st.renderLines s eol = .error e) :
    (∃ cause, e = .unsupported cause) ∨ ∃ cause, e = .broken cause ∧ s.Overasks eol cause := by
  rcases Except.bind_eq_error h with h | ⟨text, -, h⟩
  case inr => cases h
  cases hinner : st.innerComments with
  | true =>
    cases hraw : st.raw with
    | none =>
      rw [render, if_pos hinner, hraw] at h
      exact .inl ⟨_, (Except.error.inj h).symm⟩
    | some raw =>
      rw [render_of_inner hinner hraw] at h
      rcases Except.bind_eq_error h with h | ⟨kept, -, h⟩
      · obtain ⟨cause, hcause, rfl⟩ := mapError_eq_error h
        unfold isUnchanged checkQuote at hcause
        split at hcause
        · cases hquote : s.knowsQuote with
          | true =>
            rw [hquote] at hcause
            cases hcause
          | false =>
            rw [hquote] at hcause
            obtain rfl := Except.error.inj hcause
            exact .inr ⟨_, rfl, .quote hquote⟩
        · cases hcause
      · cases kept with
        | true => cases h
        | false => exact .inl ⟨_, (Except.error.inj h).symm⟩
  | false =>
    cases hquote : s.knowsQuote with
    | false =>
      rw [render_of_unknown hinner hquote] at h
      exact .inr ⟨_, (Except.error.inj h).symm, .quote hquote⟩
    | true =>
      rw [render_of_known hinner hquote] at h
      split at h
      · cases h
      · obtain ⟨cause, hcause, rfl⟩ := mapError_eq_error h
        refine .inr ⟨cause, rfl, ?_⟩
        unfold renderBindings at hcause
        dsimp only at hcause
        split at hcause
        · cases hcause
        · split at hcause
          · rename_i hwrapped
            rcases Except.bind_eq_error hcause with hcause | ⟨_, -, hcause⟩
            · exact .indent hwrapped.1 hcause
            · cases hcause
          · cases hcause

/-- **Why writing fails**: a statement with comments inside would change, or the settings ask for
what cannot be done. -/
theorem renderRegion_eq_error [Platform] {s : Settings} {eol : Eol}
    {groups : List (List Statement)} {e : Failure} (h : renderRegion s eol groups = .error e) :
    (∃ cause, e = .unsupported cause) ∨ ∃ cause, e = .broken cause ∧ s.Overasks eol cause := by
  rcases Except.bind_eq_error h with h | ⟨blocks, -, h⟩
  · obtain ⟨group, -, h⟩ := exists_of_mapM_eq_error h
    rcases Except.bind_eq_error h with h | ⟨lines, -, h⟩
    · obtain ⟨st, -, h⟩ := exists_of_mapM_eq_error h
      exact Statement.renderLines_eq_error h
    · cases h
  · rcases Except.bind_eq_error h with h | ⟨_, -, h⟩
    · obtain ⟨cause, hcause, rfl⟩ := mapError_eq_error h
      exact .inr ⟨cause, rfl, .breaks hcause⟩
    · cases h

/-! ## A source -/

/-- **Why the imports of a source cannot be written.** -/
theorem FormatContext.regionText_failure [Platform] {c : FormatContext} {head : Head} {e : Failure}
    (h : (c.regionText head).result = .error e) :
    (∃ cause, e = .unsupported cause) ∨ (∃ k, e = .conflict k) ∨
      (∃ e', e = .settings e' ∧ c.settings.builtGroups = .error e') ∨
      ∃ cause, e = .broken cause ∧ c.settings.Overasks (c.eolFor head.source) cause := by
  rcases Journaled.bind_eq_error h with h | ⟨arranged, -, h⟩
  · exact (arrange_eq_error h).imp id fun h => h.imp id .inl
  · exact (renderRegion_eq_error h).imp id fun h => .inr (.inr h)

end ImportOrder
