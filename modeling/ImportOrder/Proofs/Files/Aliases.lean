import ImportOrder.Project.Basic
import Mathlib.Data.List.TakeWhile

/-!
# The specifiers of an alias table

A pattern with a star is looked for at both ends of a specifier, and the two ends may share
characters: `a*a` is both at the start and at the end of `a`. The length of the specifier decides
whether they do, so that what is left stands for a text in the place of the star.

## Main results

* `exists_middle_iff`: a start and an end that fit side by side have something between them
* `Project.isAlias_iff`: the specifiers that a table covers
-/

namespace ImportOrder

/-- A start and an end of a list that fit side by side leave a middle. -/
theorem exists_middle_iff {α : Type} {s before after : List α} :
    (before <+: s ∧ after <:+ s ∧ before.length + after.length ≤ s.length) ↔
      ∃ middle, s = before ++ middle ++ after := by
  constructor
  · rintro ⟨⟨rest, rfl⟩, hafter, hlength⟩
    have hle : after.length ≤ rest.length := by
      rw [List.length_append] at hlength
      omega
    obtain ⟨middle, rfl⟩ :=
      List.suffix_of_suffix_length_le hafter (List.suffix_append before rest) hle
    exact ⟨middle, (List.append_assoc _ _ _).symm⟩
  · rintro ⟨middle, rfl⟩
    refine ⟨⟨middle ++ after, (List.append_assoc _ _ _).symm⟩, List.suffix_append _ _, ?_⟩
    simp only [List.length_append]
    omega

theorem matchesAlias_of_notMem {pattern : WideText} (h : .char '*' ∉ pattern)
    (specifier : WideText) : matchesAlias pattern specifier = true ↔ pattern = specifier := by
  have hdrop : pattern.dropWhile (· ≠ .char '*') = [] := by
    rw [List.dropWhile_eq_nil_iff]
    intro c hc
    exact decide_eq_true (ne_of_mem_of_not_mem hc h)
  rw [matchesAlias, hdrop, beq_iff_eq, eq_comm]

theorem matchesAlias_of_star {before after : WideText} (h : .char '*' ∉ before)
    (specifier : WideText) :
    matchesAlias (before ++ .char '*' :: after) specifier = true ↔
      ∃ middle, specifier = before ++ middle ++ after := by
  have hbefore : ∀ c ∈ before, decide (c ≠ .char '*') = true := fun c hc =>
    decide_eq_true (ne_of_mem_of_not_mem hc h)
  have hdrop : (before ++ .char '*' :: after).dropWhile (· ≠ .char '*') = .char '*' :: after := by
    rw [List.dropWhile_append_of_pos hbefore]
    simp
  have htake : (before ++ .char '*' :: after).takeWhile (· ≠ .char '*') = before := by
    rw [List.takeWhile_append_of_pos hbefore]
    simp
  rw [matchesAlias, hdrop, htake, ← exists_middle_iff]
  simp [and_assoc]

/-- The specifiers that a pattern covers. -/
theorem matchesAlias_iff {pattern specifier : WideText} :
    matchesAlias pattern specifier = true ↔
      (.char '*' ∉ pattern ∧ pattern = specifier) ∨
        ∃ before middle after, .char '*' ∉ before ∧ pattern = before ++ .char '*' :: after ∧
          specifier = before ++ middle ++ after := by
  constructor
  · intro h
    by_cases hstar : .char '*' ∈ pattern
    · obtain ⟨before, after, rfl, hbefore⟩ := List.eq_append_cons_of_mem hstar
      obtain ⟨middle, hmiddle⟩ := (matchesAlias_of_star hbefore specifier).1 h
      exact .inr ⟨before, middle, after, hbefore, rfl, hmiddle⟩
    · exact .inl ⟨hstar, (matchesAlias_of_notMem hstar specifier).1 h⟩
  · rintro (⟨hstar, heq⟩ | ⟨before, middle, after, hbefore, rfl, hmiddle⟩)
    · exact (matchesAlias_of_notMem hstar specifier).2 heq
    · exact (matchesAlias_of_star hbefore specifier).2 ⟨middle, hmiddle⟩

example : matchesAlias "ab*ba" "aba" = false := by decide

namespace Project

/-- **The specifiers that a table covers**: its patterns without a star, and those with any text in
the place of their first star. -/
theorem isAlias_iff (p : Project) (specifier : Text) :
    p.isAlias specifier = true ↔
      (∃ e ∈ p.paths, .char '*' ∉ e.1 ∧ e.1 = specifier.widen) ∨
        ∃ e ∈ p.paths, ∃ before middle after, .char '*' ∉ before ∧
          e.1 = before ++ .char '*' :: after ∧ specifier.widen = before ++ middle ++ after := by
  rw [isAlias, List.any_eq_true]
  constructor
  · rintro ⟨e, he, hmatch⟩
    exact (matchesAlias_iff.1 hmatch).imp (fun h => ⟨e, he, h⟩) fun h => ⟨e, he, h⟩
  · rintro (⟨e, he, h⟩ | ⟨e, he, h⟩)
    · exact ⟨e, he, matchesAlias_iff.2 (.inl h)⟩
    · exact ⟨e, he, matchesAlias_iff.2 (.inr h)⟩

end Project

end ImportOrder
