import ImportOrder.Format
import ImportOrder.Proofs.Results

/-!
# Passes over a source

What a pass over a source did when it returned: what it read, arranged and wrote. A pass is only
accepted if another one changes nothing.

## Main results

* `FormatContext.formatOnce_eq_some`: what one pass does
* `FormatContext.format_eq_some`: when a new text is accepted
* `FormatContext.format_of_format`: formatting is stable
-/

namespace ImportOrder

theorem Head.source_of_parse {source : Text} {d : Dialect} {head : Head}
    (h : Head.parse source d = .ok head) : head.source = source := by
  simp only [Head.parse] at h
  obtain ⟨out, -, hret⟩ := Parser.ok_of_bind h
  obtain rfl := Except.ok.inj hret
  rfl

/-- Without imports there is no region. -/
theorem Head.region_eq_none {head : Head} {gap : Nat} (h : head.imports = []) :
    head.region gap = none := by
  rw [region, attached, h]
  rfl

namespace FormatContext

variable {c : FormatContext} {source text : Text}

/-- What formatting a head gives. -/
theorem result_formatHead [Platform] (c : FormatContext) (head : Head) :
    (c.formatHead head).result = match head.region c.settings.gap with
      | none => .ok none
      | some region => if c.isSuppressed head region then .ok none
        else (c.regionText head).result.map fun t => some (head.source.splice region t) := by
  unfold formatHead
  cases head.region c.settings.gap with
  | none => rfl
  | some region =>
    dsimp only
    split
    · rfl
    · rw [Journaled.result_bind]
      cases (c.regionText head).result <;> rfl

/-- One pass over a source that can be read. -/
theorem formatOnce_of_parse [Platform] {d : Dialect} {head : Head}
    (heol : c.settings.knowsEol = true)
    (hdialect : Dialect.ofPath? (Path.ofString c.file) = some d)
    (hparse : Head.parse source d = .ok head) :
    c.formatOnce source = c.orLeaveAlone (c.formatHead head) := by
  have hread : parseHead source d = .ok head := by
    rw [parseHead, hparse]
    rfl
  unfold formatOnce
  rw [hdialect]
  dsimp only
  rw [if_pos heol, hread, Journaled.ofExcept_ok_bind]

/-- A source that is not left alone was handled. -/
theorem result_of_orLeaveAlone {x : Journaled Failure (Option Text)}
    (h : (c.orLeaveAlone x).result = .ok (some text)) : x.result = .ok (some text) := by
  unfold orLeaveAlone at h
  split at h
  · cases h
  · exact h

theorem formatHead_eq_some [Platform] {head : Head}
    (h : (c.formatHead head).result = .ok (some text)) :
    ∃ region groups rendered, head.region c.settings.gap = some region ∧
      c.isSuppressed head region = false ∧
      (arrange c.settings c.project (head.statements c.settings.gap)).result =
        .ok groups ∧
      renderRegion c.settings (c.eolFor head.source) groups = .ok rendered ∧
      text = head.source.splice region rendered := by
  unfold formatHead at h
  cases hregion : head.region c.settings.gap with
  | none =>
    simp only [hregion] at h
    obtain ⟨-, -, hret⟩ := Journaled.ok_of_bind h
    cases hret
  | some region =>
    simp only [hregion] at h
    split at h
    · obtain ⟨-, -, hret⟩ := Journaled.ok_of_bind h
      cases hret
    · rename_i hsuppressed
      obtain ⟨rendered, hrendered, hret⟩ := Journaled.ok_of_bind h
      obtain rfl := Option.some.inj (Except.ok.inj hret)
      obtain ⟨groups, hgroups, hrender⟩ := Journaled.ok_of_bind hrendered
      exact ⟨region, groups, rendered, rfl, by simpa using hsuppressed, hgroups, hrender, rfl⟩

/-- **One pass** that gives a new text: the region of the imports is replaced by what was arranged
and written. -/
theorem formatOnce_eq_some [Platform] (h : (c.formatOnce source).result = .ok (some text)) :
    ∃ d head region groups rendered, Dialect.ofPath? (Path.ofString c.file) = some d ∧
      Head.parse source d = .ok head ∧
      head.region c.settings.gap = some region ∧
      c.isSuppressed head region = false ∧
      (arrange c.settings c.project (head.statements c.settings.gap)).result =
        .ok groups ∧
      renderRegion c.settings (c.eolFor source) groups = .ok rendered ∧
      text = source.splice region rendered := by
  unfold formatOnce at h
  cases hd : Dialect.ofPath? (Path.ofString c.file) with
  | none =>
    simp only [hd] at h
    obtain ⟨-, -, hret⟩ := Journaled.ok_of_bind h
    cases hret
  | some d =>
    simp only [hd] at h
    split at h
    case isFalse => cases h
    obtain ⟨head, hhead, hformat⟩ := Journaled.ok_of_bind (result_of_orLeaveAlone h)
    have hparse : Head.parse source d = .ok head := mapError_eq_ok_iff.1 hhead
    obtain ⟨region, groups, rendered, hregion, hsuppressed, hgroups, hrender, htext⟩ :=
      formatHead_eq_some hformat
    rw [Head.source_of_parse hparse] at hrender htext
    exact ⟨d, head, region, groups, rendered, rfl, hparse, hregion, hsuppressed, hgroups, hrender,
      htext⟩

/-! ## Other names of the file -/

theorem result_formatOnce_of_none [Platform] (h : Dialect.ofPath? (Path.ofString c.file) = none)
    (source : Text) : (c.formatOnce source).result = .ok none := by
  unfold formatOnce
  rw [h]
  rfl

theorem result_orLeaveAlone_congr {c' : FormatContext} {x y : Journaled Failure (Option Text)}
    (h : x.result = y.result) : (c.orLeaveAlone x).result = (c'.orLeaveAlone y).result := by
  unfold orLeaveAlone
  rw [← h]
  split
  · rfl
  · exact h

/-- Of the name of a file, only the language counts for a pass. -/
theorem result_formatOnce_withFile [Platform] {file : String}
    (h : Dialect.ofPath? (Path.ofString file) = Dialect.ofPath? (Path.ofString c.file))
    (source : Text) :
    ({ c with file }.formatOnce source).result = (c.formatOnce source).result := by
  unfold formatOnce
  dsimp only
  rw [h]
  cases Dialect.ofPath? (Path.ofString c.file) with
  | none => rfl
  | some d =>
    dsimp only
    split
    · apply result_orLeaveAlone_congr
      rw [Journaled.result_bind, Journaled.result_bind]
      cases (Journaled.ofExcept (parseHead source d)).result with
      | error e => rfl
      | ok head =>
        show (formatHead _ head).result = (c.formatHead head).result
        rw [result_formatHead, result_formatHead]
        rfl
    · rfl

/-- What formatting gives: the text of one pass, if it is a new one and a second pass keeps it. -/
theorem result_format [Platform] (c : FormatContext) (source : Text) :
    (c.format source).result = (c.formatOnce source).result.bind fun
      | none => .ok none
      | some text =>
        if text = source then .ok none
        else (c.formatOnce text).result.map fun again =>
          if again.all (· = text) then some text else none := by
  rw [format, Journaled.result_bind]
  congr 1
  funext once
  cases once with
  | none => rfl
  | some text =>
    dsimp only
    split
    · rfl
    · rw [Journaled.result_bind]
      generalize (c.formatOnce text).result = r
      cases r with
      | error e => rfl
      | ok twice =>
        cases twice with
        | none => rfl
        | some again =>
          by_cases h : again = text
          · simp [Except.bind, Except.map, h]
          · simp [Except.bind, Except.map, h, Journaled.result_bind]

/-- Of the name of a file, only the language counts for formatting. -/
theorem result_format_withFile [Platform] {file : String}
    (h : Dialect.ofPath? (Path.ofString file) = Dialect.ofPath? (Path.ofString c.file))
    (source : Text) : ({ c with file }.format source).result = (c.format source).result := by
  simp only [result_format, result_formatOnce_withFile h]

theorem result_format_of_none [Platform] (h : Dialect.ofPath? (Path.ofString c.file) = none)
    (source : Text) : (c.format source).result = .ok none := by
  rw [result_format, result_formatOnce_of_none h]
  rfl

/-! ## Stability -/

/-- **A new text is accepted** if one pass gives it and another one does not change it. -/
theorem format_eq_some [Platform] (h : (c.format source).result = .ok (some text)) :
    (c.formatOnce source).result = .ok (some text) ∧ text ≠ source ∧
      ((c.formatOnce text).result = .ok none ∨ (c.formatOnce text).result = .ok (some text)) := by
  obtain ⟨once, honce, h⟩ := Journaled.ok_of_bind h
  cases once with
  | none => cases h
  | some first =>
    simp only at h
    split at h
    · cases h
    · rename_i hne
      obtain ⟨twice, htwice, h⟩ := Journaled.ok_of_bind h
      cases twice with
      | none =>
        obtain rfl := Option.some.inj (Except.ok.inj h)
        exact ⟨honce, hne, .inl htwice⟩
      | some again =>
        simp only at h
        split at h
        · rename_i hagain
          subst hagain
          obtain rfl := Option.some.inj (Except.ok.inj h)
          exact ⟨honce, hne, .inr htwice⟩
        · obtain ⟨-, -, hret⟩ := Journaled.ok_of_bind h
          cases hret

/-- **Formatting is stable**: what it gives is left alone. -/
theorem format_of_format [Platform] (h : (c.format source).result = .ok (some text)) :
    (c.format text).result = .ok none := by
  obtain ⟨-, -, hagain⟩ := format_eq_some h
  rw [format, Journaled.result_bind]
  rcases hagain with hagain | hagain
  · rw [hagain]
    rfl
  · rw [hagain]
    simp [Except.bind]

end FormatContext

end ImportOrder
