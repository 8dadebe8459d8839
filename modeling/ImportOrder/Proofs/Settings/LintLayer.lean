import ImportOrder.Lint.Override
import ImportOrder.Platform.Usual
import ImportOrder.Proofs.Settings.GroupRules
import ImportOrder.Settings.Reader

/-!
# Settings from lint rules, written as file data

Lint rules are turned into a layer of settings without the reader of settings files, which checks
every value. The layer is compared here with what the reader makes of file data that writes the same
settings: the two agree, unless the rule for line lengths asks for a length below zero. The other
settings from lint rules are always ones that a file can have.

## Main definitions

* `Layer.fileEntries`: the settings that lint rules can ask for, as entries of a settings file
* `Layer.IsWritable`: a settings file can give the layer's styles and its indentation
* `LintRules.AsksForLength`: the rule for line lengths gives a number

## Main results

* `Layer.read_fileEntries`: such a layer is read back, if its line length is not below zero
* `Layer.read_fileEntries_of_neg`: a line length below zero is rejected
* `LintRules.read_fileEntries_overrides`: when the layer from lint rules can be read from a file
-/

namespace ImportOrder

/-! ## Values that are read back -/

namespace Data

theorem str?_ofString (s : String) : str? (.str (.ofString s)) = some s :=
  WideText.string?_eq_some_iff.2 rfl

theorem int?_eq_some_iff {d : Data} {n : Int} : d.int? = some n ↔ d = .int n := by
  constructor
  · intro h
    unfold int? at h
    split at h
    · rw [Option.some.inj h]
    · cases h
  · rintro rfl
    rfl

end Data

namespace SettingsValue

theorem choice_ofString [Platform] {options : List String} {s : String} (key : String)
    (h : s ∈ options) : choice options key (.str (.ofString s)) = .ok s := by
  rw [choice, Data.str?_ofString, Option.filter_some, if_pos (List.contains_iff_mem.2 h)]

theorem integer_of_le [Platform] {least : Nat} {n : Int} (key : String) (h : (least : Int) ≤ n) :
    integer least key (.int n) = .ok n := by
  have hint : (Data.int n).int? = some n := rfl
  rw [integer, hint, Option.filter_some, if_pos (decide_eq_true h)]

theorem integer_of_lt [Platform] {least : Nat} {n : Int} (key : String) (h : n < least) :
    integer least key (.int n) = wrong key s!"an integer >= {least}" (.int n) := by
  have hint : (Data.int n).int? = some n := rfl
  rw [integer, hint, Option.filter_some, if_neg (by simpa using h)]

theorem eolStyle_ofString [Platform] {e : String} (key : String)
    (h : e ∈ ["LF", "CRLF", "auto"]) : eolStyle key (.str (.ofString e)) = .ok e := by
  rw [eolStyle, Data.str?_ofString]
  simp only [List.mem_cons, List.not_mem_nil, or_false] at h
  rcases h with rfl | rfl | rfl <;> rfl

end SettingsValue

/-! ## Entries of a settings file -/

namespace Layer

/-- The entry of a key, if it has a value. -/
def entry (key : String) (value : Option Data) : List (Scalar × Data) :=
  (value.map fun v => (.str (.ofString key), v)).toList

/-- **The settings that lint rules can ask for**, by the keys of settings files. -/
def fileEntries (l : Layer) : List (Scalar × Data) :=
  entry "quoteMark" (l.quoteMark.map fun q => .str (.ofString q)) ++
  (entry "semicolon" (l.semicolon.map fun q => .str (.ofString q)) ++
  (entry "trailingComma" (l.trailingComma.map fun c => .str (.ofString c)) ++
  (entry "bracketSpacing" (l.bracketSpacing.map Data.bool) ++
  (entry "tabSize" (l.tabSize.map Data.int) ++
  (entry "eol" (l.eol.map fun e => .str (.ofString e)) ++
  (entry "caseSensitive" (l.caseSensitive.map Data.bool) ++
  entry "maxLineLength" (l.maxLineLength.map Data.int)))))))

/-- The settings that lint rules can ask for, without any others. -/
def lintPart (l : Layer) : Layer where
  quoteMark := l.quoteMark
  semicolon := l.semicolon
  trailingComma := l.trailingComma
  bracketSpacing := l.bracketSpacing
  tabSize := l.tabSize
  eol := l.eol
  caseSensitive := l.caseSensitive
  maxLineLength := l.maxLineLength

/-- **A layer whose styles and indentation a settings file can give.** -/
structure IsWritable (l : Layer) : Prop where
  quoteMark : ∀ q ∈ l.quoteMark, q ∈ ["single", "double", "preserve"]
  semicolon : ∀ q ∈ l.semicolon, q ∈ ["always", "never", "preserve"]
  trailingComma : ∀ c ∈ l.trailingComma, c ∈ ["none", "multiline"]
  tabSize : ∀ n ∈ l.tabSize, 1 ≤ n
  eol : ∀ e ∈ l.eol, e ∈ ["LF", "CRLF", "auto"]

variable {strict : Bool} {l l' : Layer} {key : String} {entries : List (Scalar × Data)}

theorem result_readEntries_cons [Platform] {value : Data} {x : Except SettingsError Layer}
    (hset : l.setKey? strict key value = some x) (hnull : value ≠ .null) :
    (l.readEntries strict ((.str (.ofString key), value) :: entries)).result =
      x.bind fun next => (next.readEntries strict entries).result := by
  have hname : (Data.scalar (.str (.ofString key))).str? = some key := Data.str?_ofString key
  rw [readEntries, hname, Option.bind_some, hset]
  split
  · cases ‹some x = none›
  · rename_i result heq
    obtain rfl := Option.some.inj heq
    split
    · exact absurd rfl hnull
    · rw [Journaled.result_bind, Journaled.result_ofExcept]

/-- An optional entry sets its setting if its value is read back, and nothing if it is not there. -/
theorem result_readEntries_entry [Platform] {α : Type} {f : α → Data} {x : Option α}
    (set : Layer → Option α → Layer) (convert : Data → Except SettingsError α)
    (hset : ∀ v, l.setKey? strict key v = some (convert v >>= fun a => pure (set l (some a))))
    (hnone : set l none = l) (hnull : ∀ a, f a ≠ .null) (hread : ∀ a ∈ x, convert (f a) = .ok a) :
    (l.readEntries strict (entry key (x.map f) ++ entries)).result =
      ((set l x).readEntries strict entries).result := by
  cases x with
  | none =>
    rw [hnone]
    rfl
  | some a =>
    have haccepted : l.setKey? strict key (f a) = some (.ok (set l (some a))) := by
      rw [hset, hread a rfl]
      rfl
    exact result_readEntries_cons haccepted (hnull a)

open SettingsValue in
/-- All entries but the line length are accepted. -/
theorem result_read_fileEntries [Platform] (strict : Bool) (h : l.IsWritable) :
    (read strict (.map l.fileEntries)).result =
      (readEntries strict { l.lintPart with maxLineLength := none }
        (entry "maxLineLength" (l.maxLineLength.map Data.int))).result := by
  rw [read, fileEntries,
    result_readEntries_entry (fun l x => { l with quoteMark := x }) (choice _ "quoteMark")
      (fun _ => rfl) rfl (by simp) (fun q hq => choice_ofString _ (h.quoteMark q hq)),
    result_readEntries_entry (fun l x => { l with semicolon := x }) (choice _ "semicolon")
      (fun _ => rfl) rfl (by simp) (fun q hq => choice_ofString _ (h.semicolon q hq)),
    result_readEntries_entry (fun l x => { l with trailingComma := x }) (choice _ "trailingComma")
      (fun _ => rfl) rfl (by simp) (fun c hc => choice_ofString _ (h.trailingComma c hc)),
    result_readEntries_entry (fun l x => { l with bracketSpacing := x })
      (boolean "bracketSpacing") (fun _ => rfl) rfl (by simp) (fun _ _ => rfl),
    result_readEntries_entry (fun l x => { l with tabSize := x })
      (integer 1 "tabSize") (fun _ => rfl) rfl (by simp)
      (fun n hn => integer_of_le _ (h.tabSize n hn)),
    result_readEntries_entry (fun l x => { l with eol := x })
      (eolStyle "eol") (fun _ => rfl) rfl (by simp) (fun e he => eolStyle_ofString _ (h.eol e he)),
    result_readEntries_entry (fun l x => { l with caseSensitive := x })
      (boolean "caseSensitive") (fun _ => rfl) rfl (by simp) (fun _ _ => rfl)]
  rfl

theorem setKey?_maxLineLength [Platform] (v : Data) :
    l.setKey? strict "maxLineLength" v =
      some (SettingsValue.integer 0 "maxLineLength" v >>= fun n =>
        pure { l with maxLineLength := some n }) := rfl

theorem setKey?_maxLineLength_of_nonneg [Platform] {n : Int} (hn : 0 ≤ n) :
    l.setKey? strict "maxLineLength" (.int n) = some (.ok { l with maxLineLength := some n }) := by
  rw [setKey?_maxLineLength, SettingsValue.integer_of_le _ hn]
  rfl

theorem setKey?_maxLineLength_of_neg [Platform] {n : Int} (hn : n < 0) :
    l.setKey? strict "maxLineLength" (.int n) =
      some (SettingsValue.wrong "maxLineLength" "an integer >= 0" (.int n)) := by
  rw [setKey?_maxLineLength, SettingsValue.integer_of_lt _ hn]
  rfl

/-- **A layer that lint rules can ask for** is read back if its numbers are not too small. -/
theorem read_fileEntries [Platform] (strict : Bool) (h : l.IsWritable)
    (hlength : ∀ n ∈ l.maxLineLength, 0 ≤ n) :
    (read strict (.map l.fileEntries)).result = .ok l.lintPart := by
  rw [result_read_fileEntries strict h, lintPart]
  cases hn : l.maxLineLength with
  | none => rfl
  | some n =>
    exact result_readEntries_cons (setKey?_maxLineLength_of_nonneg (hlength n hn)) (by simp)

/-- **A line length below zero** is rejected, whatever else the layer sets. -/
theorem read_fileEntries_of_neg [Platform] (strict : Bool) (h : l.IsWritable) {n : Int}
    (hlength : l.maxLineLength = some n) (hn : n < 0) :
    (read strict (.map l.fileEntries)).result =
      .error (SettingsError.badValue "maxLineLength" "an integer >= 0" (.int n)).worded := by
  rw [result_read_fileEntries strict h, hlength]
  exact result_readEntries_cons (setKey?_maxLineLength_of_neg hn) (by simp)

end Layer

/-! ## Layers from lint rules -/

namespace LintRules

variable {rules : LintRules} {ignored : List WideText}

/-- **The rule for line lengths gives a number**: it is on, and its first option is the number or
has it as the length of code. -/
def AsksForLength (rules : LintRules) (ignored : List WideText) (n : Int) : Prop :=
  ∃ option more, rules.options? ignored "max-len" = some (option :: more) ∧
    (option = .int n ∨ option.field? "code" = some (.int n))

theorem maxLineLength?_cons_eq_some_iff {option : Data} {more : List Data} {n : Int} :
    maxLineLength? (option :: more) = some n ↔
      option = .int n ∨ option.field? "code" = some (.int n) := by
  cases option with
  | map entries =>
    refine (Option.bind_eq_some_iff.trans ?_)
    simp [Data.int?_eq_some_iff, Data.field?, Data.entries?]
  | _ => simp [maxLineLength?, Data.int?_eq_some_iff, Data.field?, Data.entries?]

/-- A rule without options stands for a length of 80. -/
theorem maxLineLength_overrides_of_neg {n : Int} (hn : n < 0) :
    (rules.overrides ignored).maxLineLength = some n ↔ rules.AsksForLength ignored n := by
  refine Option.bind_eq_some_iff.trans ?_
  constructor
  · rintro ⟨_ | ⟨option, more⟩, hoptions, hlength⟩
    · obtain rfl := Option.some.inj hlength
      omega
    · exact ⟨option, more, hoptions, maxLineLength?_cons_eq_some_iff.1 hlength⟩
  · rintro ⟨option, more, hoptions, hlength⟩
    exact ⟨option :: more, hoptions, maxLineLength?_cons_eq_some_iff.2 hlength⟩

theorem nonneg_of_not_asksForLength (h : ¬∃ n < 0, rules.AsksForLength ignored n) :
    ∀ n ∈ (rules.overrides ignored).maxLineLength, 0 ≤ n := by
  intro n hlength
  by_contra hn
  exact h ⟨n, by omega, (maxLineLength_overrides_of_neg (by omega)).1 hlength⟩

/-- Lint rules ask for styles that settings files can give. -/
theorem isWritable_overrides (rules : LintRules) (ignored : List WideText) :
    (rules.overrides ignored).IsWritable where
  quoteMark q hq := by
    obtain ⟨options, -, hq⟩ := Option.bind_eq_some_iff.1 hq
    unfold quoteMark? at hq
    split at hq
    · simp [← Option.some.inj hq]
    · split at hq
      · simp [← Option.some.inj hq]
      · cases hq
  semicolon q hq := by
    obtain ⟨options, -, rfl⟩ := Option.map_eq_some_iff.1 hq
    unfold semicolon
    split <;> simp
  trailingComma c hc := by
    obtain ⟨options, -, rfl⟩ := Option.map_eq_some_iff.1 hc
    unfold trailingComma
    dsimp only
    split <;> simp
  tabSize n hn := by
    obtain ⟨options, -, hn⟩ := Option.bind_eq_some_iff.1 hn
    exact of_decide_eq_true (Option.filter_eq_some_iff.1 hn).2
  eol e he := by
    obtain ⟨options, -, rfl⟩ := Option.map_eq_some_iff.1 he
    unfold eol
    split <;> simp

/-- **Settings from lint rules are settings that a file can have**, except for the line length: the
reader of settings files gives the same layer unless the rule for line lengths asks for a length
below zero, and that is the one reason to reject it. -/
theorem read_fileEntries_overrides [Platform] (strict : Bool) (rules : LintRules)
    (ignored : List WideText) :
    ((Layer.read strict (.map (rules.overrides ignored).fileEntries)).result =
        .ok (rules.overrides ignored) ↔ ¬∃ n < 0, rules.AsksForLength ignored n) ∧
      (∀ e, (Layer.read strict (.map (rules.overrides ignored).fileEntries)).result = .error e ↔
        ∃ n < 0, rules.AsksForLength ignored n ∧
          e = (SettingsError.badValue "maxLineLength" "an integer >= 0" (.int n)).worded) ∧
      (Layer.read strict
          (.map { rules.overrides ignored with maxLineLength := none }.fileEntries)).result =
        .ok { rules.overrides ignored with maxLineLength := none } := by
  have h : (rules.overrides ignored).IsWritable := isWritable_overrides rules ignored
  -- Lint rules set nothing beside the settings that are written, so the whole layer comes back.
  have haccepted (hnone : ¬∃ n < 0, rules.AsksForLength ignored n) :
      (Layer.read strict (.map (rules.overrides ignored).fileEntries)).result =
        .ok (rules.overrides ignored) :=
    Layer.read_fileEntries strict h (nonneg_of_not_asksForLength hnone)
  have hrejected {n : Int} (hn : n < 0) (hasks : rules.AsksForLength ignored n) :
      (Layer.read strict (.map (rules.overrides ignored).fileEntries)).result =
        .error (SettingsError.badValue "maxLineLength" "an integer >= 0" (.int n)).worded :=
    Layer.read_fileEntries_of_neg strict h ((maxLineLength_overrides_of_neg hn).2 hasks) hn
  have hcleared : ({ rules.overrides ignored with maxLineLength := none } : Layer).IsWritable :=
    ⟨h.quoteMark, h.semicolon, h.trailingComma, h.tabSize, h.eol⟩
  refine ⟨⟨?_, haccepted⟩, fun e => ⟨?_, ?_⟩, Layer.read_fileEntries strict hcleared (by simp)⟩
  · rintro hread ⟨n, hn, hasks⟩
    rw [hrejected hn hasks] at hread
    cases hread
  · intro hread
    by_cases hasks : ∃ n < 0, rules.AsksForLength ignored n
    · obtain ⟨n, hn, hasks⟩ := hasks
      rw [hrejected hn hasks] at hread
      exact ⟨n, hn, hasks, (Except.error.inj hread).symm⟩
    · rw [haccepted hasks] at hread
      cases hread
  · rintro ⟨n, hn, hasks, he⟩
    rw [he]
    exact hrejected hn hasks

/-- A line length below zero beside an indentation, which may not be below one. -/
def negativeNumbers : LintRules :=
  [(.str (.ofString "max-len"), .list [.int 2, .int (-5)]),
    (.str (.ofString "indent"), .list [.int 2, .int (-4)])]

section Usual

attribute [local instance] Platform.usual

/-- The negative indentation is passed over, and the negative line length is not. -/
theorem read_fileEntries_negativeNumbers :
    negativeNumbers.overrides [] = { maxLineLength := some (-5) } ∧
      (Layer.read false (.map (negativeNumbers.overrides []).fileEntries)).result =
        .error (SettingsError.badValue "maxLineLength" "an integer >= 0" (.int (-5))).worded := by
  have hasks : negativeNumbers.AsksForLength [] (-5) := ⟨.int (-5), [], rfl, .inl rfl⟩
  exact ⟨rfl, ((read_fileEntries_overrides false negativeNumbers []).2.1 _).2
    ⟨-5, by decide, hasks, rfl⟩⟩

end Usual

end LintRules

end ImportOrder
