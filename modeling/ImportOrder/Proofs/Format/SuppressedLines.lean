import ImportOrder.Proofs.Format.Protection

/-!
# The lines that comments leave alone

The ranges of suppressed lines are found by a scan over the comments that remembers where a disabled
stretch began. What they cover can be said without the scan: a line is left alone if a comment
switches the whole file off, or if some comment protects the line. The invariant of the scan is that
an open stretch reaches up to the first comment that enables the rule again, whatever stands before
that comment.

## Main definitions

* `Suppressions.stretchEnd`: the last line of a stretch that is open
* `Suppressions.startedBy`: the ranges that start with a comment

## Main results

* `Suppressions.mem_rangesFrom`: every range starts with a comment or with the open stretch
* `Suppressions.first_le_last_of_mem_startedBy`: no range is empty
* `Suppressions.covers_find_iff`: which lines are left alone
-/

namespace ImportOrder

namespace Suppressions

variable {source : Text} {since : Option Int} {c k : Comment} {cs later : List Comment}
  {r : LineRange}

/-- The last line of a stretch that is open before some comments. -/
def stretchEnd (source : Text) (cs : List Comment) : Int :=
  ((cs.find? (action? · = some .enable)).map fun e => (source.lineAt e.stop : Int)).getD lastLine

theorem stretchEnd_cons_of_enable (h : action? c = some .enable) :
    stretchEnd source (c :: cs) = source.lineAt c.stop := by
  rw [stretchEnd, List.find?_cons_of_pos (by simpa using h)]
  rfl

theorem stretchEnd_cons_of_ne (h : action? c ≠ some .enable) :
    stretchEnd source (c :: cs) = stretchEnd source cs := by
  rw [stretchEnd, List.find?_cons_of_neg (by simpa using h), stretchEnd]

theorem action?_of_no_switch (h : c.text.hasFileSwitch = false) : action? c = c.sortAction? := by
  rw [action?, h]
  rfl

/-- A stretch does not go beyond the comment that enables the rule again. -/
theorem le_of_le_stretchEnd {line : Int} (hno : ∀ c ∈ cs, c.text.hasFileSwitch = false)
    (h : line ≤ stretchEnd source cs) :
    ∀ e ∈ cs.find? (·.sortAction? = some .enable), line ≤ source.lineAt e.stop := by
  intro e he
  induction cs with
  | nil => cases he
  | cons c cs ih =>
    have haction := action?_of_no_switch (hno c List.mem_cons_self)
    by_cases henable : c.sortAction? = some .enable
    · rw [List.find?_cons_of_pos (by simpa using henable)] at he
      obtain rfl := Option.some.inj he
      rwa [stretchEnd_cons_of_enable (haction.trans henable)] at h
    · rw [List.find?_cons_of_neg (by simpa using henable)] at he
      rw [stretchEnd_cons_of_ne (haction ▸ henable)] at h
      exact ih (fun c' hc' => hno c' (List.mem_cons_of_mem c hc')) h he

/-- The ranges that start with a comment, where `later` are the comments behind it. -/
def startedBy (source : Text) (later : List Comment) (k : Comment) : List LineRange :=
  match action? k with
  | some .disableLine => [⟨source.lineAt k.start, source.lineAt k.start⟩]
  | some .disableNextLine => [⟨source.lineAt k.stop + 1, source.lineAt k.stop + 1⟩]
  | some .disable => [⟨source.lineAt k.start, stretchEnd source later⟩]
  | some .enable | none => []

/-- What a range that ends with a comment starts with: the comment, or the open stretch. -/
theorem mem_closed (h : r ∈ closed source since c) :
    (∃ line ∈ since, r = ⟨line, stretchEnd source (c :: cs)⟩) ∨ r ∈ startedBy source cs c := by
  rw [closed] at h
  rw [startedBy]
  split at h
  · rename_i haction
    rw [haction]
    exact .inr h
  · rename_i haction
    rw [haction]
    exact .inr h
  · rename_i haction
    obtain ⟨line, hline, rfl⟩ := List.mem_map.1 h
    exact .inl ⟨line, Option.mem_toList.1 hline, by rw [stretchEnd_cons_of_enable haction]⟩
  · cases h

/-- A stretch that is open behind a comment was open before it, or starts with it. -/
theorem mem_opened {line : Int} (h : line ∈ opened source since c) :
    (line ∈ since ∧ stretchEnd source (c :: cs) = stretchEnd source cs) ∨
      ⟨line, stretchEnd source cs⟩ ∈ startedBy source cs c := by
  rw [opened] at h
  split at h
  · rename_i haction
    rcases Option.or_eq_some_iff.1 h with hsince | ⟨-, hfirst⟩
    · exact .inl ⟨hsince, stretchEnd_cons_of_ne (by simp [haction])⟩
    · obtain rfl := Option.some.inj hfirst
      exact .inr (by simp [startedBy, haction])
  · cases h
  · rename_i _ henable
    exact .inl ⟨h, stretchEnd_cons_of_ne henable⟩

/-- **Every range starts with a comment**, or is the stretch that was open before all of them. -/
theorem mem_rangesFrom (h : r ∈ rangesFrom source since cs) :
    (∃ line ∈ since, r = ⟨line, stretchEnd source cs⟩) ∨
      ∃ before k later, cs = before ++ k :: later ∧ r ∈ startedBy source later k := by
  induction cs generalizing since with
  | nil =>
    cases since with
    | none => cases h
    | some line => exact .inl ⟨line, rfl, List.mem_singleton.1 h⟩
  | cons c cs ih =>
    have hhere : r ∈ startedBy source cs c →
        ∃ before k later, c :: cs = before ++ k :: later ∧ r ∈ startedBy source later k :=
      fun hr => ⟨[], c, cs, rfl, hr⟩
    rw [rangesFrom_cons] at h
    rcases List.mem_append.1 h with h | h
    · exact (mem_closed h).imp_right hhere
    · rcases ih h with ⟨line, hline, rfl⟩ | ⟨before, k, later, rfl, hr⟩
      · rcases mem_opened hline with ⟨hsince, hend⟩ | hr
        · exact .inl ⟨line, hsince, by rw [hend]⟩
        · exact .inr (hhere hr)
      · exact .inr ⟨c :: before, k, later, rfl, hr⟩

/-- A comment protects the lines of the ranges that start with it. -/
theorem protects_of_mem_startedBy {line : Nat}
    (hno : ∀ c ∈ k :: later, c.text.hasFileSwitch = false) (h : r ∈ startedBy source later k)
    (hfirst : r.first ≤ line) (hlast : line ≤ r.last) : k.Protects source.lineAt later line := by
  rw [startedBy, action?_of_no_switch (hno k List.mem_cons_self)] at h
  unfold Comment.Protects
  cases hk : k.sortAction? with
  | none =>
    rw [hk] at h
    cases h
  | some action =>
    rw [hk] at h
    cases action with
    | disableLine | disableNextLine =>
      obtain rfl := List.mem_singleton.1 h
      simp only at hfirst hlast ⊢
      omega
    | disable =>
      obtain rfl := List.mem_singleton.1 h
      refine ⟨Int.ofNat_le.1 hfirst, fun e he => Int.ofNat_le.1 ?_⟩
      exact le_of_le_stretchEnd (fun c hc => hno c (List.mem_cons_of_mem k hc)) hlast e he
    | enable => cases h

/-- **No range is empty**: a stretch ends with a comment behind the one it starts with. -/
theorem first_le_last_of_mem_startedBy
    (hlines : source.lineAt k.start ≤ lastLine ∨ r.first ≤ lastLine)
    (horder : ∀ c ∈ later, k.start ≤ c.start) (h : r ∈ startedBy source later k) :
    r.first ≤ r.last := by
  rw [startedBy] at h
  split at h
  · obtain rfl := List.mem_singleton.1 h
    exact Int.le_refl _
  · obtain rfl := List.mem_singleton.1 h
    exact Int.le_refl _
  · obtain rfl := List.mem_singleton.1 h
    show (source.lineAt k.start : Int) ≤ stretchEnd source later
    unfold stretchEnd
    cases hfind : later.find? (action? · = some .enable) with
    | none => exact hlines.elim id id
    | some e =>
      have hstart := horder e (List.mem_of_find?_eq_some hfind)
      exact Int.ofNat_le.2 (Text.lineAt_mono (Nat.le_trans hstart e.start_le_stop))
  · cases h
  · cases h

/-! ## Covered lines -/

theorem covers_eq_true_iff {s : Suppressions} {first last : Int} :
    s.covers first last = true ↔
      s.disabled = true ∨ ∃ r ∈ s.ranges, r.first ≤ last ∧ first ≤ r.last := by
  simp only [covers, Bool.or_eq_true, List.any_eq_true, Bool.and_eq_true, decide_eq_true_iff]

/-- Lines are left alone if one of them is, unless an empty range starts before their end. -/
theorem covers_iff_exists_line {s : Suppressions} {first last : Int}
    (hne : ∀ r ∈ s.ranges, r.first ≤ last → r.first ≤ r.last) (h : first ≤ last) :
    s.covers first last = true ↔ s.disabled = true ∨
      ∃ line, first ≤ line ∧ line ≤ last ∧ s.covers line line = true := by
  rw [covers_eq_true_iff]
  constructor
  · rintro (hdisabled | ⟨r, hr, hfirst, hlast⟩)
    · exact .inl hdisabled
    · have hr' := hne r hr hfirst
      refine .inr ⟨max r.first first, by omega, by omega, covers_eq_true_iff.2 (.inr ?_)⟩
      exact ⟨r, hr, by omega, by omega⟩
  · rintro (hdisabled | ⟨line, hfirst, hlast, hline⟩)
    · exact .inl hdisabled
    · rcases covers_eq_true_iff.1 hline with hdisabled | ⟨r, hr, hbelow, habove⟩
      · exact .inl hdisabled
      · exact .inr ⟨r, hr, by omega, by omega⟩

theorem lineAt_le_lastLine (hlength : source.length < lengthLimit) (i : Nat) :
    (source.lineAt i : Int) ≤ lastLine := by
  have hcount : (source.take i).count '\n' ≤ source.length :=
    Nat.le_trans List.count_le_length (List.length_take_le' _ _)
  have hlimit : (lengthLimit : Int) = lastLine := rfl
  rw [Text.lineAt]
  omega

/-- No range that is found is empty. The last line is the end of a stretch that is never closed, so
one that starts behind it would be. -/
theorem first_le_last_of_mem_find {comments : List Comment} {last : Int}
    (horder : comments.Pairwise fun a b => a.start ≤ b.start)
    (hsize : last ≤ lastLine ∨ source.length < lengthLimit) :
    ∀ r ∈ (find source comments).ranges, r.first ≤ last → r.first ≤ r.last := by
  intro r hr hfirst
  rcases mem_rangesFrom hr with ⟨line, hline, -⟩ | ⟨before, k, later, rfl, hstarted⟩
  · cases hline
  · have hlines : (source.lineAt k.start : Int) ≤ lastLine ∨ r.first ≤ lastLine := by
      rcases hsize with hlast | hlength
      · exact .inr (Int.le_trans hfirst hlast)
      · exact .inl (lineAt_le_lastLine hlength k.start)
    rw [List.pairwise_append, List.pairwise_cons] at horder
    exact first_le_last_of_mem_startedBy hlines horder.2.1.1 hstarted

/-- **Which lines are left alone**: all of them if a comment switches the whole file off, and else
those that some comment protects. Several lines are left alone if one of them is; only lines behind
the last one need a source of a length that can be held. -/
theorem covers_find_iff {comments : List Comment}
    (horder : comments.Pairwise fun a b => a.start ≤ b.start) :
    (∀ line : Nat, (line : Int) ≤ lastLine →
      ((find source comments).covers line line = true ↔
        (∃ c ∈ comments, c.text.hasFileSwitch = true) ∨
          ∃ before k later, comments = before ++ k :: later ∧ k.text.hasFileSwitch = false ∧
            k.Protects source.lineAt later line)) ∧
    (∀ first last : Int, first ≤ last → last ≤ lastLine ∨ source.length < lengthLimit →
      ((find source comments).covers first last = true ↔
        (find source comments).disabled = true ∨
          ∃ line, first ≤ line ∧ line ≤ last ∧
            (find source comments).covers line line = true)) := by
  refine ⟨fun line hline => ?_, fun first last h hsize =>
    covers_iff_exists_line (first_le_last_of_mem_find horder hsize) h⟩
  have hdisabled : (find source comments).disabled = true ↔
      ∃ c ∈ comments, c.text.hasFileSwitch = true := List.any_eq_true
  constructor
  · intro hcovers
    by_cases hswitch : ∃ c ∈ comments, c.text.hasFileSwitch = true
    · exact .inl hswitch
    · have hno : ∀ c ∈ comments, c.text.hasFileSwitch = false := by
        intro c hc
        rw [← Bool.not_eq_true]
        exact fun h => hswitch ⟨c, hc, h⟩
      obtain ⟨r, hr, hfirst, hlast⟩ :=
        (covers_eq_true_iff.1 hcovers).resolve_left fun h => hswitch (hdisabled.1 h)
      rcases mem_rangesFrom hr with ⟨_, hsince, -⟩ | ⟨before, k, later, rfl, hstarted⟩
      · cases hsince
      · refine .inr ⟨before, k, later, rfl, hno k (by simp), ?_⟩
        exact protects_of_mem_startedBy (fun c hc => hno c (List.mem_append_right _ hc)) hstarted
          hfirst hlast
  · rintro (hswitch | ⟨before, k, later, rfl, -, hprotects⟩)
    · exact covers_eq_true_iff.2 (.inl (hdisabled.2 hswitch))
    · rw [List.pairwise_append] at horder
      exact covers_find_of_protects (fun b hb => horder.2.2 b hb k List.mem_cons_self) hline
        hprotects (Int.le_refl _) (Int.le_refl _)

/-- A stretch that is disabled twice and enabled once, and a comment about the next line. -/
def stretchSource : Text :=
  ["/* eslint-disable sort-imports */", "/* eslint-disable import/order */", "import b from 'b';",
    "/* eslint-enable sort-imports */", "// eslint-disable-next-line import/order",
    "import a from 'a';"].flatMap (·.toList ++ ['\n'])

/-- The comments of the source. -/
def stretchComments : List Comment :=
  [⟨"/* eslint-disable sort-imports */".toList, 0⟩,
   ⟨"/* eslint-disable import/order */".toList, 34⟩,
    ⟨"/* eslint-enable sort-imports */".toList, 87⟩,
    ⟨"// eslint-disable-next-line import/order".toList, 120⟩]

/-- The stretch goes from the first comment that disables a rule up to the one that enables it. -/
theorem covers_find_stretchSource :
    stretchSource.comments = stretchComments ∧
      (stretchComments.Pairwise fun a b => a.start ≤ b.start) ∧
      (find stretchSource stretchComments).ranges = [⟨1, 4⟩, ⟨6, 6⟩] ∧
      (∃ before k later, stretchComments = before ++ k :: later ∧
        k.text.hasFileSwitch = false ∧ k.Protects stretchSource.lineAt later 3) ∧
      ((find stretchSource stretchComments).covers 4 5 = true ↔
        (find stretchSource stretchComments).disabled = true ∨
          ∃ line, 4 ≤ line ∧ line ≤ 5 ∧
            (find stretchSource stretchComments).covers line line = true) := by
  have horder : stretchComments.Pairwise fun a b => a.start ≤ b.start := by decide
  have hno : ¬∃ c ∈ stretchComments, c.text.hasFileSwitch = true := by decide +kernel
  have hranges : (find stretchSource stretchComments).ranges = [⟨1, 4⟩, ⟨6, 6⟩] := by
    decide +kernel
  have hcovers : (find stretchSource stretchComments).covers 3 3 = true := by
    rw [covers_eq_true_iff, hranges]
    exact .inr ⟨⟨1, 4⟩, by simp, by decide, by decide⟩
  obtain ⟨hlines, hall⟩ := @covers_find_iff stretchSource _ horder
  refine ⟨by decide +kernel, horder, hranges, ?_, hall 4 5 (by decide) (.inl (by decide))⟩
  exact ((hlines 3 (by decide)).1 hcovers).resolve_left hno

end Suppressions

end ImportOrder
