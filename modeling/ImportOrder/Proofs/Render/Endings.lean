import ImportOrder.Proofs.Render.Written
import ImportOrder.Proofs.Source.LineEndings

/-!
# The line endings in a text

A text is put together from parts, and whether it has one line ending only is seen from the parts if
none of them ends inside a line ending. Other quotes around a string change nothing about the line
endings inside.

## Main definitions

* `Text.lineEndings`: the line endings of a text
* `Text.UsesOnly`: a text without other line endings than a given one
* `Text.UsesOnlyIff`: what it takes for a text to be such a one

## Main results

* `Text.usesOnly_withEol`: replacing line endings leaves one of them
* `Text.UsesOnlyIff.append`, `Text.UsesOnlyIff.join`: texts put together
* `Text.usesOnlyIff_requote`: strings in other quotes
-/

namespace ImportOrder

namespace Text

/-! ## The line endings of a text -/

/-- **The line endings of a text**: pairs of a carriage return and a line feed, and either of the
two alone. -/
def lineEndings : Text → List Text
  | [] => []
  | '\r' :: '\n' :: t => ['\r', '\n'] :: lineEndings t
  | c :: t => if c = '\r' ∨ c = '\n' then [c] :: lineEndings t else lineEndings t

/-- **A text without other line endings** than `eol`. -/
def UsesOnly (eol : Eol) (t : Text) : Prop := ∀ e ∈ t.lineEndings, e = eol.text

instance (eol : Eol) (t : Text) : Decidable (t.UsesOnly eol) :=
  inferInstanceAs (Decidable (∀ e ∈ t.lineEndings, e = eol.text))

variable {eol : Eol}

theorem lineEndings_plain {c : Char} (hr : c ≠ '\r') (hn : c ≠ '\n') (t : Text) :
    lineEndings (c :: t) = lineEndings t := by
  rw [lineEndings]
  · simp [hr, hn]
  · intro u hc
    exact absurd hc hr

theorem lineEndings_break {c : Char} {t : Text} (hc : c = '\r' ∨ c = '\n')
    (h : c = '\r' → t.head? ≠ some '\n') : lineEndings (c :: t) = [c] :: lineEndings t := by
  rw [lineEndings]
  · simp [hc]
  · rintro u rfl rfl
    exact h rfl rfl

theorem lineEndings_of_plain {t : Text} (h : ∀ c ∈ t, c ≠ '\r' ∧ c ≠ '\n') :
    lineEndings t = [] := by
  induction t with
  | nil => rfl
  | cons c t ih =>
    obtain ⟨hr, hn⟩ := h c (by simp)
    rw [lineEndings_plain hr hn, ih fun d hd => h d (by simp [hd])]

/-- The line endings of a text are those of its parts if no part ends inside one. -/
theorem lineEndings_append {t u : Text} (h : t.getLast? = some '\r' → u.head? ≠ some '\n') :
    lineEndings (t ++ u) = lineEndings t ++ lineEndings u := by
  fun_induction lineEndings t with
  | case1 => rfl
  | case2 t ih =>
    have hrest := ih fun hlast => h (by simp [List.getLast?_cons, hlast])
    simp [lineEndings, hrest]
  | case3 c t hcr hc ih =>
    have hrest := ih fun hlast => h (by simp [List.getLast?_cons, hlast])
    rw [List.cons_append, lineEndings_break hc, hrest, List.cons_append]
    exact head?_append_ne_lf hcr h
  | case4 c t hcr hc ih =>
    obtain ⟨hr, hn⟩ := not_or.1 hc
    have hrest := ih fun hlast => h (by simp [List.getLast?_cons, hlast])
    rw [List.cons_append, lineEndings_plain hr hn, hrest]

theorem lineEndings_text_append (eol : Eol) (t : Text) :
    lineEndings (eol.text ++ t) = eol.text :: lineEndings t := by
  cases eol with
  | lf => exact lineEndings_break (.inr rfl) (by simp)
  | crlf => rfl

theorem lineEndings_withEol (eol : Eol) (t : Text) :
    lineEndings (t.withEol eol) = (lineEndings t).map fun _ => eol.text := by
  fun_induction Text.withEol eol t with
  | case1 => rfl
  | case2 t ih => rw [lineEndings_text_append, ih, lineEndings, List.map_cons]
  | case3 c t hcr hc ih =>
    have hbreak : lineEndings (c :: t) = [c] :: lineEndings t := by
      refine lineEndings_break hc ?_
      rintro rfl hhead
      obtain ⟨u, rfl⟩ := List.head?_eq_some_iff.1 hhead
      exact hcr u rfl rfl
    rw [lineEndings_text_append, ih, hbreak, List.map_cons]
  | case4 c t _ hc ih =>
    obtain ⟨hr, hn⟩ := not_or.1 hc
    rw [lineEndings_plain hr hn, lineEndings_plain hr hn, ih]

/-- **Replacing line endings** leaves one of them. -/
theorem usesOnly_withEol (eol : Eol) (t : Text) : (t.withEol eol).UsesOnly eol := by
  intro e he
  rw [lineEndings_withEol] at he
  obtain ⟨-, -, rfl⟩ := List.mem_map.1 he
  rfl

theorem getLast?_append_ne {t u : Text} {c : Char} (ht : t.getLast? ≠ some c)
    (hu : u.getLast? ≠ some c) : (t ++ u).getLast? ≠ some c := by
  rw [List.getLast?_append]
  cases h : u.getLast? with
  | none => simpa using ht
  | some d => simpa [h] using hu

theorem getLast?_text_ne (eol : Eol) : eol.text.getLast? ≠ some '\r' := by
  cases eol <;> decide

theorem getLast?_withEol_ne (eol : Eol) (t : Text) : (t.withEol eol).getLast? ≠ some '\r' := by
  fun_induction Text.withEol eol t with
  | case1 => simp
  | case2 t ih => exact getLast?_append_ne (getLast?_text_ne eol) ih
  | case3 c t _ hc ih => exact getLast?_append_ne (getLast?_text_ne eol) ih
  | case4 c t _ hc ih =>
    have hlast : [c].getLast? ≠ some '\r' := by simpa using (not_or.1 hc).1
    exact getLast?_append_ne hlast ih

/-! ## Texts put together -/

/-- **What it takes** for a text to have one line ending only. The text does not end inside a line
ending, so that what follows it can be looked at alone. -/
structure UsesOnlyIff (eol : Eol) (t : Text) (condition : Prop) : Prop where
  closed : t.getLast? ≠ some '\r'
  iff : t.UsesOnly eol ↔ condition

namespace UsesOnlyIff

variable {t u : Text} {p q : Prop}

theorem congr (h : UsesOnlyIff eol t p) (hpq : p ↔ q) : UsesOnlyIff eol t q :=
  ⟨h.closed, h.iff.trans hpq⟩

theorem of_plain (h : ∀ c ∈ t, c ≠ '\r' ∧ c ≠ '\n') : UsesOnlyIff eol t True := by
  constructor
  · intro hlast
    exact (h '\r' (List.mem_of_getLast? hlast)).1 rfl
  · simp [UsesOnly, lineEndings_of_plain h]

/-- A text without line endings, by a look at its characters. -/
theorem of_all (h : (t.all fun c => c != '\r' && c != '\n') = true) : UsesOnlyIff eol t True :=
  of_plain (plain_of_all h)

theorem ofEol (eol : Eol) : UsesOnlyIff eol eol.text True := by
  refine ⟨getLast?_text_ne eol, ?_⟩
  cases eol <;> decide

theorem withEol (eol : Eol) (t : Text) : UsesOnlyIff eol (t.withEol eol) True :=
  ⟨getLast?_withEol_ne eol t, iff_true_intro (usesOnly_withEol eol t)⟩

theorem append (ht : UsesOnlyIff eol t p) (hu : UsesOnlyIff eol u q) :
    UsesOnlyIff eol (t ++ u) (p ∧ q) := by
  refine ⟨getLast?_append_ne ht.closed hu.closed, ?_⟩
  rw [← ht.iff, ← hu.iff, UsesOnly, lineEndings_append fun h => absurd h ht.closed,
    List.forall_mem_append]
  rfl

/-- A text behind another one that has no other line endings anyway. -/
theorem append_left (ht : UsesOnlyIff eol t True) (hu : UsesOnlyIff eol u p) :
    UsesOnlyIff eol (t ++ u) p := (ht.append hu).congr (iff_of_eq (true_and p))

theorem append_right (ht : UsesOnlyIff eol t p) (hu : UsesOnlyIff eol u True) :
    UsesOnlyIff eol (t ++ u) p := (ht.append hu).congr (iff_of_eq (and_true p))

/-- Texts joined with a separator. -/
theorem join {α : Type} {sep : Text} {P : α → Prop} {as : List α} {ts : List Text}
    (hsep : UsesOnlyIff eol sep True)
    (h : List.Forall₂ (fun a t => UsesOnlyIff eol t (P a)) as ts) :
    UsesOnlyIff eol (Text.join sep ts) (∀ a ∈ as, P a) := by
  induction h with
  | nil => exact (of_plain (by simp)).congr (by simp)
  | @cons a t as ts ha has ih =>
    cases has with
    | nil =>
      rw [join_singleton]
      exact ha.congr (by simp)
    | cons _ _ =>
      rw [join_cons_cons]
      exact ((ha.append_right hsep).append ih).congr List.forall_mem_cons.symm

theorem join_map {α : Type} {sep : Text} {P : α → Prop} {f : α → Text} {as : List α}
    (hsep : UsesOnlyIff eol sep True) (h : ∀ a ∈ as, UsesOnlyIff eol (f a) (P a)) :
    UsesOnlyIff eol (Text.join sep (as.map f)) (∀ a ∈ as, P a) :=
  join hsep (List.forall₂_map_right_iff.2 (List.forall₂_same.2 h))

theorem flatten {ts : List Text} (h : ∀ t ∈ ts, UsesOnlyIff eol t True) :
    UsesOnlyIff eol (List.flatten ts) True := by
  induction ts with
  | nil => exact of_plain (by simp)
  | cons t ts ih =>
    exact (h t (by simp)).append_left (ih fun u hu => h u (by simp [hu]))

theorem times (hu : UsesOnlyIff eol u True) (n : Nat) : UsesOnlyIff eol (u.times n) True := by
  apply flatten
  intro t ht
  rwa [List.eq_of_mem_replicate ht]

end UsesOnlyIff

/-! ## Strings -/

/-- The first line ending of a text is seen from what precedes it. -/
theorem lineEndings_cons_congr {t u : Text} (hhead : t.head? = some '\n' ↔ u.head? = some '\n')
    (h : lineEndings t = lineEndings u) (c : Char) :
    lineEndings (c :: t) = lineEndings (c :: u) := by
  by_cases hpair : c = '\r' ∧ t.head? = some '\n'
  · obtain ⟨rfl, ht⟩ := hpair
    obtain ⟨t', rfl⟩ := List.head?_eq_some_iff.1 ht
    obtain ⟨u', rfl⟩ := List.head?_eq_some_iff.1 (hhead.1 ht)
    rw [lineEndings_break (.inr rfl) (by simp), lineEndings_break (.inr rfl) (by simp)] at h
    rw [lineEndings, lineEndings, (List.cons.inj h).2]
  · by_cases hc : c = '\r' ∨ c = '\n'
    · rw [lineEndings_break hc fun hr ht => hpair ⟨hr, ht⟩,
        lineEndings_break hc fun hr hu => hpair ⟨hr, hhead.2 hu⟩, h]
    · obtain ⟨hr, hn⟩ := not_or.1 hc
      rw [lineEndings_plain hr hn, lineEndings_plain hr hn, h]

/-- Other quotes leave the line endings of a string alone. -/
theorem lineEndings_requoteBody (q r : Quote) (body : Text) :
    lineEndings (requoteBody q.char r.char body) = lineEndings body ∧
      ((requoteBody q.char r.char body).head? = some '\n' ↔ body.head? = some '\n') := by
  have hq := q.char_ne_return
  have hr := r.char_ne_return
  fun_induction requoteBody q.char r.char body with
  | case1 => simp
  | case2 t ih =>
    refine ⟨?_, by simp [hq.2]⟩
    rw [lineEndings_plain hq.1 hq.2, lineEndings_plain (by decide) (by decide),
      lineEndings_plain hq.1 hq.2, ih.1]
  | case3 c t _ ih =>
    refine ⟨?_, by simp⟩
    rw [lineEndings_plain (c := '\\') (by decide) (by decide),
      lineEndings_plain (c := '\\') (by decide) (by decide)]
    exact lineEndings_cons_congr ih.2 ih.1 c
  | case4 t _ ih =>
    refine ⟨?_, by simp [hr.2]⟩
    rw [lineEndings_plain (by decide) (by decide), lineEndings_plain hr.1 hr.2,
      lineEndings_plain hr.1 hr.2, ih.1]
  | case5 c t _ _ ih => exact ⟨lineEndings_cons_congr ih.2 ih.1 c, by simp⟩

theorem lineEndings_enclose (q : Quote) (body : Text) :
    lineEndings (q.enclose body) = lineEndings body := by
  have hq := q.char_ne_return
  rw [Quote.enclose, lineEndings_plain hq.1 hq.2, lineEndings_append (by simp [hq.2]),
    lineEndings_plain hq.1 hq.2]
  simp [lineEndings]

theorem usesOnlyIff_enclose (q : Quote) (body : Text) :
    UsesOnlyIff eol (q.enclose body) (body.UsesOnly eol) := by
  have hclosed : (q.enclose body).getLast? = some q.char := by
    rw [Quote.enclose, ← List.cons_append, List.getLast?_concat]
  refine ⟨by simpa [hclosed] using q.char_ne_return.1, ?_⟩
  rw [UsesOnly, lineEndings_enclose]
  rfl

theorem usesOnlyIff_requote (body : Text) (q r : Quote) :
    UsesOnlyIff eol (requote body q r) (body.UsesOnly eol) := by
  refine (usesOnlyIff_enclose r _).congr ?_
  split
  · rfl
  · rw [UsesOnly, (lineEndings_requoteBody q r body).1]
    rfl

end Text

end ImportOrder
