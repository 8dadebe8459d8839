import ImportOrder.Journal
import ImportOrder.Source.Parser
import Mathlib.Data.List.Forall2

/-!
# Results and failures

What is known of the parts of a computation when its result or its failure is known: of one step
after another, of a step for each item of a list, and of a step whose failure is described anew.

## Main results

* `Journaled.ok_of_bind`, `Journaled.bind_eq_error`: one step after another
* `Journaled.forEach_eq_ok_iff`, `Journaled.exists_of_forEach_eq_error`: a step for each item
* `mapM_eq_ok_iff`, `mapM_eq_error_iff`, `mapM_eq_map`: the same without remarks
-/

namespace ImportOrder

/-! ## One step -/

theorem Except.eq_ok_of_toOption {ε α : Type} {x : Except ε α} {a : α}
    (h : x.toOption = some a) : x = .ok a := by
  cases x with
  | error e => cases h
  | ok b => rw [Option.some.inj h]

theorem Except.exists_of_map_eq_ok {ε α β : Type} {f : α → β} {x : Except ε α} {b : β}
    (h : x.map f = .ok b) : ∃ a, x = .ok a ∧ f a = b := by
  cases x with
  | error e => cases h
  | ok a => exact ⟨a, rfl, Except.ok.inj h⟩

theorem Except.eq_error_of_map {ε α β : Type} {f : α → β} {x : Except ε α} {e : ε}
    (h : x.map f = .error e) : x = .error e := by
  cases x with
  | error e' =>
    obtain rfl := Except.error.inj h
    rfl
  | ok a => cases h

theorem mapError_eq_ok_iff {ε ε' α : Type} {f : ε → ε'} {x : Except ε α} {a : α} :
    x.mapError f = .ok a ↔ x = .ok a := by
  cases x <;> simp [Except.mapError]

theorem mapError_eq_error {ε ε' α : Type} {f : ε → ε'} {x : Except ε α} {e : ε'}
    (h : x.mapError f = .error e) : ∃ e', x = .error e' ∧ f e' = e := by
  cases x with
  | error e' => exact ⟨e', rfl, Except.error.inj h⟩
  | ok a => cases h

/-! ## One step after another -/

namespace Journaled

variable {ε α β : Type}

theorem ok_of_bind {x : Journaled ε α} {f : α → Journaled ε β} {b : β}
    (h : (x >>= f).result = .ok b) : ∃ a, x.result = .ok a ∧ (f a).result = .ok b := by
  rw [result_bind] at h
  exact Parser.ok_of_bind h

@[simp] theorem result_mapError {ε' : Type} (f : ε → ε') (x : Journaled ε α) :
    (x.mapError f).result = x.result.mapError f := rfl

end Journaled

theorem Except.bind_eq_error {ε α β : Type} {x : Except ε α} {f : α → Except ε β} {e : ε}
    (h : (x >>= f) = .error e) : x = .error e ∨ ∃ a, x = .ok a ∧ f a = .error e := by
  cases x with
  | error e' =>
    obtain rfl := Except.error.inj h
    exact .inl rfl
  | ok a => exact .inr ⟨a, rfl, h⟩

theorem Journaled.bind_eq_error {ε α β : Type} {x : Journaled ε α} {f : α → Journaled ε β} {e : ε}
    (h : (x >>= f).result = .error e) :
    x.result = .error e ∨ ∃ a, x.result = .ok a ∧ (f a).result = .error e := by
  rw [result_bind] at h
  exact Except.bind_eq_error h

/-! ## A step for each item -/

theorem Journaled.forall₂_of_forEach {ε α β : Type} {f : α → Journaled ε β} {as : List α}
    {bs : List β} (h : (forEach f as).result = .ok bs) :
    List.Forall₂ (fun a b => (f a).result = .ok b) as bs := by
  induction as generalizing bs with
  | nil =>
    obtain rfl := Except.ok.inj h
    exact .nil
  | cons a as ih =>
    obtain ⟨b, ha, h⟩ := ok_of_bind h
    obtain ⟨rest, has, h⟩ := ok_of_bind h
    obtain rfl := Except.ok.inj h
    exact .cons ha (ih has)

theorem Journaled.forEach_eq_ok_iff {ε α β : Type} {f : α → Journaled ε β} {as : List α}
    {bs : List β} : (forEach f as).result = .ok bs ↔
      List.Forall₂ (fun a b => (f a).result = .ok b) as bs := by
  refine ⟨forall₂_of_forEach, ?_⟩
  intro h
  induction h with
  | nil => rfl
  | cons ha _ ih =>
    rw [forEach, result_bind, ha, Except.bind, result_bind, ih]
    rfl

theorem forall₂_of_mapM {ε α β : Type} {f : α → Except ε β} {xs : List α} {ys : List β}
    (h : xs.mapM f = .ok ys) : List.Forall₂ (fun x y => f x = .ok y) xs ys := by
  induction xs generalizing ys with
  | nil =>
    obtain rfl := Except.ok.inj h
    exact .nil
  | cons x xs ih =>
    rw [List.mapM_cons] at h
    obtain ⟨y, hx, h⟩ := Parser.ok_of_bind h
    obtain ⟨zs, hxs, h⟩ := Parser.ok_of_bind h
    obtain rfl := Except.ok.inj h
    exact .cons hx (ih hxs)

theorem mapM_eq_ok_iff {ε α β : Type} {f : α → Except ε β} {xs : List α} {ys : List β} :
    xs.mapM f = .ok ys ↔ List.Forall₂ (fun x y => f x = .ok y) xs ys := by
  refine ⟨forall₂_of_mapM, ?_⟩
  intro h
  induction h with
  | nil => rfl
  | cons hx _ ih =>
    rw [List.mapM_cons, hx, ih]
    rfl

/-- A step that changes the result of another one, for each item. -/
theorem mapM_eq_map {ε α β γ : Type} {f : α → Except ε γ} {g : α → Except ε β} {k : β → γ}
    {as : List α} (h : ∀ a ∈ as, f a = (g a).map k) :
    as.mapM f = (as.mapM g).map (List.map k) := by
  induction as with
  | nil => rfl
  | cons a as ih =>
    rw [List.mapM_cons, List.mapM_cons, h a List.mem_cons_self,
      ih fun a ha => h a (List.mem_cons_of_mem _ ha)]
    cases g a with
    | error e => rfl
    | ok b =>
      cases as.mapM g with
      | error e => rfl
      | ok bs => rfl

theorem mapM_map_congr {ε α β γ : Type} {f : α → Except ε β} {g : γ → Except ε β} {k : γ → α}
    {as : List γ} (h : ∀ a ∈ as, f (k a) = g a) : (as.map k).mapM f = as.mapM g := by
  induction as with
  | nil => rfl
  | cons a as ih =>
    rw [List.map_cons, List.mapM_cons, List.mapM_cons, h a List.mem_cons_self,
      ih fun a ha => h a (List.mem_cons_of_mem _ ha)]

theorem Journaled.result_forEach {ε α β : Type} (f : α → Journaled ε β) (as : List α) :
    (forEach f as).result = as.mapM fun a => (f a).result := by
  induction as with
  | nil => rfl
  | cons a as ih =>
    rw [forEach, List.mapM_cons, ← ih, result_bind]
    cases (f a).result with
    | error e => rfl
    | ok b =>
      simp only [Except.bind, result_bind]
      cases (forEach f as).result with
      | error e => rfl
      | ok bs => rfl

theorem exists_mem_of_forall₂ {α β : Type} {R : α → β → Prop} {xs : List α} {ys : List β}
    (h : List.Forall₂ R xs ys) {y : β} (hy : y ∈ ys) : ∃ x ∈ xs, R x y := by
  induction h with
  | nil => simp at hy
  | @cons x z xs ys hxz _ ih =>
    rcases List.mem_cons.1 hy with rfl | hy
    · exact ⟨x, by simp, hxz⟩
    · obtain ⟨x', hx', hr⟩ := ih hy
      exact ⟨x', by simp [hx'], hr⟩

theorem exists_mapM {ε α β : Type} {f : α → Except ε β} {xs : List α}
    (h : ∀ x ∈ xs, ∃ y, f x = .ok y) : ∃ ys, xs.mapM f = .ok ys := by
  induction xs with
  | nil => exact ⟨[], rfl⟩
  | cons x xs ih =>
    obtain ⟨y, hy⟩ := h x (by simp)
    obtain ⟨ys, hys⟩ := ih fun x hx => h x (by simp [hx])
    exact ⟨y :: ys, by rw [List.mapM_cons, hy, hys]; rfl⟩

theorem Journaled.exists_of_forEach_eq_error {ε α β : Type} {f : α → Journaled ε β} {as : List α}
    {e : ε} (h : (forEach f as).result = .error e) : ∃ a ∈ as, (f a).result = .error e := by
  induction as with
  | nil => cases h
  | cons a as ih =>
    rcases bind_eq_error h with ha | ⟨b, -, h⟩
    · exact ⟨a, List.mem_cons_self, ha⟩
    · rcases bind_eq_error h with has | ⟨bs, -, h⟩
      · obtain ⟨a', ha', he⟩ := ih has
        exact ⟨a', List.mem_cons_of_mem a ha', he⟩
      · cases h

/-- The failure of a step for each item is that of the first item that fails. -/
theorem mapM_eq_error_iff {ε α β : Type} {f : α → Except ε β} {xs : List α} {e : ε} :
    xs.mapM f = .error e ↔ ∃ before x after, xs = before ++ x :: after ∧
      (∀ y ∈ before, ∃ z, f y = .ok z) ∧ f x = .error e := by
  induction xs with
  | nil => simp [pure, Except.pure]
  | cons x xs ih =>
    rw [List.mapM_cons]
    constructor
    · intro h
      rcases Except.bind_eq_error h with hx | ⟨y, hy, h⟩
      · exact ⟨[], x, xs, rfl, by simp, hx⟩
      · rcases Except.bind_eq_error h with hxs | ⟨ys, -, h⟩
        · obtain ⟨before, x', after, rfl, hbefore, hx'⟩ := ih.1 hxs
          exact ⟨x :: before, x', after, rfl, by simpa using ⟨⟨y, hy⟩, hbefore⟩, hx'⟩
        · cases h
    · rintro ⟨before, x', after, heq, hbefore, hx'⟩
      cases before with
      | nil =>
        obtain ⟨rfl, rfl⟩ := List.cons.inj heq
        rw [hx']
        rfl
      | cons y before =>
        obtain ⟨rfl, rfl⟩ := List.cons.inj heq
        obtain ⟨z, hz⟩ := hbefore x List.mem_cons_self
        have hrest := ih.2 ⟨before, x', after, rfl,
          fun y hy => hbefore y (List.mem_cons_of_mem x hy), hx'⟩
        rw [hz, hrest]
        rfl

theorem exists_of_mapM_eq_error {ε α β : Type} {f : α → Except ε β} {xs : List α} {e : ε}
    (h : xs.mapM f = .error e) : ∃ x ∈ xs, f x = .error e := by
  induction xs with
  | nil => cases h
  | cons x xs ih =>
    rw [List.mapM_cons] at h
    rcases Except.bind_eq_error h with hx | ⟨y, -, h⟩
    · exact ⟨x, List.mem_cons_self, hx⟩
    · rcases Except.bind_eq_error h with hxs | ⟨ys, -, h⟩
      · obtain ⟨x', hx', he⟩ := ih hxs
        exact ⟨x', List.mem_cons_of_mem x hx', he⟩
      · cases h

end ImportOrder
