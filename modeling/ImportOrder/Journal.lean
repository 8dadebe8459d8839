/-!
# Journals

A computation may leave remarks on the way to its result or failure. The remarks never influence the
result, so each can be looked at on its own.

## Main definitions

* `Entry`: a remark with its level
* `Journaled`: a result or failure with the remarks made on the way

## Main results

* `Journaled.result_bind`, `Journaled.bind_eq_ok_iff`: the result of one computation after another
-/

namespace ImportOrder

/-- **The levels of remarks**, the least urgent first. -/
inductive Level where
  | debug
  | info
  | warning
  | error
deriving Repr, DecidableEq, Inhabited

namespace Level

/-- The name of a level. -/
def label : Level → String
  | debug => "DEBUG"
  | info => "INFO"
  | warning => "WARNING"
  | error => "ERROR"

/-- The urgency of a level. -/
def rank : Level → Nat
  | debug => 0
  | info => 1
  | warning => 2
  | error => 3

end Level

/-- **A remark.** -/
structure Entry where
  level : Level
  text : String
deriving Repr, DecidableEq, Inhabited

/-- **A result or failure** with the remarks made on the way, the first one first. -/
structure Journaled (ε α : Type) where
  journal : List Entry
  result : Except ε α

namespace Journaled

variable {ε α β : Type}

/-- A result without remarks. -/
def ofExcept (x : Except ε α) : Journaled ε α := ⟨[], x⟩

/-- A remark. -/
def note (level : Level) (text : String) : Journaled ε Unit := ⟨[⟨level, text⟩], .ok ()⟩

/-- A remark for those who look closely. -/
def debug (text : String) : Journaled ε Unit := note .debug text

/-- A failure without remarks. -/
def fail (e : ε) : Journaled ε α := ⟨[], .error e⟩

/-- The same computation with another description of its failure. -/
def mapError {ε' : Type} (f : ε → ε') (x : Journaled ε α) : Journaled ε' α :=
  ⟨x.journal, x.result.mapError f⟩

/-- One computation after another; a failure of the first is the end. -/
def andThen (x : Journaled ε α) (f : α → Journaled ε β) : Journaled ε β :=
  match x.result with
  | .error e => ⟨x.journal, .error e⟩
  | .ok a =>
    let y := f a
    ⟨x.journal ++ y.journal, y.result⟩

instance : Monad (Journaled ε) where
  pure a := ⟨[], .ok a⟩
  bind := andThen

@[simp] theorem result_pure (a : α) : (pure a : Journaled ε α).result = .ok a := rfl

@[simp] theorem result_ofExcept (x : Except ε α) : (ofExcept x).result = x := rfl

@[simp] theorem result_note (level : Level) (text : String) :
    (note level text : Journaled ε Unit).result = .ok () := rfl

@[simp] theorem result_fail (e : ε) : (fail e : Journaled ε α).result = .error e := rfl

theorem ofExcept_ok_bind (a : α) (f : α → Journaled ε β) : (ofExcept (.ok a) >>= f) = f a := rfl

/-- The result of one computation after another does not depend on the remarks. -/
theorem result_bind (x : Journaled ε α) (f : α → Journaled ε β) :
    (x >>= f).result = x.result.bind fun a => (f a).result := by
  show (andThen x f).result = _
  unfold andThen
  split <;> rename_i h <;> simp [h, Except.bind]

/-- One computation after another gives a result if both do. -/
theorem bind_eq_ok_iff {x : Journaled ε α} {f : α → Journaled ε β} {b : β} :
    (x >>= f).result = .ok b ↔ ∃ a, x.result = .ok a ∧ (f a).result = .ok b := by
  rw [result_bind]
  cases x.result with
  | error e => simp [Except.bind]
  | ok a => simp [Except.bind]

/-- Runs a computation for each item, in order, up to the first failure. -/
def forEach (f : α → Journaled ε β) : List α → Journaled ε (List β)
  | [] => pure []
  | a :: as => do
    let b ← f a
    let bs ← forEach f as
    return b :: bs

end Journaled

end ImportOrder
