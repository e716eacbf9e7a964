import Renderflow.Proofs.Error

/-!
# Two computations in lockstep

Two runs of a computation end alike: both fail for the same reason, or both give a value and the
two values are related. Where the runs take the same steps, it is enough to relate what they do
after each step.
-/

namespace Renderflow

variable {ε α α' β β' : Type}

/-- Two computations with the same error, or with values that are related. -/
inductive Lockstep (R : α → α' → Prop) : Except ε α → Except ε α' → Prop
  | ok {a : α} {a' : α'} (h : R a a') : Lockstep R (.ok a) (.ok a')
  | error (e : ε) : Lockstep R (.error e) (.error e)

namespace Lockstep

variable {R : α → α' → Prop} {S : β → β' → Prop}

theorem mono {S : α → α' → Prop} {x : Except ε α} {x' : Except ε α'} (h : Lockstep R x x')
    (hRS : ∀ a a', x = .ok a → x' = .ok a' → R a a' → S a a') : Lockstep S x x' := by
  cases h with
  | ok h => exact .ok (hRS _ _ rfl rfl h)
  | error e => exact .error e

theorem bind {x : Except ε α} {x' : Except ε α'} {f : α → Except ε β} {f' : α' → Except ε β'}
    (hx : Lockstep R x x')
    (hf : ∀ a a', x = .ok a → x' = .ok a' → R a a' → Lockstep S (f a) (f' a')) :
    Lockstep S (x >>= f) (x' >>= f') := by
  cases hx with
  | ok h => exact hf _ _ rfl rfl h
  | error e => exact .error e

/-- Two runs with the same first step. -/
theorem bind_same {x : Except ε α} {f : α → Except ε β} {f' : α → Except ε β'}
    (hf : ∀ a, x = .ok a → Lockstep S (f a) (f' a)) : Lockstep S (x >>= f) (x >>= f') := by
  cases x with
  | ok a => exact hf a rfl
  | error e => exact .error e

theorem exists_ok {a : α} {x' : Except ε α'} (h : Lockstep R (.ok a) x') :
    ∃ a', x' = .ok a' ∧ R a a' := by
  cases h with
  | ok h => exact ⟨_, rfl, h⟩

end Lockstep

/-- Two runs with the same first step and the same continuation of what it gives. -/
theorem bind_congr_of_ok {x : Except ε α} {f g : α → Except ε β}
    (h : ∀ a, x = .ok a → f a = g a) : x >>= f = x >>= g := by
  cases x with
  | ok a => exact h a rfl
  | error e => rfl

end Renderflow
