import Renderflow.Error

/-!
# Computations without defects

A computation of a job gives a value with a property or is rejected for a reason that is
told to the user. What is lifted from bad input and missing resources is of this kind; what
is lifted from the templates is when it gives a value. A computation that gives a value is
taken apart into its steps.
-/

namespace Renderflow

variable {α β : Type}

/-- A value with a property, or a rejection that is not a defect. -/
structure Delivers (x : Except CompileError α) (post : α → Prop) : Prop where
  value : ∀ a, x = .ok a → post a
  error : ∀ e, x = .error e → e.isInternal = false

namespace Delivers

theorem ok {a : α} {post : α → Prop} (h : post a) : Delivers (.ok a) post where
  value b hb := by
    cases hb
    exact h
  error e he := by cases he

theorem reject {e : CompileError} {post : α → Prop} (h : e.isInternal = false) :
    Delivers (.error e) post where
  value b hb := by cases hb
  error e' he := by
    cases he
    exact h

theorem bind {x : Except CompileError α} {f : α → Except CompileError β} {post : α → Prop}
    {post' : β → Prop} (hx : Delivers x post) (hf : ∀ a, post a → Delivers (f a) post') :
    Delivers (x >>= f) post' := by
  cases x with
  | error e => exact .reject (hx.error e rfl)
  | ok a => exact hf a (hx.value a rfl)

theorem guard (b : Bool) {e : CompileError} (h : e.isInternal = false) :
    Delivers (if b then .ok () else .error e) fun _ => True := by
  cases b
  · exact .reject h
  · exact .ok trivial

theorem validation (x : Except ValidationError α) :
    Delivers (liftM x : Except CompileError α) fun a => x = .ok a := by
  cases x with
  | error e => exact .reject rfl
  | ok a => exact .ok rfl

theorem resource (x : Except ResourceError α) :
    Delivers (liftM x : Except CompileError α) fun a => x = .ok a := by
  cases x with
  | error e => exact .reject rfl
  | ok a => exact .ok rfl

theorem internal {x : Except InternalError α} {post : α → Prop} (hx : ∃ a, x = .ok a ∧ post a) :
    Delivers (liftM x : Except CompileError α) post := by
  obtain ⟨a, rfl, ha⟩ := hx
  exact .ok ha

theorem graph {x : Except GraphError α} {post : α → Prop} (hx : ∃ a, x = .ok a ∧ post a) :
    Delivers (liftM x : Except CompileError α) post := by
  obtain ⟨a, rfl, ha⟩ := hx
  exact .ok ha

end Delivers

/-! ## Successful computations -/

theorem bind_eq_ok_iff {ε : Type} {x : Except ε α} {f : α → Except ε β} {b : β} :
    x >>= f = .ok b ↔ ∃ a, x = .ok a ∧ f a = .ok b := by
  cases x <;> simp [bind, Except.bind]

/-- A computation fails at its first step or, if this gives a value, after it. -/
theorem bind_eq_error_iff {ε : Type} {x : Except ε α} {f : α → Except ε β} {e : ε} :
    x >>= f = .error e ↔ x = .error e ∨ ∃ a, x = .ok a ∧ f a = .error e := by
  cases x <;> simp [bind, Except.bind]

theorem mapError_eq_error_iff {ε ε' : Type} {f : ε → ε'} {x : Except ε α} {e : ε'} :
    x.mapError f = .error e ↔ ∃ e', x = .error e' ∧ f e' = e := by
  cases x with
  | error e' => exact ⟨fun h => ⟨e', rfl, Except.error.inj h⟩,
      fun ⟨_, hx, he⟩ => congrArg Except.error (Except.error.inj hx ▸ he)⟩
  | ok a => exact ⟨nofun, nofun⟩

theorem mapError_eq_ok_iff {ε ε' : Type} {f : ε → ε'} {x : Except ε α} {a : α} :
    x.mapError f = .ok a ↔ x = .ok a := by
  cases x with
  | error e => exact ⟨nofun, nofun⟩
  | ok b => exact ⟨fun h => congrArg Except.ok (Except.ok.inj h),
      fun h => congrArg Except.ok (Except.ok.inj h)⟩

namespace CompileError

theorem validation_eq_ok_iff {x : Except ValidationError α} {a : α} :
    (liftM x : Except CompileError α) = .ok a ↔ x = .ok a :=
  mapError_eq_ok_iff

theorem resource_eq_ok_iff {x : Except ResourceError α} {a : α} :
    (liftM x : Except CompileError α) = .ok a ↔ x = .ok a :=
  mapError_eq_ok_iff

theorem internal_eq_ok_iff {x : Except InternalError α} {a : α} :
    (liftM x : Except CompileError α) = .ok a ↔ x = .ok a :=
  mapError_eq_ok_iff

theorem graph_eq_ok_iff {x : Except GraphError α} {a : α} :
    (liftM x : Except CompileError α) = .ok a ↔ x = .ok a :=
  mapError_eq_ok_iff

end CompileError

end Renderflow
