import Renderflow.Proofs.Error

/-!
# Requirements

What a request has to meet, in the order in which it is looked at. A request that meets all of its
requirements is served, and any other one is refused with an error about the first requirement that
it does not meet. A computation is taken apart into its steps, each with its own requirements. Steps
that only a defect can stop require nothing, and that there is no defect is known of the whole.
-/

namespace Renderflow

variable {α β : Type}

/-- Something that is required, and the errors with which a request is refused that lacks it. -/
structure Requirement where
  met : Prop
  refusal : CompileError → Prop

namespace Requirement

/-- A requirement with one error. -/
def of (met : Prop) (e : CompileError) : Requirement where
  met := met
  refusal e' := e' = e

/-- A requirement in some cases only. -/
def given (p : Prop) (q : Requirement) : Requirement where
  met := p → q.met
  refusal := q.refusal

/-- A requirement on every value with a property. The error is about one of those that lack it. -/
def each (there : α → Prop) (q : α → Requirement) : Requirement where
  met := ∀ a, there a → (q a).met
  refusal e := ∃ a, there a ∧ ¬ (q a).met ∧ (q a).refusal e

/-- An error is about the first requirement of a list that is not met. -/
inductive FirstUnmet : List Requirement → CompileError → Prop
  | head {q : Requirement} {qs : List Requirement} {e : CompileError} (h : ¬ q.met)
      (he : q.refusal e) : FirstUnmet (q :: qs) e
  | tail {q : Requirement} {qs : List Requirement} {e : CompileError} (h : q.met)
      (he : FirstUnmet qs e) : FirstUnmet (q :: qs) e

namespace FirstUnmet

variable {q : Requirement} {qs : List Requirement} {e : CompileError}

theorem singleton_iff : FirstUnmet [q] e ↔ ¬ q.met ∧ q.refusal e := by
  constructor
  · intro h
    cases h with
    | head h he => exact ⟨h, he⟩
    | tail _ he => cases he
  · rintro ⟨h, he⟩
    exact .head h he

theorem exists_not_met (h : FirstUnmet qs e) : ∃ q ∈ qs, ¬ q.met := by
  induction h with
  | head h => exact ⟨_, List.mem_cons_self, h⟩
  | tail _ _ ih =>
    obtain ⟨q, hq, hnot⟩ := ih
    exact ⟨q, List.mem_cons_of_mem _ hq, hnot⟩

/-- Behind a requirement that is met. -/
theorem rest (h : FirstUnmet (q :: qs) e) (hq : q.met) : FirstUnmet qs e := by
  cases h with
  | head hnot => exact absurd hq hnot
  | tail _ h => exact h

theorem append (h : FirstUnmet qs e) (qs' : List Requirement) : FirstUnmet (qs ++ qs') e := by
  induction h with
  | head h he => exact .head h he
  | tail h _ ih => exact .tail h ih

theorem append_of_met {qs' : List Requirement} (hqs : ∀ q ∈ qs, q.met) (h : FirstUnmet qs' e) :
    FirstUnmet (qs ++ qs') e := by
  induction qs with
  | nil => exact h
  | cons q qs ih =>
    apply FirstUnmet.tail (hqs q List.mem_cons_self)
    exact ih fun q' hq' => hqs q' (List.mem_cons_of_mem q hq')

end FirstUnmet

end Requirement

open Requirement

/-- A computation gives a value exactly for the requests that meet a list of requirements, and for
the others an error about the first one that they do not meet. -/
structure Requires (x : Except CompileError α) (qs : List Requirement) : Prop where
  served : (∃ a, x = .ok a) ↔ ∀ q ∈ qs, q.met
  refused : ∀ e, x = .error e → FirstUnmet qs e

/-- What a computation requires, as far as it meets no defect. -/
structure Checks (x : Except CompileError α) (qs : List Requirement) : Prop where
  ok : ∀ a, x = .ok a → ∀ q ∈ qs, q.met
  error : ∀ e, x = .error e → e.isInternal = false → FirstUnmet qs e

namespace Checks

variable {x : Except CompileError α} {f : α → Except CompileError β} {q : Requirement}
  {qs qs' : List Requirement}

theorem requires (h : Checks x qs) {post : α → Prop} (hdelivers : Delivers x post) :
    Requires x qs where
  served := by
    constructor
    · rintro ⟨a, ha⟩
      exact h.ok a ha
    · intro hmet
      cases hx : x with
      | ok a => exact ⟨a, rfl⟩
      | error e =>
        obtain ⟨q, hq, hnot⟩ := (h.error e hx (hdelivers.error e hx)).exists_not_met
        exact absurd (hmet q hq) hnot
  refused e he := h.error e he (hdelivers.error e he)

/-! ## Steps in a row -/

/-- Requirements that are met anyway. -/
theorem append (h : Checks x qs) (hmet : ∀ q ∈ qs', q.met) : Checks x (qs ++ qs') where
  ok a ha := List.forall_mem_append.2 ⟨h.ok a ha, hmet⟩
  error e he hdefect := (h.error e he hdefect).append qs'

theorem cons (h : Checks x qs) (hmet : q.met) : Checks x (q :: qs) where
  ok a ha := List.forall_mem_cons.2 ⟨hmet, h.ok a ha⟩
  error e he hdefect := .tail hmet (h.error e he hdefect)

/-- What a computation requires, then what is required after it. -/
theorem bind (hx : Checks x qs) (hf : ∀ a, x = .ok a → Checks (f a) qs') :
    Checks (x >>= f) (qs ++ qs') where
  ok b hb := by
    obtain ⟨a, ha, hfa⟩ := bind_eq_ok_iff.1 hb
    exact List.forall_mem_append.2 ⟨hx.ok a ha, (hf a ha).ok b hfa⟩
  error e he hdefect := by
    rcases bind_eq_error_iff.1 he with he | ⟨a, ha, hfa⟩
    · exact (hx.error e he hdefect).append qs'
    · exact .append_of_met (hx.ok a ha) ((hf a ha).error e hfa hdefect)

theorem reject {e : CompileError} (h : FirstUnmet qs e) :
    Checks (.error e : Except CompileError α) qs where
  ok := nofun
  error _ he _ := Except.error.inj he ▸ h

/-! ## Steps that require nothing -/

theorem of_exists (h : ∃ a, x = .ok a) : Checks x [] where
  ok := by simp
  error e he := by
    obtain ⟨a, ha⟩ := h
    cases ha.symm.trans he

theorem ok_value (a : α) : Checks (.ok a) [] :=
  of_exists ⟨a, rfl⟩

theorem internal (x : Except InternalError α) : Checks (liftM x : Except CompileError α) [] where
  ok := by simp
  error e he hdefect := by
    obtain ⟨cause, -, rfl⟩ := mapError_eq_error_iff.1 he
    cases hdefect

theorem graph (x : Except GraphError α) : Checks (liftM x : Except CompileError α) [] where
  ok := by simp
  error e he hdefect := by
    obtain ⟨cause, -, rfl⟩ := mapError_eq_error_iff.1 he
    cases hdefect

/-! ## Steps with a requirement -/

theorem single (hok : ∀ a, x = .ok a → q.met)
    (herror : ∀ e, x = .error e → e.isInternal = false → ¬ q.met ∧ q.refusal e) :
    Checks x [q] where
  ok a ha := by simpa using hok a ha
  error e he hdefect := FirstUnmet.singleton_iff.2 (herror e he hdefect)

theorem validation {x : Except ValidationError α} (hok : ∀ a, x = .ok a → q.met)
    (herror : ∀ cause, x = .error cause → ¬ q.met ∧ q.refusal (.validation cause)) :
    Checks (liftM x : Except CompileError α) [q] := by
  apply single
  · intro a ha
    exact hok a (CompileError.validation_eq_ok_iff.1 ha)
  · intro e he _
    obtain ⟨cause, hcause, rfl⟩ := mapError_eq_error_iff.1 he
    exact herror cause hcause

theorem resource {x : Except ResourceError α} (hok : ∀ a, x = .ok a → q.met)
    (herror : ∀ cause, x = .error cause → ¬ q.met ∧ q.refusal (.resource cause)) :
    Checks (liftM x : Except CompileError α) [q] := by
  apply single
  · intro a ha
    exact hok a (CompileError.resource_eq_ok_iff.1 ha)
  · intro e he _
    obtain ⟨cause, hcause, rfl⟩ := mapError_eq_error_iff.1 he
    exact herror cause hcause

/-- A requirement on the one value that there is. -/
theorem each {there : β → Prop} {q : β → Requirement} {b : β} (hb : ∀ b', there b' ↔ b' = b)
    (h : Checks x [q b]) : Checks x [.each there q] := by
  have hthere : there b := (hb b).2 rfl
  apply single
  · intro a ha b' hb'
    obtain rfl := (hb b').1 hb'
    exact h.ok a ha _ (List.mem_singleton_self _)
  · intro e he hdefect
    obtain ⟨hnot, hrefusal⟩ := FirstUnmet.singleton_iff.1 (h.error e he hdefect)
    exact ⟨fun hmet => hnot (hmet b hthere), b, hthere, hnot, hrefusal⟩

/-- A requirement on a value that may be missing. -/
theorem optional {o : Option β} {q : β → Requirement} (hnone : o = none → Checks x [])
    (hsome : ∀ b, o = some b → Checks x [q b]) : Checks x [.each (o = some ·) q] := by
  cases o with
  | none => exact (hnone rfl).append (by simp [Requirement.each])
  | some b => exact each (by simp [eq_comm]) (hsome b rfl)

theorem given {p : Prop} (hp : p → Checks x [q]) (hnot : ¬ p → Checks x []) :
    Checks x [.given p q] := by
  by_cases h : p
  · apply single
    · intro a ha _
      exact (hp h).ok a ha q (List.mem_singleton_self q)
    · intro e he hdefect
      obtain ⟨hunmet, hrefusal⟩ := FirstUnmet.singleton_iff.1 ((hp h).error e he hdefect)
      exact ⟨fun hmet => hunmet (hmet h), hrefusal⟩
  · exact (hnot h).append (by simp [Requirement.given, h])

end Checks

end Renderflow
