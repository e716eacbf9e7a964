import Renderflow.Text.Pattern
import Mathlib.Data.List.TakeWhile

/-!
# The first way to match

A search goes on in each of the ways to match a text, in their order, until one leads to a result.
A run is given up for a shorter one only where the pattern goes on after the shorter one: where it
does not, what is left after the whole run decides.
-/

namespace Renderflow.Pattern

variable {α : Type} {kind : Char → Bool} {cs : List Char}

/-! ## Ways -/

/-- What the runs of characters of a kind leave of a text, the longest run first. -/
def runs (kind : Char → Bool) : List Char → List (List Char)
  | [] => []
  | c :: rest => if kind c then runs kind rest ++ [rest] else []

/-- The ways to match the start of a text, from the one that is tried first, each with what is kept
and what is left. -/
def ways (groups : Groups) : Pattern → List Char → List (Groups × List Char)
  | one kind, cs => (cs.take 1).flatMap fun c => if kind c then [(groups, cs.tail)] else []
  | many kind, cs => (runs kind cs).map fun rest => (groups, rest)
  | seq a b, cs => (ways groups a cs).flatMap fun w => ways w.1 b w.2
  | either a b, cs => ways groups a cs ++ ways groups b cs
  | group number a, cs =>
    (ways groups a cs).map fun w =>
      ((number, cs.take (cs.length - w.2.length)) :: w.1, w.2)

theorem longest?_eq_findSome? (next : List Char → Option α) :
    longest? kind next cs = (runs kind cs).findSome? next := by
  induction cs with
  | nil => rfl
  | cons c rest ih => cases hc : kind c <;> simp [longest?, runs, hc, ih]

theorem findSome?_flatMap {β γ : Type} (f : β → List γ) (next : γ → Option α) (l : List β) :
    (l.flatMap f).findSome? next = l.findSome? fun b => (f b).findSome? next := by
  induction l with
  | nil => rfl
  | cons b l ih =>
    rw [List.flatMap_cons, List.findSome?_append, ih, List.findSome?_cons]
    cases (f b).findSome? next <;> rfl

/-- A search ends with the first way that leads to a result. -/
theorem first?_eq_findSome? (p : Pattern) (groups : Groups)
    (next : Groups → List Char → Option α) (cs : List Char) :
    first? groups next p cs = (ways groups p cs).findSome? fun w => next w.1 w.2 := by
  induction p generalizing groups next cs with
  | one kind =>
    cases cs with
    | nil => rfl
    | cons c rest => cases hc : kind c <;> simp [first?, ways, hc]
  | many kind => simp [first?, ways, longest?_eq_findSome?, List.findSome?_map, Function.comp_def]
  | seq a b iha ihb =>
    rw [first?, iha, ways, findSome?_flatMap]
    simp only [ihb]
  | either a b iha ihb => simp [first?, ways, iha, ihb, List.findSome?_append]
  | group number a ih => simp [first?, ways, ih, List.findSome?_map, Function.comp_def]

/-- A text as a whole is matched in the first way that leaves nothing of it. -/
theorem captures?_eq_find? (p : Pattern) (s : String) :
    p.captures? s = ((ways [] p s.toList).find? fun w => w.2.isEmpty).map Prod.fst := by
  rw [captures?, first?_eq_findSome?]
  induction ways [] p s.toList with
  | nil => rfl
  | cons w rest ih =>
    rw [List.findSome?_cons, List.find?_cons, ih, kept?]
    cases w.2.isEmpty <;> rfl

/-! ## Runs that are as long as they can be -/

variable {next : List Char → Option α}

/-- If nothing goes on within a run that does not go on after it, the whole run is taken. -/
theorem longest?_eq (h : ∀ c rest, kind c → (c :: rest).dropWhile kind = cs.dropWhile kind →
    next (cs.dropWhile kind) = none → next (c :: rest) = none) :
    longest? kind next cs =
      if (cs.takeWhile kind).isEmpty then none else next (cs.dropWhile kind) := by
  induction cs with
  | nil => rfl
  | cons c cs ih =>
    rw [longest?]
    cases hc : kind c with
    | false => simp [hc]
    | true =>
      rw [List.dropWhile_cons_of_pos hc] at h ⊢
      rw [ih h, List.takeWhile_cons_of_pos hc]
      cases cs with
      | nil => rfl
      | cons d cs =>
        cases hd : kind d with
        | false => simp [hd]
        | true =>
          cases hnext : next ((d :: cs).dropWhile kind) with
          | none =>
            rw [h d cs hd rfl hnext]
            simp [hd]
          | some a => simp [hd]

/-- The run is what is before the rest. -/
theorem take_length_sub_dropWhile (kind : Char → Bool) (cs : List Char) :
    cs.take (cs.length - (cs.dropWhile kind).length) = cs.takeWhile kind := by
  have hsplit := List.takeWhile_append_dropWhile (p := kind) (l := cs)
  have hlength := congrArg List.length hsplit
  rw [List.length_append] at hlength
  rw [← hlength, Nat.add_sub_cancel]
  exact (List.prefix_iff_eq_take.1 (List.takeWhile_prefix kind)).symm

/-- A run that is kept, where nothing goes on within it. -/
theorem first?_group_many {number : Nat} {groups : Groups} {next : Groups → List Char → Option α}
    (h : ∀ groups c rest, kind c → next groups (c :: rest) = none) :
    first? groups next (.group number (.many kind)) cs =
      if (cs.takeWhile kind).isEmpty then none
      else next ((number, cs.takeWhile kind) :: groups) (cs.dropWhile kind) := by
  simp only [first?]
  rw [longest?_eq, take_length_sub_dropWhile]
  exact fun c rest hc _ _ => h _ c rest hc

end Renderflow.Pattern
