import Mathlib.Data.List.Nodup
import Renderflow.Json.Decode

/-!
# The fields of a record

An object gives a field by its name, if it does not have it twice, and an array by its place. A
record is decoded field by field from what it gives, and it is refused if there is a field that it
does not give in this way.
-/

namespace Renderflow.Json

/-- What a record has for a field, of those with the given names. -/
inductive Gives (names : List String) : Json → String → Option Json → Prop
  | field {fields : List (String × Json)} {name : String}
    (hcount : (fields.map Prod.fst).count name ≤ 1) :
    Gives names (obj fields) name (fields.lookup name)
  | item {items : List Json} {name : String} {i : Nat} (hplace : names[i]? = some name)
    (hlength : items.length ≤ names.length) : Gives names (arr items) name items[i]?

variable {names : List String} {fields : List (String × Json)} {items : List Json} {j value : Json}
  {name : String} {least : Nat} {known : Fields} {v : Option Json}

/-! ## Objects -/

theorem gives_obj_iff : Gives names (obj fields) name v ↔
    (fields.map Prod.fst).count name ≤ 1 ∧ fields.lookup name = v := by
  constructor
  · intro hv
    cases hv with
    | field hcount => exact ⟨hcount, rfl⟩
  · rintro ⟨hcount, rfl⟩
    exact .field hcount

theorem nodup_known_iff : ((fields.filter fun f => names.contains f.1).map Prod.fst).Nodup ↔
    ∀ name ∈ names, (fields.map Prod.fst).count name ≤ 1 := by
  have hknown : (fields.filter fun f => names.contains f.1).map Prod.fst =
      (fields.map Prod.fst).filter names.contains := by
    rw [List.filter_map]
    rfl
  rw [hknown, List.nodup_iff_count_le_one]
  refine forall_congr' fun name => ?_
  by_cases hname : name ∈ names
  · rw [List.count_filter (by simpa using hname)]
    simp only [hname, true_imp_iff]
  · have hnot : name ∉ (fields.map Prod.fst).filter names.contains := by simp [hname]
    rw [List.count_eq_zero_of_not_mem hnot]
    simp [hname]

theorem lookup_known (hname : name ∈ names) :
    (fields.filter fun f => names.contains f.1).lookup name = fields.lookup name := by
  induction fields with
  | nil => rfl
  | cons f fields ih =>
    obtain ⟨other, w⟩ := f
    rw [List.filter_cons]
    by_cases hsame : name = other
    · subst hsame
      rw [if_pos (by simpa using hname), List.lookup_cons_self, List.lookup_cons_self]
    · split <;> simp only [List.lookup_cons, beq_eq_false_iff_ne.2 hsame, ih]

theorem lookup_of_mem (hcount : (fields.map Prod.fst).count name ≤ 1)
    (hmem : (name, value) ∈ fields) : fields.lookup name = some value := by
  induction fields with
  | nil => cases hmem
  | cons f fields ih =>
    obtain ⟨other, w⟩ := f
    rw [List.map_cons] at hcount
    by_cases hsame : name = other
    · subst hsame
      rw [List.count_cons_self] at hcount
      have hnot : name ∉ fields.map Prod.fst := List.count_eq_zero.1 (by omega)
      rcases List.mem_cons.1 hmem with heq | hmem
      · rw [List.lookup_cons_self, (Prod.mk.inj heq).2]
      · exact absurd (List.mem_map.2 ⟨_, hmem, rfl⟩) hnot
    · rw [List.count_cons_of_ne (Ne.symm hsame)] at hcount
      have hmem : (name, value) ∈ fields :=
        (List.mem_cons.1 hmem).resolve_left fun heq => hsame (Prod.mk.inj heq).1
      rw [List.lookup_cons, beq_eq_false_iff_ne.2 hsame]
      exact ih hcount hmem

/-! ## Arrays -/

theorem gives_arr_iff : Gives names (arr items) name v ↔
    items.length ≤ names.length ∧ ∃ i : Nat, names[i]? = some name ∧ items[i]? = v := by
  constructor
  · intro hv
    cases hv with
    | item hplace hlength => exact ⟨hlength, _, hplace, rfl⟩
  · rintro ⟨hlength, i, hplace, rfl⟩
    exact .item hplace hlength

theorem lookup_zip {i : Nat} (hnodup : names.Nodup) (hplace : names[i]? = some name) :
    (names.zip items).lookup name = items[i]? := by
  induction names generalizing items i with
  | nil => simp at hplace
  | cons other names ih =>
    obtain ⟨hnew, hrest⟩ := List.nodup_cons.1 hnodup
    cases items with
    | nil => simp
    | cons item items =>
      cases i with
      | zero =>
        obtain rfl : other = name := by simpa using hplace
        simp
      | succ i =>
        have hplace : names[i]? = some name := by simpa using hplace
        have hne : name ≠ other := fun heq => hnew (heq ▸ List.mem_of_getElem? hplace)
        simp [List.lookup_cons, beq_eq_false_iff_ne.2 hne, ih hrest hplace]

/-! ## Records -/

/-- A field is decoded from what the record has for it. -/
theorem gives_iff_lookup (hnodup : names.Nodup) (hname : name ∈ names)
    (h : j.fieldsOf? names least = some known) :
    Gives names j name v ↔ known.lookup name = v := by
  cases j with
  | obj fields =>
    obtain ⟨hknown, hsame⟩ := Option.ite_none_right_eq_some.1 h
    obtain rfl := Option.some.inj hsame
    rw [gives_obj_iff, lookup_known hname]
    exact and_iff_right (nodup_known_iff.1 hknown name hname)
  | arr items =>
    obtain ⟨⟨-, hlength⟩, hsame⟩ := Option.ite_none_right_eq_some.1 h
    obtain rfl := Option.some.inj hsame
    obtain ⟨i, hplace⟩ := List.mem_iff_getElem?.1 hname
    rw [gives_arr_iff, and_iff_right hlength, lookup_zip hnodup hplace]
    constructor
    · rintro ⟨k, hk, rfl⟩
      rw [← lookup_zip hnodup hk, lookup_zip hnodup hplace]
    · exact fun hv => ⟨i, hplace, hv⟩
  | _ => cases h

/-- A record gives each of its fields, and it is long enough if it is an array. -/
theorem exists_fieldsOf?_iff (hne : names ≠ []) :
    (∃ known, j.fieldsOf? names least = some known) ↔
      (∀ name ∈ names, ∃ v, Gives names j name v) ∧
        ∀ items, j = arr items → least ≤ items.length := by
  obtain ⟨first, rest, rfl⟩ := List.exists_cons_of_ne_nil hne
  cases j with
  | obj fields =>
    have hrecord : (∃ known, (obj fields).fieldsOf? (first :: rest) least = some known) ↔
        ((fields.filter fun f => (first :: rest).contains f.1).map Prod.fst).Nodup := by
      simp only [fieldsOf?, Option.ite_none_right_eq_some, Option.some.injEq, exists_and_left,
        exists_eq', and_true]
    rw [hrecord, nodup_known_iff]
    simp only [gives_obj_iff, exists_and_left, exists_eq', and_true, reduceCtorEq, false_imp_iff,
      implies_true]
  | arr items =>
    constructor
    · rintro ⟨known, h⟩
      obtain ⟨⟨hleast, hlength⟩, -⟩ := Option.ite_none_right_eq_some.1 h
      refine ⟨fun name hname => ?_, by simpa using hleast⟩
      obtain ⟨i, hplace⟩ := List.mem_iff_getElem?.1 hname
      exact ⟨_, .item hplace hlength⟩
    · rintro ⟨hgives, hleast⟩
      obtain ⟨v, hv⟩ := hgives first List.mem_cons_self
      exact ⟨_, if_pos ⟨hleast items rfl, (gives_arr_iff.1 hv).1⟩⟩
  | _ =>
    constructor
    · rintro ⟨_, ⟨⟩⟩
    · rintro ⟨hgives, -⟩
      obtain ⟨v, ⟨⟩⟩ := hgives first List.mem_cons_self

section

variable {α : Type} {decode : Json → Option α} {a : α} (hnodup : names.Nodup) (hname : name ∈ names)
  (h : j.fieldsOf? names least = some known)

include hnodup hname h

theorem required_eq_some_iff : known.required name decode = some a ↔
    ∃ value, Gives names j name (some value) ∧ decode value = some a := by
  simp only [Fields.required, Option.bind_eq_some_iff, gives_iff_lookup hnodup hname h]

theorem default_eq_some_iff {fallback : α} : known.default name fallback decode = some a ↔
    ∃ v, Gives names j name v ∧ v.elim (some fallback) decode = some a := by
  simp only [gives_iff_lookup hnodup hname h, exists_eq_left', Fields.default]
  cases known.lookup name <;> rfl

end

end Renderflow.Json
