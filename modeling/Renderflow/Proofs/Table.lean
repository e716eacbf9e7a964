import Renderflow.Proofs.Text.Code
import Renderflow.Table

/-!
# Lookups in tables

A lookup finds an entry exactly where the table has it. A table that is made of a list has
the last value of each key, and of a list in key order it has the entries as they are.
-/

namespace Renderflow.Table

variable {α β : Type}

theorem lookup_eq_some_iff {k : String} {v : α} {l : List (String × α)}
    (hl : l.Pairwise (fun a b => a.1 < b.1)) : l.lookup k = some v ↔ (k, v) ∈ l := by
  induction l with
  | nil => simp
  | cons e l ih =>
    obtain ⟨a, w⟩ := e
    obtain ⟨hhead, htail⟩ := List.pairwise_cons.1 hl
    by_cases hk : k = a
    · subst hk
      have hmem : (k, v) ∉ l := fun h => String.lt_irrefl k (hhead (k, v) h)
      simp [hmem, eq_comm]
    · simp [List.lookup_cons, beq_eq_false_iff_ne.2 hk, ih htail, hk]

theorem find?_eq_some_iff {t : Table α} {k : String} {v : α} :
    t.find? k = some v ↔ (k, v) ∈ t.entries :=
  lookup_eq_some_iff t.ordered

theorem contains_iff {t : Table α} {k : String} : t.contains k ↔ ∃ v, t.find? k = some v := by
  simp [contains, Option.isSome_iff_exists]

theorem mem_keys {t : Table α} {k : String} : k ∈ t.keys ↔ t.contains k := by
  simp [contains_iff, find?_eq_some_iff, keys]

theorem nodup_keys (t : Table α) : t.keys.Nodup := by
  have hlt : t.keys.Pairwise (· < ·) := List.pairwise_map.2 t.ordered
  refine hlt.imp fun hab heq => ?_
  subst heq
  exact String.lt_irrefl _ hab

theorem eq_of_entries {t t' : Table α} (h : t.entries = t'.entries) : t = t' := by
  cases t
  cases t'
  simpa using h

/-- Tables with the same lookups are equal. -/
theorem ext_find? {t t' : Table α} (h : ∀ k, t'.find? k = t.find? k) : t' = t := by
  have hnodup (t : Table α) : t.entries.Nodup :=
    List.Pairwise.of_map Prod.fst (fun _ _ hne heq => hne (congrArg Prod.fst heq)) t.nodup_keys
  have hmem : ∀ e, e ∈ t'.entries ↔ e ∈ t.entries := fun e => by
    rw [← find?_eq_some_iff, ← find?_eq_some_iff, h]
  have hperm := (List.perm_ext_iff_of_nodup (hnodup t') (hnodup t)).2 hmem
  have hentries : t'.entries = t.entries :=
    hperm.eq_of_pairwise (fun _ _ _ _ hlt hgt => absurd hlt (String.lt_asymm hgt)) t'.ordered
      t.ordered
  exact eq_of_entries hentries

theorem put_put (key : String) (v w : α) (l : List (String × α)) :
    put key w (put key v l) = put key w l := by
  induction l with
  | nil => simp [put]
  | cons e l ih =>
    obtain ⟨k, u⟩ := e
    by_cases hk : key = k
    · simp [put, hk]
    · by_cases hlt : key < k <;> simp [put, hk, hlt, ih]

/-- Of two insertions at one key the later one counts. -/
theorem insert_insert (t : Table α) (key : String) (v w : α) :
    (t.insert key v).insert key w = t.insert key w := by
  simp only [insert, put_put]

theorem insert_of_find? {t : Table α} {key : String} {value : α} (h : t.find? key = some value) :
    t.insert key value = t := by
  apply ext_find?
  intro k
  rw [find?_insert]
  by_cases hk : k = key
  · rw [if_pos hk, hk, h]
  · rw [if_neg hk]

theorem contains_insert (t : Table α) (key k : String) (value : α) :
    (t.insert key value).contains k = (k = key || t.contains k) := by
  by_cases h : k = key <;> simp [contains, find?_insert, h]

/-- Tables with entries for the same keys list the same keys. -/
theorem keys_congr {t t' : Table α} (h : ∀ k, t'.contains k = t.contains k) : t'.keys = t.keys := by
  have hordered (t : Table α) : t.keys.Pairwise (· < ·) := List.pairwise_map.2 t.ordered
  have hperm : t'.keys.Perm t.keys := by
    rw [List.perm_ext_iff_of_nodup t'.nodup_keys t.nodup_keys]
    intro k
    rw [mem_keys, mem_keys, h]
  exact hperm.eq_of_pairwise (fun _ _ _ _ hlt hgt => absurd hlt (String.lt_asymm hgt))
    (hordered t') (hordered t)

theorem ofList_concat (l : List (String × α)) (e : String × α) :
    ofList (l ++ [e]) = (ofList l).insert e.1 e.2 := by
  simp [ofList]

section

attribute [local instance] Text.decideEq

/-- The value of the last entry with a key. -/
def last? (key : String) : List (String × α) → Option α
  | [] => none
  | (k, v) :: rest => (last? key rest).or (if k = key then some v else none)

end

theorem last?_append (key : String) (l m : List (String × α)) :
    last? key (l ++ m) = (last? key m).or (last? key l) := by
  induction l with
  | nil => simp [last?]
  | cons e l ih => simp [last?, ih, Option.or_assoc]

theorem last?_map (f : α → β) (key : String) (l : List (String × α)) :
    last? key (l.map fun e => (e.1, f e.2)) = (last? key l).map f := by
  induction l with
  | nil => rfl
  | cons e l ih =>
    by_cases h : e.1 = key
    · cases hl : last? key l <;> simp [last?, ih, h, hl]
    · simp [last?, ih, h]

theorem mem_of_last? {key : String} {v : α} {l : List (String × α)} (h : last? key l = some v) :
    (key, v) ∈ l := by
  induction l with
  | nil => simp [last?] at h
  | cons e l ih =>
    rw [last?, Option.or_eq_some_iff] at h
    rcases h with h | ⟨-, h⟩
    · exact List.mem_cons_of_mem e (ih h)
    · obtain ⟨rfl, rfl⟩ := by simpa using h
      exact List.mem_cons_self

theorem last?_eq_none {key : String} {l : List (String × α)} (h : ∀ e ∈ l, e.1 ≠ key) :
    last? key l = none := by
  by_contra hsome
  obtain ⟨w, hw⟩ := Option.ne_none_iff_exists'.1 hsome
  exact h _ (mem_of_last? hw) rfl

/-- Of a key that is there once, the only value is the last one. -/
theorem last?_of_mem {key : String} {value : α} {l : List (String × α)}
    (hl : (l.map Prod.fst).Nodup) (h : (key, value) ∈ l) : last? key l = some value := by
  induction l with
  | nil => cases h
  | cons e l ih =>
    rw [List.map_cons, List.nodup_cons] at hl
    rcases List.mem_cons.1 h with rfl | h
    · have hnone : last? key l = none :=
        last?_eq_none fun e he heq => hl.1 (List.mem_map.2 ⟨e, he, heq⟩)
      simp [last?, hnone]
    · simp [last?, ih hl.2 h]

theorem exists_last?_of_mem {key : String} {v : α} {l : List (String × α)} (h : (key, v) ∈ l) :
    ∃ w, last? key l = some w := by
  obtain ⟨before, after, rfl⟩ := List.append_of_mem h
  rw [last?_append]
  cases hafter : last? key after with
  | some w => exact ⟨w, by simp [last?, hafter]⟩
  | none => exact ⟨v, by simp [last?, hafter]⟩

theorem find?_ofList (l : List (String × α)) (k : String) : (ofList l).find? k = last? k l := by
  induction l using List.reverseRecOn with
  | nil => rfl
  | append_singleton l e ih =>
    rw [ofList_concat, find?_insert, last?_append, ih]
    by_cases h : k = e.1
    · simp [last?, h]
    · simp [last?, h, Ne.symm h]

theorem isEmpty_ofList (l : List (String × α)) : (ofList l).isEmpty = l.isEmpty := by
  cases l with
  | nil => rfl
  | cons e l =>
    obtain ⟨v, hv⟩ := exists_last?_of_mem (List.mem_cons_self (a := e) (l := l))
    rw [← find?_ofList, find?_eq_some_iff] at hv
    exact List.isEmpty_eq_false_iff.2 (List.ne_nil_of_mem hv)

theorem mem_ofList {e : String × α} {l : List (String × α)} (h : e ∈ (ofList l).entries) :
    e ∈ l :=
  mem_of_last? (find?_ofList l e.1 ▸ find?_eq_some_iff.2 h)

/-! ## Lists in key order -/

theorem put_of_lt {key : String} {value : α} {l : List (String × α)} (h : ∀ e ∈ l, e.1 < key) :
    put key value l = l ++ [(key, value)] := by
  induction l with
  | nil => rfl
  | cons e l ih =>
    have hlt : e.1 < key := h e List.mem_cons_self
    have hne : key ≠ e.1 := fun heq => String.lt_irrefl key (heq ▸ hlt)
    simp [put, hne, String.lt_asymm hlt, ih fun e he => h e (List.mem_cons_of_mem _ he)]

theorem entries_ofList {l : List (String × α)} (hl : l.Pairwise (fun a b => a.1 < b.1)) :
    (ofList l).entries = l := by
  induction l using List.reverseRecOn with
  | nil => rfl
  | append_singleton l e ih =>
    obtain ⟨hinit, -, hlast⟩ := List.pairwise_append.1 hl
    have hlt : ∀ e' ∈ l, e'.1 < e.1 := fun e' he' => hlast e' he' e (List.mem_singleton_self e)
    rw [ofList_concat]
    show put e.1 e.2 (ofList l).entries = _
    rw [ih hinit, put_of_lt hlt]

@[simp] theorem ofList_entries (t : Table α) : ofList t.entries = t :=
  eq_of_entries (entries_ofList t.ordered)

theorem mapValues_id {f : String → α → α} {t : Table α} (h : ∀ e ∈ t.entries, f e.1 e.2 = e.2) :
    t.mapValues f = t := by
  have hentries : t.entries.map (fun e => (e.1, f e.1 e.2)) = t.entries.map id :=
    List.map_congr_left fun e he => Prod.ext rfl (h e he)
  exact eq_of_entries (hentries.trans t.entries.map_id)

end Renderflow.Table
