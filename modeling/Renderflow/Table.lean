/-!
# Tables

A finite map from text keys to values. The entries stand in strictly increasing
key order, so a key occurs once and two tables with the same lookups are equal.
-/

namespace Renderflow

structure Table (α : Type) where
  entries : List (String × α)
  ordered : entries.Pairwise (fun a b => a.1 < b.1) := by simp

namespace Table

variable {α β : Type}

def empty : Table α := ⟨[], .nil⟩

instance : Inhabited (Table α) := ⟨empty⟩

/-- Puts an entry at its place in an ordered list, over an entry of the same key. -/
def put (key : String) (value : α) : List (String × α) → List (String × α)
  | [] => [(key, value)]
  | (k, v) :: rest =>
    if key = k then (key, value) :: rest
    else if key < k then (key, value) :: (k, v) :: rest
    else (k, v) :: put key value rest

theorem mem_put {key : String} {value : α} {entry : String × α} :
    ∀ {l : List (String × α)}, entry ∈ put key value l → entry = (key, value) ∨ entry ∈ l
  | [], h => by simpa [put] using h
  | (k, v) :: rest, h => by
    unfold put at h
    split at h
    · rcases List.mem_cons.1 h with h | h
      · exact .inl h
      · exact .inr (List.mem_cons_of_mem _ h)
    · split at h
      · rcases List.mem_cons.1 h with h | h
        · exact .inl h
        · exact .inr h
      · rcases List.mem_cons.1 h with h | h
        · exact .inr (h ▸ List.mem_cons_self)
        · exact (mem_put h).imp id (List.mem_cons_of_mem _)

theorem put_ordered {key : String} {value : α} :
    ∀ {l : List (String × α)}, l.Pairwise (fun a b => a.1 < b.1) →
      (put key value l).Pairwise (fun a b => a.1 < b.1)
  | [], _ => by simp [put]
  | (k, v) :: rest, h => by
    obtain ⟨head, tail⟩ := List.pairwise_cons.1 h
    unfold put
    split
    · next same => exact List.pairwise_cons.2 ⟨fun e he => same ▸ head e he, tail⟩
    · next other =>
      split
      · next below =>
        refine List.pairwise_cons.2 ⟨fun e he => ?_, h⟩
        rcases List.mem_cons.1 he with rfl | he
        · exact below
        · exact String.lt_trans below (head e he)
      · next above =>
        refine List.pairwise_cons.2 ⟨fun e he => ?_, put_ordered tail⟩
        rcases mem_put he with rfl | he
        · exact Std.lt_of_le_of_ne (String.not_lt.1 above) (Ne.symm other)
        · exact head e he

def insert (t : Table α) (key : String) (value : α) : Table α :=
  ⟨put key value t.entries, put_ordered t.ordered⟩

/-- The table of a list of entries; of two with one key the later one stays. -/
def ofList (l : List (String × α)) : Table α :=
  l.foldl (fun t e => t.insert e.1 e.2) empty

def find? (t : Table α) (key : String) : Option α :=
  t.entries.lookup key

def contains (t : Table α) (key : String) : Bool :=
  (t.find? key).isSome

def keys (t : Table α) : List String :=
  t.entries.map Prod.fst

def isEmpty (t : Table α) : Bool :=
  t.entries.isEmpty

/-- Changes every value and keeps the keys. -/
def mapValues (f : String → α → β) (t : Table α) : Table β :=
  ⟨t.entries.map (fun e => (e.1, f e.1 e.2)), by
    simpa [List.pairwise_map] using t.ordered⟩

theorem lookup_put {key k : String} {value : α} :
    ∀ {l : List (String × α)},
      (put key value l).lookup k = if k = key then some value else l.lookup k
  | [] => by
    by_cases h : k = key
    · simp [put, h]
    · simp [put, List.lookup_cons, beq_eq_false_iff_ne.2 h, h]
  | (k', v) :: rest => by
    have skip {x y : String} (h : x ≠ y) (w : α) (l : List (String × α)) :
        ((y, w) :: l).lookup x = l.lookup x := by
      simp [List.lookup_cons, beq_eq_false_iff_ne.2 h]
    unfold put
    split
    · next same =>
      subst same
      by_cases h : k = key
      · simp [h]
      · simp [skip h, h]
    · next other =>
      split
      · by_cases h : k = key
        · simp [h]
        · simp [skip h, h]
      · by_cases h : k = k'
        · subst h
          simp [Ne.symm other]
        · rw [skip h, skip h]
          exact lookup_put

/-- A lookup after an insertion finds the new value at its key and the old ones elsewhere. -/
theorem find?_insert (t : Table α) (key k : String) (value : α) :
    (t.insert key value).find? k = if k = key then some value else t.find? k :=
  lookup_put

@[simp] theorem find?_empty (k : String) : (empty : Table α).find? k = none := rfl

end Table

end Renderflow
