import Mathlib.Data.List.Nodup
import Renderflow.Json.Decode
import Renderflow.Proofs.Table

/-!
# Records read back

An object of those fields that have a value is read back field by field, each under its own
name, and what has no value is read as absent. What stands in the fields, words, finite
doubles, texts and tables, is read back as it was.
-/

namespace Renderflow.Json

variable {α β : Type}

/-! ## Fields -/

/-- The fields that have a value. -/
def given (fields : List (String × Option Json)) : Fields :=
  fields.filterMap fun f => f.2.map fun v => (f.1, v)

theorem map_fst_given_sublist (fields : List (String × Option Json)) :
    ((given fields).map Prod.fst).Sublist (fields.map Prod.fst) := by
  induction fields with
  | nil => exact .slnil
  | cons f fields ih =>
    obtain ⟨name, v⟩ := f
    cases v with
    | none => exact ih.cons name
    | some j => exact ih.cons_cons name

theorem fieldsOf?_ofFields {fields : List (String × Option Json)} {names : List String}
    (hnames : fields.map Prod.fst = names) (hnodup : names.Nodup) (least : Nat) :
    (ofFields fields).fieldsOf? names least = some (given fields) := by
  have hsub := map_fst_given_sublist fields
  rw [hnames] at hsub
  have hknown : (given fields).filter (fun f => names.contains f.1) = given fields :=
    List.filter_eq_self.2 fun f hf => by simpa using hsub.subset (List.mem_map_of_mem hf)
  have hobj : ofFields fields = obj (given fields) := rfl
  rw [hobj]
  simp only [fieldsOf?, hknown, if_pos (hnodup.sublist hsub)]

section

variable {fields : List (String × Option Json)} {name : String} {decode : Json → Option α}
  (hnodup : (fields.map Prod.fst).Nodup)

include hnodup

theorem lookup_given {v : Option Json} (h : fields.lookup name = some v) :
    (given fields).lookup name = v := by
  induction fields with
  | nil => simp at h
  | cons f fields ih =>
    obtain ⟨other, w⟩ := f
    obtain ⟨hnew, hrest⟩ := List.nodup_cons.1 hnodup
    by_cases hsame : name = other
    · subst hsame
      obtain rfl : w = v := by simpa using h
      cases w with
      | some j => simp [given]
      | none =>
        refine List.lookup_eq_none_iff.2 fun f hf => bne_iff_ne.2 fun heq => hnew ?_
        exact (map_fst_given_sublist fields).subset (heq ▸ List.mem_map_of_mem hf)
    · rw [List.lookup_cons, beq_eq_false_iff_ne.2 hsame] at h
      rw [← ih hrest h]
      cases w with
      | none => rfl
      | some j => simp [given, List.lookup_cons, beq_eq_false_iff_ne.2 hsame]

theorem required_given {j : Json} (h : fields.lookup name = some (some j)) :
    (given fields).required name decode = decode j := by
  rw [Fields.required, lookup_given hnodup h, Option.bind_some]

theorem default_given {v : Option Json} (h : fields.lookup name = some v) (fallback : α) :
    (given fields).default name fallback decode = v.elim (some fallback) decode := by
  rw [Fields.default, lookup_given hnodup h]
  cases v <;> rfl

/-- A field is read back, or as absent if it has no value. No value is null. -/
theorem optional_given {o : Option α} (encode : α → Json)
    (h : fields.lookup name = some (o.map encode))
    (hreads : ∀ a ∈ o, asOption? decode (encode a) = some (some a)) :
    (given fields).optional name decode = some o := by
  rw [Fields.optional, default_given hnodup h]
  cases o with
  | none => rfl
  | some a => exact hreads a rfl

end

/-! ## Values -/

theorem within?_eq_some {low high n : Int} (h : low ≤ n ∧ n ≤ high) :
    within? low high (.int n) = some n :=
  if_pos h

theorem asUInt8?_toNat (n : UInt8) : asUInt8? (.int n.toNat) = some n := by
  have hn : n.toNat < UInt8.size := n.toNat_lt
  rw [asUInt8?, within?_eq_some (by omega)]
  simp

theorem asUInt32?_toNat (n : UInt32) : asUInt32? (.int n.toNat) = some n := by
  have hn : n.toNat < UInt32.size := n.toNat_lt
  rw [asUInt32?, within?_eq_some (by omega)]
  simp

theorem asUInt64?_eq_some_iff {j : Json} {n : UInt64} :
    asUInt64? j = some n ↔ j = .int n.toNat := by
  have hsize : n.toNat < UInt64.size := n.toNat_lt
  constructor
  · intro h
    obtain ⟨m, hm, rfl⟩ := Option.map_eq_some_iff.1 h
    cases j with
    | int i =>
      obtain ⟨⟨hlow, hhigh⟩, hsame⟩ := Option.ite_none_right_eq_some.1 hm
      obtain rfl := Option.some.inj hsame
      rw [UInt64.toNat_ofNat_of_lt' (by omega), Int.toNat_of_nonneg hlow]
    | _ => cases hm
  · rintro rfl
    rw [asUInt64?, within?_eq_some (by omega)]
    simp

theorem asInt64?_toInt (n : Int64) : asInt64? (.int n.toInt) = some n := by
  rw [asInt64?, within?_eq_some ⟨n.minValue_le_toInt, n.toInt_le⟩]
  simp

theorem asStrings?_strings (l : List String) : asStrings? (strings l) = some l := by
  show (l.map str).mapM asString? = some l
  induction l with
  | nil => rfl
  | cons s l ih => simp [List.mapM_cons, ih, asString?]

/-- A finite double is written as a number. -/
theorem ofFloat_eq {x : Float} (h : Decimal.isFinite x) : ofFloat x = .float x :=
  if_pos h

/-! ## Tables -/

theorem mapM_eq_some_map {f : α → Option β} {g : α → β} {l : List α}
    (h : ∀ a ∈ l, f a = some (g a)) : l.mapM f = some (l.map g) := by
  induction l with
  | nil => rfl
  | cons a l ih =>
    rw [List.mapM_cons, h a List.mem_cons_self, ih fun b hb => h b (List.mem_cons_of_mem a hb)]
    rfl

theorem exists_mem_of_mapM {f : α → Option β} {l : List α} {l' : List β}
    (h : l.mapM f = some l') : ∀ b ∈ l', ∃ a ∈ l, f a = some b := by
  induction l generalizing l' with
  | nil =>
    cases h
    simp
  | cons a l ih =>
    simp only [List.mapM_cons, Option.bind_eq_bind, Option.bind_eq_some_iff,
      Option.pure_def, Option.some.injEq] at h
    obtain ⟨b, hb, more, hmore, rfl⟩ := h
    rintro b' hb'
    rcases List.mem_cons.1 hb' with rfl | hb'
    · exact ⟨a, List.mem_cons_self, hb⟩
    · obtain ⟨a', ha', hab⟩ := ih hmore b' hb'
      exact ⟨a', List.mem_cons_of_mem a ha', hab⟩

/-- A table whose values are read back, up to a change of each value. -/
theorem asTable?_mapValues {t : Table α} {encode : α → Json} {decode : Json → Option β}
    {f : α → β} (h : ∀ e ∈ t.entries, decode (encode e.2) = some (f e.2)) :
    (obj (t.mapValues fun _ v => encode v).entries).asTable? decode =
      some (t.mapValues fun _ v => f v) := by
  have hentries : (t.mapValues fun _ v => encode v).entries.mapM
      (fun e => (decode e.2).map fun v => (e.1, v)) =
        some (t.mapValues fun _ v => f v).entries := by
    rw [Table.mapValues, List.mapM_map]
    exact mapM_eq_some_map fun e he => by simp [h e he]
  rw [asTable?, hentries, Option.map_some, Table.ofList_entries]

/-- The values of a table are read from the fields of an object. -/
theorem exists_field_of_asTable? {j : Json} {decode : Json → Option α} {t : Table α}
    (h : j.asTable? decode = some t) :
    ∃ fields, j = obj fields ∧ ∀ e ∈ t.entries, ∃ f ∈ fields, decode f.2 = some e.2 := by
  cases j with
  | obj fields =>
    obtain ⟨l, hl, rfl⟩ := Option.map_eq_some_iff.1 h
    refine ⟨fields, rfl, fun e he => ?_⟩
    obtain ⟨f, hf, hdecode⟩ := exists_mem_of_mapM hl e (Table.mem_ofList he)
    obtain ⟨v, hv, rfl⟩ := Option.map_eq_some_iff.1 hdecode
    exact ⟨f, hf, hv⟩
  | _ => cases h

end Renderflow.Json
