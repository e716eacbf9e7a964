import Renderflow.Graph.Codec
import Renderflow.Proofs.Decimal.Whole
import Renderflow.Proofs.Json.Record

/-!
# Graphs read back

A graph whose doubles are finite is read back from its JSON form as it was: no kind of value is
taken for another. Whatever is read from JSON is such a graph, so that writing what was read and
reading it again changes nothing.
-/

namespace Renderflow

/-! ## JSON as it can be stored -/

namespace Json

mutual

/-- Whole numbers are words of 64 bits, signed or unsigned, and doubles are finite. -/
def isStorable : Json → Bool
  | int n => -2 ^ 63 ≤ n && n < 2 ^ 64
  | float x => Decimal.isFinite x
  | arr items => itemsStorable items
  | obj fields => fieldsStorable fields
  | _ => true

def itemsStorable : List Json → Bool
  | [] => true
  | j :: rest => isStorable j && itemsStorable rest

def fieldsStorable : List (String × Json) → Bool
  | [] => true
  | (_, j) :: rest => isStorable j && fieldsStorable rest

end

theorem itemsStorable_iff {items : List Json} :
    itemsStorable items ↔ ∀ j ∈ items, j.isStorable := by
  induction items with
  | nil => simp [itemsStorable]
  | cons j rest ih => simp [itemsStorable, ih]

theorem fieldsStorable_iff {fields : List (String × Json)} :
    fieldsStorable fields ↔ ∀ f ∈ fields, f.2.isStorable := by
  induction fields with
  | nil => simp [fieldsStorable]
  | cons f rest ih => simp [fieldsStorable, ih]

theorem isStorable_of_fieldsOf? {j : Json} {names : List String} {least : Nat} {f : Fields}
    (hj : j.isStorable) (h : j.fieldsOf? names least = some f) : ∀ e ∈ f, e.2.isStorable := by
  cases j with
  | obj fields =>
    rw [isStorable, fieldsStorable_iff] at hj
    simp only [fieldsOf?, Option.ite_none_right_eq_some, Option.some.injEq] at h
    obtain ⟨-, rfl⟩ := h
    exact fun e he => hj e (List.mem_of_mem_filter he)
  | arr items =>
    rw [isStorable, itemsStorable_iff] at hj
    simp only [fieldsOf?, Option.ite_none_right_eq_some, Option.some.injEq] at h
    obtain ⟨-, rfl⟩ := h
    exact fun e he => hj e.2 (List.of_mem_zip he).2
  | _ => cases h

theorem Fields.isStorable_of_lookup {f : Fields} {name : String} {j : Json}
    (hf : ∀ e ∈ f, e.2.isStorable) (h : f.lookup name = some j) : j.isStorable := by
  obtain ⟨before, after, rfl, -⟩ := List.lookup_eq_some_iff.1 h
  exact hf (name, j) (by simp)

end Json

/-! ## Values -/

namespace Value

mutual

/-- Whether a test holds of a value and of the values in it. -/
def all (p : Value → Bool) : Value → Bool
  | object fields => p (object fields) && allFields p fields
  | v => p v

def allFields (p : Value → Bool) : List (String × Value) → Bool
  | [] => true
  | (_, v) :: rest => all p v && allFields p rest

end

theorem allFields_iff {p : Value → Bool} {fields : List (String × Value)} :
    allFields p fields ↔ ∀ f ∈ fields, f.2.all p := by
  induction fields with
  | nil => simp [allFields]
  | cons f rest ih => simp [allFields, ih]

/-- A double that JSON can hold, or no double. -/
def finite : Value → Bool
  | float x => Decimal.isFinite x
  | _ => true

/-- An object with its fields in key order, or no object. -/
def ordered : Value → Bool
  | object fields => fields.Pairwise fun a b => a.1 < b.1
  | _ => true

mutual

/-- The value with the fields of every object in key order, the last of a repeated key. -/
def canonical : Value → Value
  | object fields => object (Table.ofList (canonicalFields fields)).entries
  | other => other

def canonicalFields : List (String × Value) → List (String × Value)
  | [] => []
  | (k, v) :: rest => (k, canonical v) :: canonicalFields rest

end

mutual

theorem canonical_of_ordered : ∀ v : Value, v.all ordered → v.canonical = v
  | bool _, _ | int _, _ | float _, _ | str _, _ | link _, _ => rfl
  | object fields, h => by
    simp only [all, ordered, Bool.and_eq_true, decide_eq_true_eq] at h
    rw [canonical, canonicalFields_of_ordered fields h.2, Table.entries_ofList h.1]

theorem canonicalFields_of_ordered :
    ∀ fields : List (String × Value), allFields ordered fields → canonicalFields fields = fields
  | [], _ => rfl
  | (k, v) :: rest, h => by
    simp only [allFields, Bool.and_eq_true] at h
    rw [canonicalFields, canonical_of_ordered v h.1, canonicalFields_of_ordered rest h.2]

end

/-! ### From JSON and back -/

theorem ofJson?_int (n : Int64) : ofJson? (.int n.toInt) = some (int n) := by
  rw [ofJson?, if_pos ⟨n.minValue_le_toInt, n.toInt_le⟩, Int64.ofInt_toInt]

theorem ofJson?_link (c : Connection) :
    ofJson? (.arr [.str c.node, .int c.output.toNat]) = some (link c) := by
  simp [ofJson?, linkOfJson?, Json.asString?, Json.asUInt32?_toNat]

mutual

/-- A value is read back as the kind of value that it was. -/
theorem ofJson?_toJson : ∀ v : Value, v.all finite → ofJson? v.toJson = some v.canonical
  | bool _, _ | str _, _ => rfl
  | int n, _ => ofJson?_int n
  | float x, h => by
    rw [toJson, Json.ofFloat_eq h]
    rfl
  | link c, _ => ofJson?_link c
  | object fields, h => by
    simp only [all, Bool.and_eq_true] at h
    rw [toJson, ofJson?, fieldsOfJson?_fieldsToJson fields h.2]
    rfl

theorem fieldsOfJson?_fieldsToJson : ∀ fields : List (String × Value), allFields finite fields →
    fieldsOfJson? (fieldsToJson fields) = some (canonicalFields fields)
  | [], _ => rfl
  | (k, v) :: rest, h => by
    simp only [allFields, Bool.and_eq_true] at h
    rw [fieldsToJson, fieldsOfJson?, ofJson?_toJson v h.1, fieldsOfJson?_fieldsToJson rest h.2]
    rfl

end

theorem finite_ofInt {n : Int} (hlow : -2 ^ 63 ≤ n) (hhigh : n < 2 ^ 64)
    (hword : ¬ (Int64.minValue.toInt ≤ n ∧ n ≤ Int64.maxValue.toInt)) :
    Decimal.isFinite (Float.ofInt n) := by
  have hmin : Int64.minValue.toInt = -2 ^ 63 := by decide
  have hmax : Int64.maxValue.toInt = 2 ^ 63 - 1 := by decide
  obtain ⟨m, rfl⟩ := Int.eq_ofNat_of_zero_le (a := n) (by omega)
  exact Decimal.isFinite_ofNat (by omega) (by omega)

mutual

/-- What is read from JSON is written as it is. -/
theorem all_of_ofJson? : ∀ (j : Json) {v : Value}, j.isStorable → ofJson? j = some v →
    v.all finite ∧ v.all ordered
  | .null, _, _, h => by cases h
  | .bool _, _, _, h | .str _, _, _, h => by
    cases h
    exact ⟨rfl, rfl⟩
  | .int n, v, hj, h => by
    simp only [Json.isStorable, Bool.and_eq_true, decide_eq_true_eq] at hj
    rw [ofJson?] at h
    split at h
    · cases h
      exact ⟨rfl, rfl⟩
    · next hword =>
      cases h
      exact ⟨finite_ofInt hj.1 hj.2 hword, rfl⟩
  | .float x, _, hj, h => by
    cases h
    exact ⟨hj, rfl⟩
  | .arr [node, output], _, _, h => by
    simp only [ofJson?, linkOfJson?, Option.bind_eq_bind, Option.bind_eq_some_iff] at h
    obtain ⟨_, -, _, -, h⟩ := h
    cases h
    exact ⟨rfl, rfl⟩
  | .arr [], _, _, h | .arr [_], _, _, h | .arr (_ :: _ :: _ :: _), _, _, h => by
    cases h
  | .obj fields, v, hj, h => by
    obtain ⟨l, hl, rfl⟩ := Option.map_eq_some_iff.1 h
    obtain ⟨hfinite, hordered⟩ := allFields_of_fieldsOfJson? fields hj hl
    rw [allFields_iff] at hfinite hordered
    have hsub : ∀ f ∈ (Table.ofList l).entries, f ∈ l := fun f hf => Table.mem_ofList hf
    simp only [all, finite, ordered, Bool.and_eq_true, allFields_iff, decide_eq_true_eq, true_and]
    exact ⟨fun f hf => hfinite f (hsub f hf), (Table.ofList l).ordered,
      fun f hf => hordered f (hsub f hf)⟩

theorem allFields_of_fieldsOfJson? :
    ∀ (fields : List (String × Json)) {l : List (String × Value)}, Json.fieldsStorable fields →
      fieldsOfJson? fields = some l → allFields finite l ∧ allFields ordered l
  | [], _, _, h => by
    cases h
    exact ⟨rfl, rfl⟩
  | (k, j) :: rest, _, hj, h => by
    simp only [Json.fieldsStorable, Bool.and_eq_true] at hj
    simp only [fieldsOfJson?, Option.bind_eq_bind, Option.bind_eq_some_iff] at h
    obtain ⟨v, hv, more, hmore, h⟩ := h
    cases h
    obtain ⟨hv₁, hv₂⟩ := all_of_ofJson? j hj.1 hv
    obtain ⟨hmore₁, hmore₂⟩ := allFields_of_fieldsOfJson? rest hj.2 hmore
    simp [allFields, hv₁, hv₂, hmore₁, hmore₂]

end

end Value

/-! ## Nodes -/

namespace Node

/-- Whether a test holds of the values in all inputs. -/
def Every (p : Value → Bool) (n : Node) : Prop :=
  ∀ i ∈ n.inputs.entries, i.2.all p

def canonical (n : Node) : Node :=
  { n with inputs := n.inputs.mapValues fun _ v => v.canonical }

theorem canonical_of_ordered {n : Node} (h : n.Every Value.ordered) : n.canonical = n := by
  rw [canonical, Table.mapValues_id fun i hi => Value.canonical_of_ordered i.2 (h i hi)]

theorem titleOfJson?_title (t : String) :
    Json.asOption? titleOfJson? (.obj [("title", .str t)]) = some (some t) :=
  rfl

theorem map_fst_fields (n : Node) : n.fields.map Prod.fst = ["class_type", "inputs", "_meta"] :=
  rfl

theorem ofJson?_toJson {n : Node} (h : n.Every Value.finite) :
    ofJson? n.toJson = some n.canonical := by
  have hnodup : (n.fields.map Prod.fst).Nodup := by
    rw [map_fst_fields]
    decide
  have hclass : (Json.given n.fields).required "class_type" Json.asString? = some n.classType := by
    rw [Json.required_given hnodup rfl]
    rfl
  have hinputs : (Json.given n.fields).required "inputs" (Json.asTable? Value.ofJson?) =
      some (n.inputs.mapValues fun _ v => v.canonical) := by
    rw [Json.required_given hnodup rfl]
    exact Json.asTable?_mapValues fun i hi => Value.ofJson?_toJson i.2 (h i hi)
  have htitle : (Json.given n.fields).optional "_meta" titleOfJson? = some n.title :=
    Json.optional_given hnodup (fun t => .obj [("title", .str t)]) rfl
      fun t _ => titleOfJson?_title t
  rw [ofJson?, toJson, Json.fieldsOf?_ofFields n.map_fst_fields (n.map_fst_fields ▸ hnodup)]
  simp [hclass, hinputs, htitle, canonical]

theorem every_of_ofJson? {j : Json} {n : Node} (hj : j.isStorable) (h : ofJson? j = some n) :
    n.Every Value.finite ∧ n.Every Value.ordered := by
  simp only [ofJson?, Option.bind_eq_bind, Option.bind_eq_some_iff, Option.pure_def,
    Option.some.injEq] at h
  obtain ⟨f, hf, -, -, inputs, hinputs, -, -, rfl⟩ := h
  obtain ⟨ji, hlookup, hdecode⟩ := Option.bind_eq_some_iff.1 hinputs
  have hji := Json.Fields.isStorable_of_lookup (Json.isStorable_of_fieldsOf? hj hf) hlookup
  obtain ⟨fields, rfl, hentries⟩ := Json.exists_field_of_asTable? hdecode
  have hall : ∀ i ∈ inputs.entries, i.2.all Value.finite ∧ i.2.all Value.ordered := by
    intro i hi
    obtain ⟨e, he, hv⟩ := hentries i hi
    exact Value.all_of_ofJson? e.2 (Json.fieldsStorable_iff.1 hji e he) hv
  exact ⟨fun i hi => (hall i hi).1, fun i hi => (hall i hi).2⟩

end Node

/-! ## Graphs -/

namespace Graph

/-- Whether a test holds of the values in all inputs. -/
def Every (p : Value → Bool) (g : Graph) : Prop :=
  ∀ e ∈ g.entries, e.2.Every p

def canonical (g : Graph) : Graph :=
  g.mapValues fun _ n => n.canonical

theorem canonical_of_ordered {g : Graph} (h : g.Every Value.ordered) : g.canonical = g :=
  Table.mapValues_id fun e he => Node.canonical_of_ordered (h e he)

theorem ofJson?_toJson {g : Graph} (h : g.Every Value.finite) :
    ofJson? g.toJson = some g.canonical :=
  Json.asTable?_mapValues fun e he => Node.ofJson?_toJson (h e he)

theorem every_of_ofJson? {j : Json} {g : Graph} (hj : j.isStorable) (h : ofJson? j = some g) :
    g.Every Value.finite ∧ g.Every Value.ordered := by
  obtain ⟨fields, rfl, hentries⟩ := Json.exists_field_of_asTable? h
  have hall : ∀ e ∈ g.entries, e.2.Every Value.finite ∧ e.2.Every Value.ordered := by
    intro e he
    obtain ⟨f, hf, hn⟩ := hentries e he
    exact Node.every_of_ofJson? (Json.fieldsStorable_iff.1 hj f hf) hn
  exact ⟨fun e he => (hall e he).1, fun e he => (hall e he).2⟩

/-- A graph with finite doubles is read back up to the order of the fields in its objects, and
as it was if they stand in key order. What is read from JSON is read back as it was. -/
theorem json_round_trip :
    (∀ g : Graph, g.Every Value.finite → ofJson? g.toJson = some g.canonical) ∧
      (∀ g : Graph, g.Every Value.ordered → g.canonical = g) ∧
      ∀ (j : Json) (g : Graph), j.isStorable → ofJson? j = some g →
        ofJson? g.toJson = some g := by
  refine ⟨fun g => ofJson?_toJson, fun g => canonical_of_ordered, fun j g hj h => ?_⟩
  obtain ⟨hfinite, hordered⟩ := every_of_ofJson? hj h
  rw [ofJson?_toJson hfinite, canonical_of_ordered hordered]

/-- A node with inputs of every kind. The strength is no signed word, and the fields of the
object are not in key order. -/
def sampleJson : Json :=
  .obj
    [("3", .obj
      [("class_type", .str "KSampler"),
        ("inputs", .obj
          [("cfg", .float 1.0), ("seed", .int 1), ("model", .arr [.str "4", .int 0]),
            ("lora_1", .obj [("strength", .int 9223372036854775808), ("on", .bool true)])]),
        ("_meta", .obj [("title", .str "Sampler")])])]

def sampleGraph : Graph :=
  .ofList
    [("3", .of "KSampler" "Sampler"
      [("cfg", .float 1.0), ("seed", .int 1), ("model", .link ⟨"4", 0⟩),
        ("lora_1", .object
          [("on", .bool true), ("strength", .float (Float.ofInt 9223372036854775808))])])]

theorem json_round_trip_sample :
    sampleGraph.Every Value.finite ∧ sampleGraph.Every Value.ordered ∧ sampleJson.isStorable ∧
      ofJson? sampleJson = some sampleGraph ∧
      ofJson? sampleGraph.toJson = some sampleGraph.canonical ∧
      sampleGraph.canonical = sampleGraph ∧ ofJson? sampleGraph.toJson = some sampleGraph := by
  have hfinite : sampleGraph.Every Value.finite := by
    unfold Every Node.Every
    decide +kernel
  have hordered : sampleGraph.Every Value.ordered := by
    unfold Every Node.Every
    decide +kernel
  have hstorable : sampleJson.isStorable := by decide
  exact ⟨hfinite, hordered, hstorable, rfl, json_round_trip.1 sampleGraph hfinite,
    json_round_trip.2.1 sampleGraph hordered,
    json_round_trip.2.2 sampleJson sampleGraph hstorable rfl⟩

end Graph

end Renderflow
