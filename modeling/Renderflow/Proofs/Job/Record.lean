import Renderflow.Job.Request
import Renderflow.Proofs.Json.Record

/-!
# The record of a job, read back

The record of a job is read back from its JSON form as it was, whichever of its fields have a
value, so a follow-up job ends in the same way from a stored record as from the record itself.
-/

namespace Renderflow

namespace JobDetails

/-- The doubles in a record. -/
def doubles (d : JobDetails) : List Float :=
  [d.guidance, d.denoise, d.mpSize, d.upscaleFactor].filterMap id

/-- The record with every note in canonical form. -/
def canonical (d : JobDetails) : JobDetails :=
  { d with parametersUsed := d.parametersUsed.mapValues fun _ v => v.canonical }

theorem map_fst_fields (d : JobDetails) : d.fields.map Prod.fst = fieldNames :=
  rfl

theorem nodup_fieldNames : fieldNames.Nodup := by
  decide

theorem nodup_fields (d : JobDetails) : (d.fields.map Prod.fst).Nodup :=
  d.map_fst_fields ▸ nodup_fieldNames

/-! ## Cases by their keys -/

theorem caseOfJson?_key {α : Type} {all : List α} {key : α → String} {a : α} (hmem : a ∈ all)
    (hinj : ∀ b ∈ all, key b = key a → b = a) : caseOfJson? all key (.str (key a)) = some a := by
  have hfind : ∃ b, all.find? (fun b => key b == key a) = some b :=
    Option.isSome_iff_exists.1 (List.find?_isSome.2 ⟨a, hmem, beq_self_eq_true (key a)⟩)
  obtain ⟨b, hb⟩ := hfind
  have hba := hinj b (List.mem_of_find?_eq_some hb) (by simpa using List.find?_some hb)
  rw [← hba] at hb ⊢
  exact hb

theorem typeOfJson?_key (t : JobType) : typeOfJson? (.str t.key) = some t :=
  caseOfJson?_key (by cases t <;> decide) (by cases t <;> decide)

theorem familyOfJson?_key (f : Family) : familyOfJson? (.str f.key) = some f :=
  caseOfJson?_key (by cases f <;> decide) (by cases f <;> decide)

theorem strengthOfJson?_key (s : VariationStrength) : strengthOfJson? (.str s.key) = some s :=
  caseOfJson?_key (by cases s <;> decide) (by cases s <;> decide)

/-! ## Fields -/

section

variable (d : JobDetails) (name : String)

theorem default_eq {α : Type} {v : Option Json} {fallback : α} {decode : Json → Option α}
    (h : d.fields.lookup name = some v) :
    (Json.given d.fields).default name fallback decode = v.elim (some fallback) decode :=
  Json.default_given d.nodup_fields h fallback

theorem optional_eq {α : Type} {o : Option α} (encode : α → Json) {decode : Json → Option α}
    (h : d.fields.lookup name = some (o.map encode))
    (hreads : ∀ a ∈ o, Json.asOption? decode (encode a) = some (some a)) :
    (Json.given d.fields).optional name decode = some o :=
  Json.optional_given d.nodup_fields encode h hreads

theorem optional_text {o : Option String} (h : d.fields.lookup name = some (o.map .str)) :
    (Json.given d.fields).optional name Json.asString? = some o :=
  optional_eq d name _ h fun _ _ => rfl

theorem optional_word {o : Option UInt32}
    (h : d.fields.lookup name = some (o.map fun n => .int n.toNat)) :
    (Json.given d.fields).optional name Json.asUInt32? = some o :=
  optional_eq d name _ h fun n _ => congrArg (Option.map some) (Json.asUInt32?_toNat n)

theorem optional_double {o : Option Float} (h : d.fields.lookup name = some (o.map .ofFloat))
    (hfinite : ∀ x ∈ o, Decimal.isFinite x) :
    (Json.given d.fields).optional name Json.asFloat? = some o :=
  optional_eq d name _ h fun x hx => by
    rw [Json.ofFloat_eq (hfinite x hx)]
    rfl

end

/-- An empty table of notes is left out, and read as empty. -/
theorem default_parametersUsed (d : JobDetails) :
    (Json.given d.fields).default "parameters_used" .empty
      (Json.asTable? fun v => some v.canonical) = some d.canonical.parametersUsed := by
  have hwrite : d.parametersUsed.mapValues (fun _ v => v) = d.parametersUsed :=
    Table.mapValues_id fun _ _ => rfl
  have hread : (Json.obj (d.parametersUsed.mapValues fun _ v => v).entries).asTable?
      (fun v => some v.canonical) = some d.canonical.parametersUsed :=
    Json.asTable?_mapValues fun _ _ => rfl
  rw [hwrite] at hread
  rw [d.default_eq "parameters_used" rfl]
  split
  · next hempty =>
    have hnil : d.parametersUsed.entries = [] := List.isEmpty_iff.1 hempty
    exact congrArg some (Table.eq_of_entries (by simp [canonical, Table.mapValues, hnil,
      Table.empty]))
  · exact hread

/-- The record is read back up to the form of the notes. -/
theorem ofJson?_toJson {d : JobDetails} (h : ∀ x ∈ d.doubles, Decimal.isFinite x) :
    ofJson? d.toJson = some d.canonical := by
  have hfinite {o : Option Float} (ho : o ∈ [d.guidance, d.denoise, d.mpSize, d.upscaleFactor]) :
      ∀ x ∈ o, Decimal.isFinite x :=
    fun x hx => h x (List.mem_filterMap.2 ⟨o, ho, hx⟩)
  have hid : (Json.given d.fields).default "job_id" "" Json.asString? = some d.jobId :=
    d.default_eq "job_id" rfl
  have htype : (Json.given d.fields).default "type" .txt2img typeOfJson? = some d.jobType :=
    (d.default_eq "type" rfl).trans (typeOfJson?_key d.jobType)
  have hseed : (Json.given d.fields).optional "seed" Json.asInt64? = some d.seed :=
    d.optional_eq "seed" (fun n : Int64 => .int n.toInt) rfl fun n _ =>
      congrArg (Option.map some) (Json.asInt64?_toInt n)
  have hfamily : (Json.given d.fields).optional "family" familyOfJson? = some d.family :=
    d.optional_eq "family" (fun f : Family => .str f.key) rfl fun f _ =>
      congrArg (Option.map some) (familyOfJson?_key f)
  have hsources : (Json.given d.fields).optional "image_sources" Json.asStrings? =
      some d.imageSources :=
    d.optional_eq "image_sources" .strings rfl fun l _ =>
      congrArg (Option.map some) (Json.asStrings?_strings l)
  have hpercent : (Json.given d.fields).optional "img_strength_percent" Json.asUInt8? =
      some d.imageStrengthPercent :=
    d.optional_eq "img_strength_percent" (fun n : UInt8 => .int n.toNat) rfl fun n _ =>
      congrArg (Option.map some) (Json.asUInt8?_toNat n)
  have hstrength : (Json.given d.fields).optional "variation_strength" strengthOfJson? =
      some d.variationStrength :=
    d.optional_eq "variation_strength" (fun v : VariationStrength => .str v.key) rfl fun v _ =>
      congrArg (Option.map some) (strengthOfJson?_key v)
  have henhanced : (Json.given d.fields).optional "enhancer_used" Json.asBool? =
      some d.enhancerUsed :=
    d.optional_eq "enhancer_used" .bool rfl fun _ _ => rfl
  rw [ofJson?, toJson, Json.fieldsOf?_ofFields d.map_fst_fields nodup_fieldNames,
    Option.bind_eq_bind, Option.bind_some]
  rw [hid, htype, hseed, hfamily, hsources, hpercent, hstrength, henhanced,
    default_parametersUsed,
    d.optional_text "prompt" rfl, d.optional_text "original_prompt" rfl,
    d.optional_text "enhanced_prompt" rfl, d.optional_text "negative_prompt" rfl,
    d.optional_text "style" rfl, d.optional_text "selected_model" rfl,
    d.optional_text "model_used" rfl, d.optional_text "upscale_model" rfl,
    d.optional_text "aspect_ratio" rfl, d.optional_text "image_source" rfl,
    d.optional_text "source_job_id" rfl, d.optional_text "motion_profile" rfl,
    d.optional_text "animation_resolution" rfl, d.optional_text "animation_prompt" rfl,
    d.optional_text "enhancer_error" rfl, d.optional_text "style_warning" rfl,
    d.optional_text "model_warning" rfl, d.optional_text "inference_warning" rfl,
    d.optional_word "steps" rfl, d.optional_word "width" rfl, d.optional_word "height" rfl,
    d.optional_word "batch_size" rfl, d.optional_word "image_index" rfl,
    d.optional_word "animation_frames" rfl, d.optional_double "guidance" rfl (hfinite (by simp)),
    d.optional_double "denoise" rfl (hfinite (by simp)),
    d.optional_double "mp_size" rfl (hfinite (by simp)),
    d.optional_double "upscale_factor" rfl (hfinite (by simp))]
  rfl

/-- Nothing that follows a job reads its notes. -/
theorem compile_ofSource_canonical (f : JobRequest) (d : JobDetails) (c : JobContext)
    (reply : Option EnhancerReply) :
    (f.ofSource d.canonical).compile c reply = (f.ofSource d).compile c reply := by
  cases f <;> rfl

/-- A record with finite doubles is read back, with its notes in canonical form, which they keep
if they are in it. A follow-up of the record that is read ends as a follow-up of the record. -/
theorem record_round_trip (d : JobDetails) (hfinite : ∀ x ∈ d.doubles, Decimal.isFinite x) :
    ofJson? d.toJson = some d.canonical ∧
      ((∀ e ∈ d.parametersUsed.entries, e.2.canonical = e.2) → d.canonical = d) ∧
      ∀ (f : JobRequest) (c : JobContext) (reply : Option EnhancerReply) (stored : JobDetails),
        ofJson? d.toJson = some stored →
          CompileOutcome.of ((f.ofSource stored).compile c reply) =
            CompileOutcome.of ((f.ofSource d).compile c reply) := by
  refine ⟨ofJson?_toJson hfinite, fun hcanonical => ?_, fun f c reply stored hstored => ?_⟩
  · rw [canonical, Table.mapValues_id hcanonical]
  · rw [ofJson?_toJson hfinite] at hstored
    cases hstored
    rw [compile_ofSource_canonical]

/-- A record with fields of every kind, and some without a value. -/
def sampleRecord : JobDetails where
  jobId := "0000beef"
  jobType := .kontextEdit
  originalPrompt := some "a castle"
  seed := some (-1)
  steps := some 20
  guidance := some 2.5
  family := some .flux
  imageSources := some ["a.png", "b.png"]
  imageStrengthPercent := some 40
  variationStrength := some .strong
  enhancerUsed := some false
  parametersUsed := .ofList
    [("31.seed", .int (-1)), ("5.lora_1", .obj [("on", .bool true), ("strength", .float 0.5)])]

theorem record_round_trip_sample :
    (∀ x ∈ sampleRecord.doubles, Decimal.isFinite x) ∧
      (∀ e ∈ sampleRecord.parametersUsed.entries, e.2.canonical = e.2) ∧
      ofJson? sampleRecord.toJson = some sampleRecord ∧
      ∀ (f : JobRequest) (c : JobContext) (reply : Option EnhancerReply),
        CompileOutcome.of ((f.ofSource sampleRecord.canonical).compile c reply) =
          CompileOutcome.of ((f.ofSource sampleRecord).compile c reply) := by
  have hfinite : ∀ x ∈ sampleRecord.doubles, Decimal.isFinite x := by decide
  have hcanonical : ∀ e ∈ sampleRecord.parametersUsed.entries, e.2.canonical = e.2 := by
    intro e he
    have hmem := Table.mem_ofList he
    simp only [List.mem_cons, List.not_mem_nil, or_false] at hmem
    rcases hmem with rfl | rfl <;> rfl
  obtain ⟨hread, hkept, hfollow⟩ := record_round_trip sampleRecord hfinite
  refine ⟨hfinite, hcanonical, ?_, fun f c reply => hfollow f c reply _ hread⟩
  rw [hread, hkept hcanonical]

end JobDetails

end Renderflow
