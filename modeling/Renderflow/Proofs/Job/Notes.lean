import Renderflow.Proofs.Job.Ordinary

/-!
# The notes of a job

The notes in the record of a job against its graph: each of them tells what the graph holds,
and what the job changes in its template is noted.
-/

namespace Renderflow

namespace Graph

/-- What an entry of the notes tells: the value of an input, or the file of a replaced loader. -/
def Tells (g : Graph) (replaced : List String) (key : String) (j : Json) : Prop :=
  (∃ node input v, key = Binding.key node input ∧ g.value? node input = some v ∧ j = v.toJson) ∨
    ∃ loader file, loader ∈ replaced ∧ key = Binding.key loader "model" ∧
      g.fileNames loader = [.str file] ∧ j = .str file

variable {base g : Graph} {fs : List Footprint} {bs : List Binding} {b : Binding} {s : ModeSpec}
  {replaced : List String}

theorem Bound.tells_of_note (h : base.Bound g fs bs) (hb : b ∈ bs)
    (hordinary : b.Ordinary s replaced) {key : String} {j : Json} (hnote : b.note = some (key, j)) :
    g.Tells replaced key j := by
  cases hordinary with
  | plain hplain =>
    cases hplain with
    | set node input v =>
      obtain ⟨rfl, rfl⟩ := by simpa [Binding.set] using hnote
      exact .inl ⟨node, input, v, rfl, h.value?_of_binds (.of_set hb), rfl⟩
    | connect => cases hnote
  | slot => cases hnote
  | loader node filename n hnode hloads =>
    obtain ⟨rfl, rfl⟩ := by simpa [Binding.loader] using hnote
    exact .inr ⟨node, filename, hnode, rfl, h.fileNames_of_loader hloads hb, rfl⟩
  | unet node filename n hnode hunet =>
    obtain ⟨rfl, rfl⟩ := by simpa [Binding.loader] using hnote
    exact .inl ⟨node, "unet_name", .str filename, rfl,
      h.value?_of_binds ⟨_, hb, by simp [Binding.loader, Edit.written?, hunet]⟩, rfl⟩

/-- All entries of an input tell its value, unless its node is a replaced loader. -/
theorem Bound.json_of_note (h : base.Bound g fs bs) (hb : b ∈ bs)
    (hordinary : b.Ordinary s replaced) {node input : String} {j : Json} {v : Value}
    (hnote : b.note = some (Binding.key node input, j)) (hinput : '.' ∉ input.toList)
    (hnode : node ∉ replaced) (hv : g.value? node input = some v) : j = v.toJson := by
  cases hordinary with
  | plain hplain =>
    cases hplain with
    | set node' input' v' hinput' =>
      obtain ⟨hkey, rfl⟩ : Binding.key node' input' = Binding.key node input ∧ v'.toJson = j := by
        simpa [Binding.set, Binding.key] using hnote
      obtain ⟨rfl, rfl⟩ := Binding.key_inj hinput' hinput hkey
      rw [h.value?_of_binds (.of_set hb)] at hv
      rw [Option.some.inj hv]
    | connect => cases hnote
  | slot => cases hnote
  | loader node' filename n hnode' | unet node' filename n hnode' =>
    have hkey := congrArg Prod.fst (Option.some.inj hnote)
    obtain ⟨rfl, -⟩ := Binding.key_inj (by simp) hinput hkey
    exact absurd hnode' hnode

/-- The notes of ordinary bindings tell about the graph that is bound. -/
theorem Bound.tells (h : base.Bound g fs bs) (hordinary : ∀ b ∈ bs, b.Ordinary s replaced)
    {key : String} {j : Json}
    (hkey : (Table.ofList (bs.filterMap (·.note))).find? key = some j) :
    g.Tells replaced key j := by
  rw [Table.find?_ofList] at hkey
  obtain ⟨b, hb, hnote⟩ := List.mem_filterMap.1 (Table.mem_of_last? hkey)
  exact h.tells_of_note hb (hordinary b hb) hnote

/-- Ordinary bindings note what they write, but for connections, slots and replaced loaders. -/
theorem Bound.find?_notes (h : base.Bound g fs bs) (hordinary : ∀ b ∈ bs, b.Ordinary s replaced)
    {node input : String} (hwritten : ∃ b ∈ bs, b.edit.written? node input ≠ none)
    (hconnection : ∀ c, g.value? node input ≠ some (.link c))
    (hslot : ¬ (s.lora = some node ∧ input ∈ slotNames)) (hnode : node ∉ replaced) :
    ∃ v, g.value? node input = some v ∧
      (Table.ofList (bs.filterMap (·.note))).find? (Binding.key node input) = some v.toJson := by
  obtain ⟨b, hb, hwritten⟩ := hwritten
  obtain ⟨v, hv⟩ := Option.ne_none_iff_exists'.1 hwritten
  have hvalue := h.written b hb node input v hv
  rcases (hordinary b hb).note_of_written? hv hslot hnode with ⟨hinput, w, rfl, hnote⟩ | ⟨c, rfl⟩
  · obtain ⟨j, hj⟩ := Table.exists_last?_of_mem (List.mem_filterMap.2 ⟨b, hb, hnote⟩)
    obtain ⟨b', hb', hnote'⟩ := List.mem_filterMap.1 (Table.mem_of_last? hj)
    have hjson := h.json_of_note hb' (hordinary b' hb') hnote' hinput hnode hvalue
    exact ⟨w, hvalue, by rw [Table.find?_ofList, hj, hjson]⟩
  · exact absurd hvalue (hconnection c)

end Graph

namespace ModeSpec

/-- The nodes with which a Flux edit puts its images together. -/
def stitchNodes (s : ModeSpec) (family : Family) (images : Nat) : List String :=
  if s.mode = .edit ∧ family = .flux then (Stitch.nodes images).map Prod.fst else []

/-- The template of a Flux edit has one load node, which has a location and no other input. -/
theorem kontext_loaders : ∃ first, Template.Flux.kontext.node? "load_image_1" = some first ∧
    (∀ name, name ≠ "url_or_path" → Table.last? name first.inputs = none) ∧
    ∀ i ∈ [2, 3, 4], Template.Flux.kontext.node? (Stitch.loaderName i) = none := by
  refine ⟨_, rfl, fun name hname => ?_, by decide⟩
  simp [Table.last?, hname.symm]

theorem loaderName_fresh : ∀ images ≤ 4, ∀ i ∈ List.range' 2 (images - 1),
    Stitch.loaderName i ∉ (Stitch.nodes images).map Prod.fst ∧
      Stitch.loaderName i ≠ "image_resizer" ∧ i ∈ [2, 3, 4] := by
  decide

/-- What a Flux edit starts from is its template, but for the nodes that stitch the images, a
connection to them and the locations of the further images. -/
theorem Sound.value?_start_cases {s : ModeSpec} {images : Nat} {l start : Layout}
    (h : s.Sound .flux images l start) (hspec : modeSpec .flux .edit = .ok s) (himages : images ≤ 4)
    {node input : String} (hne : start.graph.value? node input ≠ l.graph.value? node input) :
    node ∈ (Stitch.nodes images).map Prod.fst ∨
      (∃ c, start.graph.value? node input = some (.link c)) ∨
      input = "url_or_path" ∧ ∃ i ∈ List.range' 2 (images - 1), node = Stitch.loaderName i := by
  obtain rfl : Catalog.Flux.edit = s := Except.ok.inj hspec
  obtain rfl : Template.Flux.kontext = l := Option.some.inj h.template
  obtain rfl := h.start_eq_stitch ⟨rfl, rfl⟩
  obtain ⟨first, hfirst, hinputs, hfresh⟩ := kontext_loaders
  obtain ⟨f, hf, hcovers⟩ : ∃ f ∈ Stitch.footprint images, f.Covers node input := by
    by_contra hout
    exact hne (Stitch.value?_layout fun f hf hcovers => hout ⟨f, hf, hcovers⟩)
  simp only [Stitch.footprint, List.mem_append, List.mem_map, List.mem_singleton] at hf
  rcases hf with (⟨i, hi, rfl⟩ | ⟨e, he, rfl⟩) | rfl
  · obtain rfl : node = Stitch.loaderName i := hcovers
    obtain ⟨hnodes, hresizer, hmem⟩ := loaderName_fresh images himages i hi
    by_cases hinput : input = "url_or_path"
    · exact .inr (.inr ⟨hinput, i, hi, rfl⟩)
    · refine absurd ?_ hne
      rw [Layout.value?_graph, Layout.value?_graph,
        Stitch.value?_layout_loader hfirst hi hnodes hresizer, hinputs input hinput,
        Layout.value?, hfresh i hmem, Option.bind_none]
  · exact .inl (List.mem_map.2 ⟨e, he, (hcovers : node = e.1).symm⟩)
  · obtain ⟨rfl, rfl⟩ : node = "image_resizer" ∧ input = "image" := hcovers
    have hmode : Catalog.Flux.edit.mode = .edit := rfl
    have hsuits := h.suits
    simp only [ModeSpec.suits, hmode, Bool.and_eq_true] at hsuits
    rw [Layout.value?_graph]
    exact .inr (.inl ⟨_, Stitch.value?_layout_resizer hfirst hsuits.1.2⟩)

end ModeSpec

/-- The notes of a job are faithful to its graph: each of them tells about it, and each input at
which the graph differs from the template is noted, but for connections, the slots of the LoRA
node, the inputs of replaced loaders and those of the nodes that stitch images. -/
structure Graph.NotedBy (g : Graph) (notes : Table Json) (template : Graph) (s : ModeSpec)
    (family : Family) (e : Extent) : Prop where
  tells : ∀ key j, notes.find? key = some j → g.Tells (s.replacedLoaders family e) key j
  noted : ∀ node input, g.value? node input ≠ template.value? node input →
    (∀ c, g.value? node input ≠ some (.link c)) → ¬ (s.lora = some node ∧ input ∈ slotNames) →
    node ∉ s.replacedLoaders family e → node ∉ s.stitchNodes family e.images →
    ∃ v, g.value? node input = some v ∧ notes.find? (Binding.key node input) = some v.toJson

/-- A Flux edit sets the location of each of its load nodes. -/
theorem EditRequest.FluxPlanned.exists_location {r : EditRequest} {c : JobContext} {p : Plan}
    (h : r.FluxPlanned c p) {i : Nat} (hi : i ∈ List.range' 1 r.images.length) :
    ∃ location, .set (Stitch.loaderName i) "url_or_path" location ∈ p.bindings := by
  obtain @⟨_, images, _, _, _, _, _, _, _, -, -, himages, -, -, -, -, -, -, -⟩ := h
  rw [← (r.validImages_delivers c).value images himages] at hi
  have hrange : List.range' 1 images.length = (images.zipIdx 1).map Prod.snd := by simp
  rw [hrange] at hi
  obtain ⟨e, he, rfl⟩ := List.mem_map.1 hi
  have hlocation : .set (Stitch.loaderName e.2) "url_or_path" (.str e.1) ∈
      Stitch.locationBindings images := List.mem_map_of_mem he
  exact ⟨.str e.1, by simp [hlocation]⟩

namespace JobRequest

variable {r : JobRequest} {c : JobContext} {reply : Option EnhancerReply}

theorem exists_fluxPlanned {p : Plan} (hp : r.plan c reply = .ok p) (hmode : r.mode = .edit)
    (hfamily : p.details.family = some .flux) : ∃ r', r = edit r' ∧ r'.FluxPlanned c p := by
  cases r with
  | generation r =>
    simp only [mode] at hmode
    split at hmode <;> cases hmode
  | variation r => cases hr : r.strength <;> simp [mode, hr, VariationStrength.mode] at hmode
  | upscale r => cases hmode
  | edit r =>
    rcases EditRequest.plan_eq_ok_iff.1 hp with ⟨-, hflux⟩ | ⟨-, hqwen⟩
    · exact ⟨r, rfl, hflux⟩
    · simp [hqwen.family_eq] at hfamily
  | animation r => cases hmode

/-- A compiled edit on Flux comes of a plan of one. -/
theorem exists_fluxPlanned_of_compile {r : EditRequest} {x : Compiled}
    (h : (edit r).compile c reply = .ok x) (hfamily : x.details.family = some .flux) :
    ∃ p notes, (edit r).plan c reply = .ok p ∧ r.FluxPlanned c p ∧ p.compile = .ok x ∧
      x.details = { p.details with parametersUsed := notes } := by
  obtain ⟨p, _, _, _, _, notes, hp, -, hx, hrecord⟩ := exists_plan_of_compile h
  have hplanned : p.details.family = some .flux := by rw [← hfamily, hrecord]
  obtain ⟨_, hr, hflux⟩ := exists_fluxPlanned hp rfl hplanned
  obtain rfl := edit.inj hr
  exact ⟨p, notes, hp, hflux, hx, hrecord⟩

/-- Where what a Flux edit starts from differs from its template, its notes tell about it, but
for the nodes that stitch the images and the connections. -/
theorem exists_written_of_start {p : Plan} (hp : r.plan c reply = .ok p) {family : Family}
    {s : ModeSpec} {l start : Layout} (h : p.Follows r.mode (r.extent c) family s l start)
    {bs : List Binding}
    (hbindings : p.bindings = s.stitchBindings family (r.extent c).images l.graph ++ bs)
    {node input : String} (hne : start.graph.value? node input ≠ l.graph.value? node input) :
    node ∈ s.stitchNodes family (r.extent c).images ∨
      (∃ conn, start.graph.value? node input = some (.link conn)) ∨
      ∃ b ∈ bs, b.edit.written? node input ≠ none := by
  have hmode : s.mode = r.mode := (mem_modes_of_modeSpec h.spec).2
  obtain ⟨hedit, rfl⟩ : s.mode = .edit ∧ family = .flux := by
    by_contra hstitch
    exact hne (by rw [h.sound.start_eq hstitch])
  have hspec := h.spec
  rw [← hmode, hedit] at hspec
  obtain ⟨r, rfl, hflux⟩ := exists_fluxPlanned hp (hmode.symm.trans hedit) h.ofFamily
  obtain ⟨hleast, hmost⟩ : 1 ≤ r.images.length ∧ r.images.length ≤ 4 := by
    obtain @⟨_, _, _, _, _, _, _, _, _, -, hcount, -, -, -, -, -, -, -, -⟩ := hflux
    exact EditRequest.checkCount_ok hcount
  rcases h.sound.value?_start_cases hspec hmost hne with hnode | hlink | ⟨rfl, i, hi, rfl⟩
  · exact .inl (by rw [ModeSpec.stitchNodes, if_pos ⟨hedit, rfl⟩]; exact hnode)
  · exact .inr (.inl hlink)
  · have hrange : i ∈ List.range' 1 r.images.length := by
      simp only [JobRequest.extent, List.mem_range'_1] at hi ⊢
      omega
    obtain ⟨location, hlocation⟩ := hflux.exists_location hrange
    rw [hbindings, List.mem_append] at hlocation
    rcases hlocation with hstitch | hbs
    · simpa [Binding.set] using ModeSpec.note_stitchBindings _ hstitch
    · exact .inr (.inr ⟨_, hbs, by simp [Binding.set, Edit.written?]⟩)

/-- What a plan sets is in the graph, and it is noted unless it is a slot of the LoRA node or a
replaced loader. -/
theorem value?_of_set {p : Plan} (hp : r.plan c reply = .ok p) {x : Compiled}
    (hx : p.compile = .ok x) {node input : String} {v : Value}
    (hmem : .set node input v ∈ p.bindings) :
    x.graph.value? node input = some v ∧
      ∀ family s, p.details.family = some family → modeSpec family r.mode = .ok s →
        (∀ conn, v ≠ .link conn) → ¬ (s.lora = some node ∧ input ∈ slotNames) →
        node ∉ s.replacedLoaders family (r.extent c) →
        x.details.parametersUsed.find? (Binding.key node input) = some v.toJson := by
  obtain ⟨family, s, l, start, hfollows⟩ := (r.plan_delivers c reply).value p hp
  obtain ⟨bs, hbindings, -, hbound, hnotes⟩ := hfollows.exists_bound hx
  have hbs : .set node input v ∈ bs := by
    rw [hbindings, List.mem_append] at hmem
    -- the stitching of a Flux edit notes nothing
    refine hmem.resolve_left fun hstitch => ?_
    simpa [Binding.set] using ModeSpec.note_stitchBindings _ hstitch
  have hvalue := hbound.value?_of_binds (.of_set hbs)
  refine ⟨hvalue, fun family' s' hfamily hspec hlink hslot hnode => ?_⟩
  obtain rfl : family = family' := Option.some.inj (hfollows.ofFamily.symm.trans hfamily)
  obtain rfl : s = s' := Except.ok.inj (hfollows.spec.symm.trans hspec)
  have hwritten : ∃ b ∈ bs, b.edit.written? node input ≠ none :=
    ⟨_, hbs, by simp [Binding.set, Edit.written?]⟩
  obtain ⟨w, hw, hnote⟩ := hbound.find?_notes (ordinary_of_plan hp hfollows hbindings) hwritten
    (fun conn hconn => hlink conn (Option.some.inj (hvalue.symm.trans hconn))) hslot hnode
  obtain rfl : v = w := Option.some.inj (hvalue.symm.trans hw)
  rw [hnotes, hnote]

/-- The notes of a compiled job are faithful to its graph. -/
theorem compile_notes {x : Compiled} (h : r.compile c reply = .ok x) :
    ∃ family s template, x.details.family = some family ∧ modeSpec family r.mode = .ok s ∧
      s.graph = .ok template ∧
      x.graph.NotedBy x.details.parametersUsed template s family (r.extent c) := by
  rw [compile_eq] at h
  obtain ⟨p, hp, hx⟩ := bind_eq_ok_iff.1 h
  obtain ⟨family, s, l, start, hfollows⟩ := (r.plan_delivers c reply).value p hp
  obtain ⟨bs, hbindings, happly, hbound, hnotes⟩ := hfollows.exists_bound hx
  have hordinary := ordinary_of_plan hp hfollows hbindings
  obtain ⟨d, -, rfl⟩ := Plan.compile_eq_ok_iff.1 hx
  refine ⟨family, s, l.graph, hfollows.ofFamily, hfollows.spec, hfollows.sound.graph,
    fun key j hkey => hbound.tells hordinary (hnotes ▸ hkey), ?_⟩
  intro node input hchanged hconnection hslot hnode hstitch
  rw [hnotes]
  refine hbound.find?_notes hordinary ?_ hconnection hslot hnode
  by_contra hnone
  have hkept : d.graph.value? node input = start.graph.value? node input := by
    refine Graph.value?_applyAll happly fun e he => ?_
    obtain ⟨b, hb, rfl⟩ := List.mem_map.1 he
    by_contra hwritten
    exact hnone ⟨b, hb, hwritten⟩
  rw [hkept] at hchanged hconnection
  rcases exists_written_of_start hp hfollows hbindings hchanged with hmem | ⟨conn, hconn⟩ | hwritten
  · exact hstitch hmem
  · exact hconnection conn hconn
  · exact hnone hwritten

/-- An edit of two images is compiled, and its notes are faithful. -/
theorem compile_notes_two_images :
    ∃ x, (edit { family := some .flux, images := ["a.png", "b.png"] }).compile sampleContext =
        .ok x ∧
      ∃ family s template, x.details.family = some family ∧ modeSpec family .edit = .ok s ∧
        s.graph = .ok template ∧
        x.graph.NotedBy x.details.parametersUsed template s family { images := 2 } := by
  obtain ⟨x, hx⟩ := exists_compile_of_plan
    (edit { family := some .flux, images := ["a.png", "b.png"] }) sampleContext none
    (by decide +kernel)
  exact ⟨x, hx, compile_notes hx⟩

end JobRequest

end Renderflow
