import Renderflow.Proofs.Job.Family
import Renderflow.Proofs.Job.Loaders
import Renderflow.Proofs.Job.Locations
import Renderflow.Proofs.Job.Notes

/-!
# The mosaic of an edit on Flux

An edit on Flux loads its images one node each and stitches what they load. Read from left to right,
the stitching shows every image once and in its order, but for the third of three images, which
fills the last place of the grid too.
-/

namespace Renderflow

/-! ## What a stitching shows -/

/-- What a node shows, image by image: a load node shows its own, and a stitching shows what its
first input does and then what its second does. -/
inductive Graph.Shows (g : Graph) : String → List String → Prop
  | load {id : String} {title : Option String}
    (hlabel : g.label? id = some ("LoadImageFromUrlOrPath", title)) : Shows g id [id]
  | stitch {id first second : String} {title : Option String} {xs ys : List String}
    (hlabel : g.label? id = some ("ImageStitch", title))
    (hfirst : g.link? id "image1" = some ⟨first, 0⟩)
    (hsecond : g.link? id "image2" = some ⟨second, 0⟩)
    (hxs : Shows g first xs) (hys : Shows g second ys) : Shows g id (xs ++ ys)

namespace Graph

variable {g g' : Graph} {id : String} {xs ys : List String}

/-- A node shows nothing else. -/
theorem Shows.eq (h : g.Shows id xs) (h' : g.Shows id ys) : xs = ys := by
  induction h generalizing ys with
  | load hlabel =>
    cases h' with
    | load => rfl
    | stitch hlabel' => simp [hlabel] at hlabel'
  | stitch hlabel hfirst hsecond _ _ ihfirst ihsecond =>
    cases h' with
    | load hlabel' => simp [hlabel] at hlabel'
    | stitch _ hfirst' hsecond' hxs' hys' =>
      obtain ⟨rfl, -⟩ := by simpa [hfirst] using hfirst'
      obtain ⟨rfl, -⟩ := by simpa [hsecond] using hsecond'
      rw [ihfirst hxs', ihsecond hys']

/-- The classes of the nodes that show images. -/
def imageClasses : List String :=
  ["LoadImageFromUrlOrPath", "ImageStitch"]

/-- What a node shows stays with the wiring and the nodes that show images. -/
theorem Shows.congr (h : g.Shows id xs) (hwiring : g.SameWiring g')
    (hlabels : ∀ id label, g.label? id = some label → label.1 ∈ imageClasses →
      g'.label? id = some label) : g'.Shows id xs := by
  induction h with
  | load hlabel => exact .load (hlabels _ _ hlabel (by simp [imageClasses]))
  | stitch hlabel hfirst hsecond _ _ ihfirst ihsecond =>
    exact .stitch (hlabels _ _ hlabel (by simp [imageClasses])) (by rw [hwiring.link?, hfirst])
      (by rw [hwiring.link?, hsecond]) ihfirst ihsecond

/-- The load nodes of a graph are the given ones. They feed the resizer, which feeds the node that
saves the result, and the resizer takes in what shows the given images. -/
structure Mosaic (g : Graph) (loaders shown : List String) (save : String) : Prop where
  loads : ∀ id, (∃ title, g.label? id = some ("LoadImageFromUrlOrPath", title)) ↔ id ∈ loaders
  upstream : ∀ id ∈ loaders, Relation.ReflTransGen g.Feeds id "image_resizer"
  saved : Relation.ReflTransGen g.Feeds "image_resizer" save
  shows : ∃ source, g.link? "image_resizer" "image" = some ⟨source, 0⟩ ∧
    ∀ names, g.Shows source names ↔ names = shown

end Graph

namespace Layout

section

attribute [local instance] Text.decideEq

/-- What a node shows, through so many stitchings at most. -/
def shown? (l : Layout) : Nat → String → Option (List String)
  | 0, _ => none
  | fuel + 1, id => do
    let n ← l.node? id
    if n.classType = "LoadImageFromUrlOrPath" then some [id]
    else if n.classType = "ImageStitch" then
      let first ← (l.value? id "image1").bind Value.link?
      let second ← (l.value? id "image2").bind Value.link?
      if first.output = 0 ∧ second.output = 0 then
        some ((← l.shown? fuel first.node) ++ (← l.shown? fuel second.node))
      else none
    else none

end

theorem shows_of_shown? {l : Layout} {fuel : Nat} {id : String} {names : List String}
    (h : l.shown? fuel id = some names) : l.graph.Shows id names := by
  induction fuel generalizing id names with
  | zero => cases h
  | succ fuel ih =>
    obtain ⟨n, hn, hnode⟩ := Option.bind_eq_some_iff.1 h
    have hlabel : l.graph.label? id = some (n.classType, some n.title) := by
      rw [label?_graph, hn]
      rfl
    split at hnode
    · next hload =>
      obtain rfl := Option.some.inj hnode
      exact .load (hload ▸ hlabel)
    · split at hnode
      · next hstitch =>
        obtain ⟨first, hfirst, hnode⟩ := Option.bind_eq_some_iff.1 hnode
        obtain ⟨second, hsecond, hnode⟩ := Option.bind_eq_some_iff.1 hnode
        split at hnode
        · next houtputs =>
          obtain ⟨xs, hxs, hnode⟩ := Option.bind_eq_some_iff.1 hnode
          obtain ⟨ys, hys, hnode⟩ := Option.bind_eq_some_iff.1 hnode
          obtain rfl := Option.some.inj hnode
          have hleft : l.graph.link? id "image1" = some ⟨first.node, 0⟩ := by
            rw [link?_graph, hfirst, ← houtputs.1]
          have hright : l.graph.link? id "image2" = some ⟨second.node, 0⟩ := by
            rw [link?_graph, hsecond, ← houtputs.2]
          exact .stitch (hstitch ▸ hlabel) hleft hright (ih hxs) (ih hys)
        · cases hnode
      · cases hnode

end Layout

/-! ## The stitched layouts -/

/-- The images of a mosaic from left to right: all in their order, and the third of three again. -/
def Stitch.order (count : Nat) : List String :=
  (List.range' 1 count).map loaderName ++ if count = 3 then [loaderName 3] else []

section

attribute [local instance] Text.decideEq

/-- Checks that an edit starts from a mosaic, and that its job replaces no node that shows an
image. -/
def ModeSpec.isMosaic (s : ModeSpec) (images : Nat) : Bool :=
  (s.layout? .flux images).any fun l =>
    let loaders := (List.range' 1 images).map Stitch.loaderName
    l.all (fun e => e.2.classType ≠ "LoadImageFromUrlOrPath" || e.1 ∈ loaders) &&
      loaders.all (fun id =>
        ((l.node? id).any fun n => n.classType = "LoadImageFromUrlOrPath") &&
          id ∈ l.upstream 3 "image_resizer") &&
      "image_resizer" ∈ l.upstream 6 s.save &&
      ((l.value? "image_resizer" "image").bind Value.link?).any (fun c =>
        c.output = 0 && l.shown? 3 c.node = some (Stitch.order images)) &&
      l.all fun e => e.2.classType ∉ Graph.imageClasses ||
        (s.footprint .flux { images }).all fun f => !decide (f.CoversNode e.1)

theorem edit_isMosaic : ∀ images ∈ [1, 2, 3, 4], Catalog.Flux.edit.isMosaic images := by
  decide

end

/-- What an edit starts from is a mosaic of its images, and its job replaces no node of it that
shows an image. -/
theorem ModeSpec.Sound.mosaic {s : ModeSpec} {images : Nat} {l start : Layout}
    (h : s.Sound .flux images l start) (hcheck : s.isMosaic images) :
    start.graph.Mosaic ((List.range' 1 images).map Stitch.loaderName) (Stitch.order images)
        s.save ∧
      ∀ id label, start.graph.label? id = some label → label.1 ∈ Graph.imageClasses →
        ∀ f ∈ s.footprint .flux { images }, ¬ f.CoversNode id := by
  simp only [isMosaic, h.start, Option.any_some, Bool.and_eq_true, List.all_eq_true,
    Bool.or_eq_true, decide_eq_true_eq, Bool.not_eq_true', decide_eq_false_iff_not,
    Option.any_eq_true] at hcheck
  obtain ⟨⟨⟨⟨hloads, hloaders⟩, hsaved⟩, source, hsource, houtput, hshown⟩, hkept⟩ := hcheck
  have hnode {id : String} {label : String × Option String}
      (hlabel : start.graph.label? id = some label) :
      ∃ n, (id, n) ∈ start ∧ n.classType = label.1 := by
    rw [Layout.label?_graph] at hlabel
    obtain ⟨n, hn, rfl⟩ := Option.map_eq_some_iff.1 hlabel
    exact ⟨n, Table.mem_of_last? hn, rfl⟩
  refine ⟨⟨fun id => ⟨?_, fun hid => ?_⟩, fun id hid => ?_, ?_, source.node, ?_, fun names => ?_⟩,
    fun id label hlabel hclass f hf => ?_⟩
  · rintro ⟨title, hlabel⟩
    obtain ⟨n, hn, hclass⟩ := hnode hlabel
    exact (hloads (id, n) hn).resolve_left (not_not_intro hclass)
  · obtain ⟨n, hn, hclass⟩ := (hloaders id hid).1
    exact ⟨n.title, by rw [Layout.label?_graph, hn, ← hclass]; rfl⟩
  · exact Layout.reflTransGen_of_mem_upstream (hloaders id hid).2
  · exact Layout.reflTransGen_of_mem_upstream hsaved
  · rw [Layout.link?_graph, hsource, ← houtput]
  · have hshows := Layout.shows_of_shown? hshown
    exact ⟨fun hnames => hnames.eq hshows, fun hnames => hnames ▸ hshows⟩
  · obtain ⟨n, hn, hsame⟩ := hnode hlabel
    exact (hkept (id, n) hn).resolve_left (not_not_intro (hsame ▸ hclass)) f hf

namespace Graph

variable {g g' : Graph} {loaders shown : List String} {save : String}

/-- A mosaic stays one with the wiring and the nodes that show images. -/
theorem Mosaic.congr (h : g.Mosaic loaders shown save) (hwiring : g.SameWiring g')
    (hlabels : ∀ id label, g.label? id = some label → label.1 ∈ imageClasses →
      g'.label? id = some label)
    (hloads : ∀ id title, g'.label? id = some ("LoadImageFromUrlOrPath", title) →
      ∃ title', g.label? id = some ("LoadImageFromUrlOrPath", title')) :
    g'.Mosaic loaders shown save := by
  obtain ⟨source, hsource, hshows⟩ := h.shows
  refine ⟨fun id => ⟨?_, fun hid => ?_⟩, ?_, ?_, source, ?_, fun names => ?_⟩
  · rintro ⟨title, hlabel⟩
    exact (h.loads id).1 (hloads id title hlabel)
  · obtain ⟨title, hlabel⟩ := (h.loads id).2 hid
    exact ⟨title, hlabels id _ hlabel (by simp [imageClasses])⟩
  · rw [hwiring.feeds]
    exact h.upstream
  · rw [hwiring.feeds]
    exact h.saved
  · rw [hwiring.link?, hsource]
  · have hkept := ((hshows shown).2 rfl).congr hwiring hlabels
    exact ⟨fun hnames => hnames.eq hkept, fun hnames => hnames ▸ hkept⟩

end Graph

namespace JobRequest

variable {r : EditRequest} {c : JobContext} {reply : Option EnhancerReply} {x : Compiled}

/-- An edit on Flux records the trimmed locations of its one to four images. -/
theorem imageSources_of_compile (h : (edit r).compile c reply = .ok x)
    (hfamily : x.details.family = some .flux) :
    1 ≤ r.images.length ∧ r.images.length ≤ 4 ∧
      x.details.imageSources = some (r.images.map Text.trim) := by
  obtain ⟨p, notes, -, hflux, -, hrecord⟩ := exists_fluxPlanned_of_compile h hfamily
  obtain @⟨_, images, _, _, _, _, _, _, _, -, hcount, himages, -, -, -, -, -, -, -⟩ := hflux
  obtain ⟨hleast, hmost⟩ := EditRequest.checkCount_ok hcount
  refine ⟨hleast, hmost, ?_⟩
  rw [hrecord]
  exact congrArg some (EditRequest.validImages_eq himages)

/-- A compiled edit on Flux of one to four images is a mosaic of what it loads. Each load node has
the trimmed location of its image, and the record tells the locations in the same order. -/
theorem compile_mosaic (h : (edit r).compile c reply = .ok x)
    (hfamily : x.details.family = some .flux) :
    ∃ s, modeSpec .flux .edit = .ok s ∧ 1 ≤ r.images.length ∧ r.images.length ≤ 4 ∧
      x.graph.Mosaic ((List.range' 1 r.images.length).map Stitch.loaderName)
        (Stitch.order r.images.length) s.save ∧
      (∀ (k : Nat) (hk : k < r.images.length),
        x.graph.value? (Stitch.loaderName (k + 1)) "url_or_path" =
          some (.str (Text.trim r.images[k]))) ∧
      x.details.imageSources = some (r.images.map Text.trim) := by
  obtain ⟨hleast, hmost, hsources⟩ := imageSources_of_compile h hfamily
  obtain ⟨family, s, l, start, hconforms⟩ := ((edit r).compile_delivers c reply).value x h
  obtain rfl : family = .flux := Option.some.inj (hconforms.ofFamily.symm.trans hfamily)
  obtain ⟨bs, hbound⟩ := hconforms.bound
  obtain rfl : s = Catalog.Flux.edit := (Except.ok.inj hconforms.spec).symm
  obtain ⟨hmosaic, hkept⟩ := hconforms.sound.mosaic (edit_isMosaic r.images.length (by
    simp only [List.mem_cons, List.not_mem_nil, or_false]
    omega))
  -- the job may replace loaders of models alone, so that its load nodes are those of the start
  refine ⟨_, rfl, hleast, hmost, ?_, fun k hk => ?_, hsources⟩
  · refine hmosaic.congr hbound.wiring (fun id label hlabel hclass => ?_) fun id title hlabel =>
      label?_start_of_compile h hfamily hconforms.spec hconforms.sound rfl hlabel
    rw [← hlabel]
    refine hbound.label? id fun f hf => hkept id label hlabel hclass f ?_
    exact (ModeSpec.footprint_sublist _ .flux _).subset hf
  · have hlocation := congrArg (·[k]?) hconforms.reports.images.sources
    rw [ModeSpec.loadNodes, if_pos ⟨rfl, rfl⟩, JobDetails.sources, hsources] at hlocation
    simpa [extent, hk, Nat.add_comm] using hlocation

/-- An edit of three images, one of which is given with blanks around it. -/
def threeImages : EditRequest :=
  { family := some .flux, images := ["a.png", " b.png ", "a.png"] }

/-- The grid of three images shows the last one twice. -/
theorem compile_mosaic_three_images :
    ∃ x, (edit threeImages).compile sampleContext = .ok x ∧
      x.graph.Mosaic ["load_image_1", "load_image_2", "load_image_3"]
        ["load_image_1", "load_image_2", "load_image_3", "load_image_3"] "save_image" ∧
      x.graph.value? "load_image_1" "url_or_path" = some (.str "a.png") ∧
      x.graph.value? "load_image_2" "url_or_path" = some (.str "b.png") ∧
      x.graph.value? "load_image_3" "url_or_path" = some (.str "a.png") ∧
      x.details.imageSources = some ["a.png", "b.png", "a.png"] := by
  obtain ⟨x, hx⟩ := exists_compile_of_plan (edit threeImages) sampleContext none
    (by decide)
  have hflux : x.details.family = some .flux := family_of_compile (by decide) hx
  obtain ⟨s, hspec, -, -, hmosaic, hlocation, hsources⟩ := compile_mosaic hx hflux
  obtain rfl : Catalog.Flux.edit = s := Except.ok.inj hspec
  have hnames : (List.range' 1 3).map Stitch.loaderName =
      ["load_image_1", "load_image_2", "load_image_3"] := by decide
  have htrimmed : threeImages.images.map Text.trim = ["a.png", "b.png", "a.png"] := by
    decide
  have hbound : ∀ (k : Nat) (hk : k < threeImages.images.length) (id location : String),
      Stitch.loaderName (k + 1) = id → Text.trim threeImages.images[k] = location →
        x.graph.value? id "url_or_path" = some (.str location) := by
    rintro k hk id location rfl rfl
    exact hlocation k hk
  rw [htrimmed] at hsources
  rw [show threeImages.images.length = 3 from rfl, Stitch.order, hnames] at hmosaic
  exact ⟨x, hx, hmosaic, hbound 0 (by decide) _ _ (by decide) (by decide),
    hbound 1 (by decide) _ _ (by decide) (by decide),
    hbound 2 (by decide) _ _ (by decide) (by decide), hsources⟩

end JobRequest

end Renderflow
