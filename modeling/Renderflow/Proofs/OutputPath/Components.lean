import Renderflow.Proofs.OutputPath
import Renderflow.Proofs.Text.Split
import Mathlib.Data.List.DropRight

/-!
# Components of paths

A path is taken apart at its separators, of either kind, and runs of them count as one. It is
rooted if it begins with a separator. Normalization keeps both, so the files of a job are in the
directory that is configured for them.
-/

namespace Renderflow

namespace OutputPath

/-- The runs of characters between separators. -/
def components (cs : List Char) : List (List Char) :=
  (Text.splitBy isSeparator cs).filter (!·.isEmpty)

/-- A path that begins with a separator. -/
def isRooted (cs : List Char) : Bool :=
  cs.head?.any isSeparator

/-- A path that begins with two separators, as that of a network share does. -/
def isShare (cs : List Char) : Bool :=
  isRooted cs && isRooted cs.tail

theorem components_append_cons {c : Char} (hc : isSeparator c) (cs ds : List Char) :
    components (cs ++ c :: ds) = components cs ++ components ds := by
  rw [components, Text.splitBy_append_cons hc, List.filter_append]
  rfl

theorem components_eq_nil_iff {cs : List Char} :
    components cs = [] ↔ ∀ c ∈ cs, isSeparator c := by
  induction cs with
  | nil => simp [components, Text.splitBy]
  | cons c cs ih =>
    by_cases hc : isSeparator c
    · rw [← List.nil_append (c :: cs), components_append_cons hc]
      simpa [components, Text.splitBy, hc] using ih
    · obtain ⟨run, runs, hruns⟩ := List.exists_cons_of_ne_nil (Text.splitBy_ne_nil isSeparator cs)
      simp [components, Text.splitBy, hc, hruns]

/-! ## Normalization -/

theorem isSeparator_forward (c : Char) : isSeparator (forward c) = isSeparator c := by
  unfold forward
  split
  next h => simp [h, isSeparator]
  next => rfl

theorem forward_eq_slash_iff {c : Char} : forward c = '/' ↔ isSeparator c := by
  unfold forward isSeparator
  by_cases h : c = '\\' <;> simp [h]

theorem components_map_forward (cs : List Char) : components (cs.map forward) = components cs := by
  have hforward : ∀ c ∈ cs, forward c = c ∨ isSeparator (forward c) ∧ isSeparator c := by
    intro c _
    by_cases hc : isSeparator c
    · exact .inr ⟨(isSeparator_forward c).trans hc, hc⟩
    · exact .inl (forward_of_not_isSeparator (Bool.eq_false_iff.2 hc))
  rw [components, components,
    Text.splitBy_congr (List.forall₂_map_left_iff.2 (List.forall₂_same.2 hforward))]

theorem components_append_collapse (pre cs : List Char) :
    components (pre ++ collapse cs) = components (pre ++ cs) := by
  have hslash : isSeparator '/' := by decide
  -- for every beginning, since that decides whether the next character begins a component
  induction cs using collapse.induct generalizing pre with
  | case1 => rfl
  | case2 rest ih =>
    rw [collapse, ih, components_append_cons hslash, components_append_cons hslash,
      ← List.nil_append ('/' :: rest), components_append_cons hslash]
    rfl
  | case3 c rest h ih =>
    rw [collapse]
    · simpa using ih (pre ++ [c])
    · exact h

theorem components_normalizeChars (cs : List Char) :
    components (normalizeChars cs) = components cs := by
  unfold normalizeChars
  split
  next rest => exact components_append_collapse ['/', '/'] rest
  next => exact components_append_collapse [] cs

theorem components_normalize (path : String) :
    components (normalize path).toList = components path.toList := by
  rw [normalize, String.toList_ofList, components_normalizeChars, components_map_forward]

theorem head?_normalizeChars (cs : List Char) : (normalizeChars cs).head? = cs.head? := by
  unfold normalizeChars
  split
  · rfl
  · exact head?_collapse cs

theorem isRooted_map_forward (cs : List Char) : isRooted (cs.map forward) = isRooted cs := by
  cases cs <;> simp [isRooted, isSeparator_forward]

theorem isRooted_normalize (path : String) :
    isRooted (normalize path).toList = isRooted path.toList := by
  rw [normalize, String.toList_ofList, isRooted, head?_normalizeChars, ← isRooted,
    isRooted_map_forward]

theorem collapse_sublist (cs : List Char) : (collapse cs).Sublist cs := by
  induction cs using collapse.induct with
  | case1 => exact .slnil
  | case2 rest ih =>
    rw [collapse]
    exact ih.cons '/'
  | case3 c rest h ih =>
    rw [collapse]
    · exact ih.cons_cons c
    · exact h

/-- Among forward slashes, a path begins with two separators if it begins with two slashes. -/
theorem isShare_iff {cs : List Char} (hcs : ∀ c ∈ cs, isSeparator c → c = '/') :
    isShare cs ↔ ∃ rest, cs = '/' :: '/' :: rest := by
  constructor
  · intro h
    match cs with
    | [] | [_] => simp [isShare, isRooted] at h
    | c :: d :: rest =>
      obtain ⟨hc, hd⟩ : isSeparator c ∧ isSeparator d := by simpa [isShare, isRooted] using h
      exact ⟨rest, by rw [hcs c (by simp) hc, hcs d (by simp) hd]⟩
  · rintro ⟨rest, rfl⟩
    rfl

theorem isShare_normalizeChars {cs : List Char} (hcs : ∀ c ∈ cs, isSeparator c → c = '/') :
    isShare (normalizeChars cs) = isShare cs := by
  unfold normalizeChars
  split
  · rfl
  · next hne =>
    have hcollapse : ∀ c ∈ collapse cs, isSeparator c → c = '/' :=
      fun c hc => hcs c ((collapse_sublist cs).subset hc)
    rw [Bool.eq_iff_iff, isShare_iff hcs, isShare_iff hcollapse]
    refine iff_of_false ?_ fun ⟨rest, hrest⟩ => hne rest hrest
    exact fun ⟨rest, hrest⟩ => collapse_ne cs [] rest hrest

theorem isShare_map_forward (cs : List Char) : isShare (cs.map forward) = isShare cs := by
  rw [isShare, ← List.map_tail, isRooted_map_forward, isRooted_map_forward, isShare]

theorem isShare_normalize (path : String) :
    isShare (normalize path).toList = isShare path.toList := by
  rw [normalize, String.toList_ofList, isShare_normalizeChars, isShare_map_forward]
  simp only [List.forall_mem_map, isSeparator_forward]
  exact fun c _ hc => forward_eq_slash_iff.2 hc

/-! ## Files in a directory -/

/-- Two paths with the same components that begin alike. -/
structure SamePlace (cs ds : List Char) : Prop where
  components : components cs = components ds
  rooted : isRooted cs = isRooted ds
  share : isShare cs = isShare ds

theorem SamePlace.trans {cs ds es : List Char} (h : SamePlace cs ds) (h' : SamePlace ds es) :
    SamePlace cs es :=
  ⟨h.components.trans h'.components, h.rooted.trans h'.rooted, h.share.trans h'.share⟩

theorem samePlace_normalize (path : String) : SamePlace (normalize path).toList path.toList :=
  ⟨components_normalize path, isRooted_normalize path, isShare_normalize path⟩

/-- The separators after the last character of a path that is none do not count. -/
theorem samePlace_append (cs : List Char) {b : Char} (hb : isSeparator b = false)
    {tail : List Char} (htail : ∀ c ∈ tail, isSeparator c) :
    SamePlace (cs ++ [b]) (cs ++ b :: tail) where
  components := by
    cases tail with
    | nil => rfl
    | cons t tail =>
      have hnil := components_eq_nil_iff.2 fun c hc => htail c (List.mem_cons_of_mem t hc)
      rw [List.append_cons cs b (t :: tail), components_append_cons (htail t List.mem_cons_self),
        hnil, List.append_nil]
  rooted := by cases cs <;> rfl
  share := by
    match cs with
    | [] => simp [isShare, isRooted, hb]
    | [c] => rfl
    | c :: d :: cs => rfl

theorem toList_directory (dir : String) :
    (directory dir).toList = (Text.trim dir).toList.rdropWhile isSeparator := by
  rw [directory, String.toList_ofList, List.rdropWhile]

/-- A directory with components ends in one of them and is the place that is configured. -/
theorem exists_directory {dir : String} (h : components (Text.trim dir).toList ≠ []) :
    (∃ cs b, (directory dir).toList = cs ++ [b] ∧ isSeparator b = false) ∧
      SamePlace (directory dir).toList (Text.trim dir).toList := by
  have hne : (Text.trim dir).toList.rdropWhile isSeparator ≠ [] := fun hnil =>
    h (components_eq_nil_iff.2 (List.rdropWhile_eq_nil_iff.1 hnil))
  have hlast := List.rdropWhile_last_not isSeparator _ hne
  obtain ⟨cs, b, hcs⟩ : ∃ cs b, (Text.trim dir).toList.rdropWhile isSeparator = cs ++ [b] :=
    ⟨_, _, (List.dropLast_append_getLast hne).symm⟩
  have hb : isSeparator b = false := by simpa [hcs] using hlast
  rw [toList_directory, hcs]
  refine ⟨⟨cs, b, rfl, hb⟩, ?_⟩
  have hdir := List.rdropWhile_append_rtakeWhile (p := isSeparator) (l := (Text.trim dir).toList)
  rw [hcs, ← List.append_cons] at hdir
  rw [← hdir]
  exact samePlace_append cs hb fun c hc => List.mem_rtakeWhile_imp hc

/-- A directory without components is none. -/
theorem directory_eq_empty {dir : String} (h : components (Text.trim dir).toList = []) :
    directory dir = "" := by
  rw [← String.toList_inj, toList_directory]
  exact List.rdropWhile_eq_nil_iff.2 (components_eq_nil_iff.1 h)

theorem normalizeChars_append_slash {cs ds : List Char} {b : Char}
    (hcs : cs.getLast? = some b) (hb : b ≠ '/') (hds : ds.head? ≠ some '/') :
    normalizeChars (cs ++ '/' :: ds) = normalizeChars cs ++ '/' :: normalizeChars ds := by
  have hslash : collapse ('/' :: ds) = '/' :: collapse ds :=
    @collapse_append ['/'] ds fun h => absurd h hds
  have hname : normalizeChars ds = collapse ds :=
    @normalizeChars_append [] ds fun h => absurd h hds
  rw [normalizeChars_append fun _ => ⟨b, hcs, hb⟩, hslash, hname]

/-- A directory that ends in a component and a name that begins with one are normalized apart. -/
theorem normalize_join {dir name : String} {cs : List Char} {b : Char}
    (hdir : dir.toList = cs ++ [b]) (hb : isSeparator b = false)
    (hname : isRooted name.toList = false) :
    normalize (dir ++ "/" ++ name) = normalize dir ++ "/" ++ normalize name := by
  have hlast : (dir.toList.map forward).getLast? = some b := by
    simp [hdir, forward_of_not_isSeparator hb]
  have hslash : b ≠ '/' := by
    rintro rfl
    simp [isSeparator] at hb
  have hhead : (name.toList.map forward).head? ≠ some '/' := by
    rw [← isRooted_map_forward] at hname
    intro hhead
    simp [isRooted, hhead, isSeparator] at hname
  apply String.toList_inj.1
  simpa [normalize, forward] using normalizeChars_append_slash hlast hslash hhead

theorem normalize_eq_self {path : String} (h : ∀ c ∈ path.toList, isSeparator c = false) :
    normalize path = path := by
  have hslash := notMem_of_not_isSeparator h
  rw [normalize, map_forward_of_not_isSeparator h, normalizeChars_eq_collapse,
    collapse_of_notMem hslash, String.ofList_toList]
  rintro rest hrest
  exact hslash (by simp [hrest])

/-! ## Names of files -/

section

variable {kind jobId : String} (hkind : ∀ c ∈ kind.toList, isSeparator c = false)
  (hid : ∀ c ∈ jobId.toList, isSeparator c = false)

/-- A name is its kind and the id of its job, and what its suffix adds. -/
theorem fileName_eq (kind : String) (suffix : Option String) :
    ∃ tail, (∀ jobId, fileName kind jobId suffix = kind ++ "_" ++ jobId ++ tail) ∧
      (tail = "" ∨ ∃ s, suffix = some s ∧ tail = "_" ++ s) := by
  unfold fileName
  cases suffix with
  | none => exact ⟨"", by simp⟩
  | some s =>
    by_cases hs : s.isEmpty
    · exact ⟨"", by simp [hs]⟩
    · exact ⟨"_" ++ s, by simp [hs, String.append_assoc]⟩

/-- A part of a path without separators is left as it is, and parts the path where it stands. -/
theorem normalize_around {name tail : String} (hname : ∀ c ∈ name.toList, isSeparator c = false)
    (htail : (tail.toList.map forward).head? ≠ some '/') (start : String) :
    normalize (start ++ (name ++ tail)) =
      normalize start ++ name ++ String.ofList (collapse (tail.toList.map forward)) := by
  have hslash := notMem_of_not_isSeparator hname
  -- without the name, what follows it begins with no slash either
  have hhead : (name.toList ++ tail.toList.map forward).head? ≠ some '/' := by
    cases hcs : name.toList with
    | nil => exact htail
    | cons c cs => simpa using fun hc => hslash (by simp [hcs, hc])
  simp only [normalize, String.toList_append, List.map_append,
    map_forward_of_not_isSeparator hname, String.append_assoc]
  rw [normalizeChars_append fun h => absurd h hhead, collapse_append fun h => absurd h htail,
    collapse_of_notMem hslash, String.ofList_append, String.ofList_append, String.ofList_toList]

/-- The path of the files of a job holds the id of the job and depends on no more of it. -/
theorem exists_stem_eq_around (dir kind : String) (suffix : Option String) : ∃ head tail,
    ∀ id : String, (∀ c ∈ id.toList, isSeparator c = false) →
      stem dir kind id suffix = head ++ id ++ tail := by
  obtain ⟨tail, hname, htail⟩ := fileName_eq kind suffix
  have hhead : (tail.toList.map forward).head? ≠ some '/' := by
    rcases htail with rfl | ⟨s, -, rfl⟩ <;> simp [forward]
  refine ⟨normalize ((if (directory dir).isEmpty then "" else directory dir ++ "/") ++ kind ++ "_"),
    String.ofList (collapse (tail.toList.map forward)), fun id hid => ?_⟩
  have hpath : (if (directory dir).isEmpty then fileName kind id suffix
      else directory dir ++ "/" ++ fileName kind id suffix) =
      (if (directory dir).isEmpty then "" else directory dir ++ "/") ++ kind ++ "_" ++
        (id ++ tail) := by
    rw [hname]
    split <;> simp [String.append_assoc]
  rw [stem, hpath, normalize_around hid hhead]

include hkind hid

theorem not_isSeparator_of_mem_start :
    ∀ c ∈ (kind ++ "_" ++ jobId).toList, isSeparator c = false := by
  simp only [String.toList_append, List.forall_mem_append]
  exact ⟨⟨hkind, by simp [isSeparator]⟩, hid⟩

theorem isRooted_fileName (suffix : Option String) :
    isRooted (fileName kind jobId suffix).toList = false := by
  obtain ⟨tail, htail, -⟩ := fileName_eq kind suffix
  have hstart := not_isSeparator_of_mem_start hkind hid
  rw [htail, String.toList_append]
  cases hcs : (kind ++ "_" ++ jobId).toList with
  | nil => simp at hcs
  | cons c cs => simpa [isRooted] using hstart c (by simp [hcs])

/-- The name of the files of a job begins with its kind and its id, whatever its suffix is. -/
theorem exists_normalize_fileName (suffix : Option String) :
    ∃ tail, normalize (fileName kind jobId suffix) = kind ++ "_" ++ jobId ++ tail := by
  obtain ⟨tail, htail, hsuffix⟩ := fileName_eq kind suffix
  have hstart := not_isSeparator_of_mem_start hkind hid
  have hhead : (tail.toList.map forward).head? ≠ some '/' := by
    rcases hsuffix with rfl | ⟨s, -, rfl⟩ <;> simp [forward]
  refine ⟨String.ofList (collapse (tail.toList.map forward)), ?_⟩
  rw [htail, normalize, String.toList_append, List.map_append,
    normalizeChars_append fun h => absurd h hhead, String.ofList_append]
  congr 1
  exact normalize_eq_self hstart

theorem not_isSeparator_of_mem_fileName {suffix : Option String}
    (hsuffix : ∀ s, suffix = some s → ∀ c ∈ s.toList, isSeparator c = false) :
    ∀ c ∈ (fileName kind jobId suffix).toList, isSeparator c = false := by
  obtain ⟨tail, htail, hcases⟩ := fileName_eq kind suffix
  rw [htail, String.toList_append, List.forall_mem_append]
  refine ⟨not_isSeparator_of_mem_start hkind hid, ?_⟩
  rcases hcases with rfl | ⟨s, hs, rfl⟩
  · simp
  · rw [String.toList_append, List.forall_mem_append]
    exact ⟨by simp [isSeparator], hsuffix s hs⟩

/-- The files of a job are in the place that is configured for them. -/
theorem exists_stem_eq_join {dir : String} (hdir : components (Text.trim dir).toList ≠ [])
    (suffix : Option String) :
    ∃ place, stem dir kind jobId suffix = place ++ "/" ++ normalize (fileName kind jobId suffix) ∧
      SamePlace place.toList (Text.trim dir).toList := by
  obtain ⟨⟨cs, b, hcs, hb⟩, hplace⟩ := exists_directory hdir
  have hne : (directory dir).isEmpty = false := by
    rw [Bool.eq_false_iff]
    intro hempty
    rw [String.isEmpty_iff] at hempty
    simp [hempty] at hcs
  refine ⟨normalize (directory dir), ?_, (samePlace_normalize _).trans hplace⟩
  rw [← normalize_join hcs hb (isRooted_fileName hkind hid suffix)]
  simp [stem, hne]

end

/-- Without a place the files have their name alone. -/
theorem stem_eq_name {dir : String} (hdir : components (Text.trim dir).toList = [])
    (kind jobId : String) (suffix : Option String) :
    stem dir kind jobId suffix = normalize (fileName kind jobId suffix) := by
  simp [stem, directory_eq_empty hdir]

end OutputPath

end Renderflow
