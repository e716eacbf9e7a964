import Renderflow.Proofs.OutputPath.Components

/-!
# Normal forms of paths

A normalized path is normalized once and for all, and it has the components of the path and begins
and ends as the path does. Of its runs of slashes only the one that it begins with can be of more
than one slash: of up to three, since the two slashes of a share are set aside before the run after
them is collapsed.
-/

namespace Renderflow.OutputPath

/-! ## Fixed points -/

/-- A path that ends with a separator. -/
def isClosed (cs : List Char) : Bool :=
  cs.getLast?.any isSeparator

theorem collapse_eq_self {cs : List Char} (h : ∀ pre post, cs ≠ pre ++ '/' :: '/' :: post) :
    collapse cs = cs := by
  induction cs using collapse.induct with
  | case1 => rfl
  | case2 rest => exact absurd rfl (h [] rest)
  | case3 c rest hc ih =>
    rw [collapse, ih]
    · exact fun pre post heq => h (c :: pre) post (by rw [heq, List.cons_append])
    · exact hc

theorem collapse_collapse (cs : List Char) : collapse (collapse cs) = collapse cs :=
  collapse_eq_self (collapse_ne cs)

theorem normalizeChars_normalizeChars (cs : List Char) :
    normalizeChars (normalizeChars cs) = normalizeChars cs := by
  by_cases hshare : ∃ rest, cs = '/' :: '/' :: rest
  · obtain ⟨rest, rfl⟩ := hshare
    simp only [normalizeChars, collapse_collapse]
  · rw [normalizeChars_eq_collapse fun rest heq => hshare ⟨rest, heq⟩,
      normalizeChars_eq_collapse (collapse_ne cs []), collapse_collapse]

theorem normalizeChars_sublist (cs : List Char) : (normalizeChars cs).Sublist cs := by
  unfold normalizeChars
  split
  next rest => exact ((collapse_sublist rest).cons_cons '/').cons_cons '/'
  next => exact collapse_sublist cs

theorem forward_ne (c : Char) : forward c ≠ '\\' := by
  unfold forward
  split
  next => decide
  next h => exact h

theorem backslash_notMem_normalize (path : String) : '\\' ∉ (normalize path).toList := by
  intro hmem
  rw [normalize, String.toList_ofList] at hmem
  obtain ⟨c, -, hc⟩ := List.mem_map.1 ((normalizeChars_sublist _).subset hmem)
  exact forward_ne c hc

theorem forward_of_ne {c : Char} (h : c ≠ '\\') : forward c = c :=
  if_neg h

theorem normalize_normalize (path : String) : normalize (normalize path) = normalize path := by
  have hforward : (normalize path).toList.map forward = (normalize path).toList := by
    refine (List.map_congr_left fun c hc => forward_of_ne ?_).trans (List.map_id _)
    rintro rfl
    exact backslash_notMem_normalize path hc
  rw [normalize, hforward, normalize, String.toList_ofList, normalizeChars_normalizeChars]

theorem getLast?_collapse (cs : List Char) : (collapse cs).getLast? = cs.getLast? := by
  induction cs using collapse.induct with
  | case1 => rfl
  | case2 rest ih => rw [collapse, ih, List.getLast?_cons_cons]
  | case3 c rest hc ih =>
    rw [collapse, List.getLast?_cons, List.getLast?_cons, ih]
    exact hc

theorem getLast?_normalizeChars (cs : List Char) : (normalizeChars cs).getLast? = cs.getLast? := by
  unfold normalizeChars
  split
  next rest => simp only [List.getLast?_cons, getLast?_collapse]
  next => exact getLast?_collapse cs

theorem isClosed_normalize (path : String) :
    isClosed (normalize path).toList = isClosed path.toList := by
  rw [normalize, String.toList_ofList, isClosed, getLast?_normalizeChars, List.getLast?_map,
    Option.any_map, isClosed]
  exact congrArg (path.toList.getLast?.any ·) (funext isSeparator_forward)

/-- Normalization changes a path to forward slashes, once and for all, and keeps its components and
how it begins and ends. -/
theorem normalize_keeps (path : String) :
    '\\' ∉ (normalize path).toList ∧ normalize (normalize path) = normalize path ∧
      components (normalize path).toList = components path.toList ∧
      isRooted (normalize path).toList = isRooted path.toList ∧
      isClosed (normalize path).toList = isClosed path.toList ∧
      ((∃ rest, (normalize path).toList = '/' :: '/' :: rest) ↔ isShare path.toList) := by
  have hslash : ∀ c ∈ (normalize path).toList, isSeparator c → c = '/' := by
    intro c hc hseparator
    have hne : c ≠ '\\' := fun heq => backslash_notMem_normalize path (heq ▸ hc)
    simpa [isSeparator, hne] using hseparator
  refine ⟨backslash_notMem_normalize path, normalize_normalize path, components_normalize path,
    isRooted_normalize path, isClosed_normalize path, ?_⟩
  rw [← isShare_iff hslash, isShare_normalize]

/-! ## Runs of slashes -/

/-- A run of slashes in a text that cannot be made longer. -/
structure IsRun (cs pre : List Char) (length : Nat) (post : List Char) : Prop where
  text : cs = pre ++ (List.replicate length '/' ++ post)
  start : pre.getLast? ≠ some '/'
  stop : post.head? ≠ some '/'

/-- A text has no run of more than one slash but two slashes that it begins with. -/
def IsCollapsed (cs : List Char) : Prop :=
  ∀ pre length post, IsRun cs pre length post → 2 ≤ length → pre = [] ∧ length = 2

/-- The number of separators that a path begins with. -/
def leading (cs : List Char) : Nat :=
  (cs.takeWhile isSeparator).length

variable {cs ds pre post rest : List Char} {n length : Nat}

theorem exists_map_forward_eq (cs : List Char) :
    ∃ rest, cs.map forward = List.replicate (leading cs) '/' ++ rest ∧
      ∀ c, rest.head? = some c → isSeparator c = false := by
  have hrun : (cs.takeWhile isSeparator).map forward = List.replicate (leading cs) '/' := by
    refine List.eq_replicate_iff.2 ⟨List.length_map .., ?_⟩
    simp only [List.forall_mem_map]
    exact fun c hc => forward_eq_slash_iff.2 (List.mem_takeWhile_imp hc)
  refine ⟨(cs.dropWhile isSeparator).map forward, ?_, fun c hc => ?_⟩
  · rw [← hrun, ← List.map_append, List.takeWhile_append_dropWhile]
  · rw [List.head?_map, Option.map_eq_some_iff] at hc
    obtain ⟨d, hd, rfl⟩ := hc
    have hhead := List.head?_dropWhile_not isSeparator cs
    rw [hd] at hhead
    simpa [isSeparator_forward] using hhead

theorem leading_replicate_append (n : Nat)
    (h : ∀ c, rest.head? = some c → isSeparator c = false) :
    leading (List.replicate n '/' ++ rest) = n := by
  have hrun : ∀ c ∈ List.replicate n '/', isSeparator c := by
    intro c hc
    rw [List.eq_of_mem_replicate hc]
    rfl
  rw [leading, (Text.span_run hrun h).1, List.length_replicate]

/-- A run of slashes is collapsed to one. -/
theorem collapse_replicate_append (n : Nat) (h : rest.head? ≠ some '/') :
    collapse (List.replicate (n + 1) '/' ++ rest) = '/' :: collapse rest := by
  induction n with
  | zero =>
    refine collapse.eq_3 '/' rest fun rest' _ hrest => h ?_
    rw [hrest, List.head?_cons]
  | succ n ih => exact ih

/-- Of the slashes that a path begins with three are left: the two of a share and one for all that
follow them. -/
theorem normalizeChars_replicate_append (n : Nat) (h : rest.head? ≠ some '/') :
    normalizeChars (List.replicate n '/' ++ rest) =
      List.replicate (min n 3) '/' ++ collapse rest := by
  match n with
  | 0 => exact normalizeChars_eq_collapse fun rest' heq => h (congrArg List.head? heq)
  | 1 =>
    rw [normalizeChars_eq_collapse, collapse_replicate_append 0 h]
    · rfl
    · intro rest' heq
      obtain ⟨-, rfl⟩ := List.cons.inj heq
      exact h rfl
  | 2 => rfl
  | n + 3 =>
    rw [Nat.min_eq_right (Nat.le_add_left 3 n)]
    exact congrArg (fun cs => '/' :: '/' :: cs) (collapse_replicate_append n h)

theorem IsRun.eq_of_nil (h : IsRun (List.replicate n '/' ++ ds) [] length post)
    (hds : ds.head? ≠ some '/') : length = n := by
  have hspan : ∀ (k : Nat) {rest : List Char}, rest.head? ≠ some '/' →
      (List.replicate k '/' ++ rest).takeWhile (· == '/') = List.replicate k '/' := by
    intro k rest hrest
    refine (Text.span_run (by simp) fun c hc => ?_).1
    exact beq_eq_false_iff_ne.2 fun heq => hrest (heq ▸ hc)
  have hrun := congrArg (List.takeWhile (· == '/')) h.text
  rw [List.nil_append, hspan n hds, hspan length h.stop] at hrun
  simpa using (congrArg List.length hrun).symm

/-- A run that a text does not begin with is within what follows the slashes at its start. -/
theorem IsRun.exists_eq_append (h : IsRun (List.replicate n '/' ++ ds) pre length post)
    (hpre : pre ≠ []) : ∃ mid, ds = mid ++ (List.replicate length '/' ++ post) := by
  obtain ⟨init, c, rfl⟩ := List.eq_nil_or_concat' pre |>.resolve_left hpre
  have hc : c ≠ '/' := by simpa using h.start
  rcases List.append_eq_append_iff.1 h.text with ⟨mid, -, hds⟩ | ⟨mid, hslashes, -⟩
  · exact ⟨mid, hds⟩
  · have hmem : c ∈ List.replicate n '/' := by simp [hslashes]
    exact absurd (List.eq_of_mem_replicate hmem) hc

/-- Behind its first slashes, a path has slashes one by one. -/
theorem IsRun.of_collapse (h : IsRun (List.replicate n '/' ++ collapse rest) pre length post)
    (hrest : rest.head? ≠ some '/') (hlength : 2 ≤ length) : pre = [] ∧ length = n := by
  by_cases hpre : pre = []
  · subst hpre
    exact ⟨rfl, h.eq_of_nil (by rwa [head?_collapse])⟩
  · obtain ⟨mid, hmid⟩ := h.exists_eq_append hpre
    obtain ⟨length, rfl⟩ := Nat.exists_eq_add_of_le' hlength
    exact absurd hmid (collapse_ne rest mid (List.replicate length '/' ++ post))

theorem exists_normalize_eq (path : String) :
    ∃ rest, (normalize path).toList =
        List.replicate (min (leading path.toList) 3) '/' ++ collapse rest ∧
      ∀ c, rest.head? = some c → isSeparator c = false := by
  obtain ⟨rest, hpath, hrest⟩ := exists_map_forward_eq path.toList
  refine ⟨rest, ?_, hrest⟩
  rw [normalize, String.toList_ofList, hpath, normalizeChars_replicate_append]
  exact fun hslash => absurd (hrest '/' hslash) (by decide)

/-- A normalized path begins with as many slashes as the path with separators, up to three, and has
no other run of more than one. So two separators at its start are kept and other runs collapsed,
unless it begins with more than two. -/
theorem normalize_runs (path : String) :
    leading (normalize path).toList = min (leading path.toList) 3 ∧
      (∀ pre length post, IsRun (normalize path).toList pre length post → 2 ≤ length →
        pre = [] ∧ length = min (leading path.toList) 3) ∧
      (IsCollapsed (normalize path).toList ↔ leading path.toList ≤ 2) := by
  obtain ⟨rest, hpath, hrest⟩ := exists_normalize_eq path
  have hhead : rest.head? ≠ some '/' := fun hslash => absurd (hrest '/' hslash) (by decide)
  have hruns : ∀ pre length post, IsRun (normalize path).toList pre length post → 2 ≤ length →
      pre = [] ∧ length = min (leading path.toList) 3 := by
    rw [hpath]
    exact fun pre length post hrun hlength => hrun.of_collapse hhead hlength
  refine ⟨?_, hruns, fun hcollapsed => ?_, fun hleading pre length post hrun hlength => ?_⟩
  · rw [hpath]
    exact leading_replicate_append _ (by rwa [head?_collapse])
  · by_contra hleading
    have hrun : IsRun (normalize path).toList [] (min (leading path.toList) 3) (collapse rest) :=
      ⟨hpath, nofun, by rwa [head?_collapse]⟩
    have htwo := (hcollapsed _ _ _ hrun (by omega)).2
    omega
  · obtain ⟨hpre, hlength'⟩ := hruns pre length post hrun hlength
    exact ⟨hpre, by omega⟩

theorem normalize_runs_share :
    IsRun (normalize "\\\\nas\\\\/x").toList [] 2 "nas/x".toList ∧
      2 = min (leading "\\\\nas\\\\/x".toList) 3 := by
  have hrun : IsRun (normalize "\\\\nas\\\\/x").toList [] 2 "nas/x".toList :=
    ⟨by cbv, by decide, by decide⟩
  exact ⟨hrun, ((normalize_runs "\\\\nas\\\\/x").2.1 [] 2 _ hrun le_rfl).2⟩

/-- Three slashes at the start of a path are left as they are. -/
theorem not_forall_normalize_isCollapsed : ¬ ∀ path, IsCollapsed (normalize path).toList := by
  intro h
  have hrun : IsRun (normalize "///srv").toList [] 3 "srv".toList := ⟨by cbv, by decide, by decide⟩
  exact absurd (h "///srv" [] 3 _ hrun (by decide)).2 (by decide)

end Renderflow.OutputPath
