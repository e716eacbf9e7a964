import Renderflow.Image.Location
import Renderflow.OutputPath
import Renderflow.Proofs.Text.Print

/-!
# Normalized paths

A collapsed path has no two slashes in a row. Slashes are kept in pairs only at the start of a
path, so no URL is left by the normalization.
-/

namespace Renderflow

namespace OutputPath

theorem head?_collapse (cs : List Char) : (collapse cs).head? = cs.head? := by
  induction cs using collapse.induct with
  | case1 => rfl
  | case2 rest ih => simpa [collapse] using ih
  | case3 c rest h ih => simp [collapse]

theorem collapse_ne (cs pre post : List Char) : collapse cs ≠ pre ++ '/' :: '/' :: post := by
  induction cs using collapse.induct generalizing pre with
  | case1 => simp [collapse]
  | case2 rest ih => simpa [collapse] using ih pre
  | case3 c rest h ih =>
    rw [collapse]
    · cases pre with
      | nil =>
        intro heq
        obtain ⟨rfl, hrest⟩ := List.cons.inj heq
        have hhead := head?_collapse rest
        rw [hrest] at hhead
        obtain ⟨rest', rfl⟩ := List.head?_eq_some_iff.1 hhead.symm
        exact h rest' rfl rfl
      | cons d pre => exact fun heq => ih pre (List.cons.inj heq).2
    · exact h

theorem collapse_of_notMem {cs : List Char} (h : '/' ∉ cs) : collapse cs = cs := by
  induction cs with
  | nil => rfl
  | cons c cs ih =>
    have hc : c ≠ '/' := fun hslash => h (by simp [hslash])
    rw [collapse, ih fun hmem => h (List.mem_cons_of_mem c hmem)]
    exact fun rest hslash => absurd hslash hc

/-- Two parts of a path are collapsed apart unless slashes meet where they join. -/
theorem collapse_append {cs ds : List Char}
    (h : ds.head? = some '/' → ∀ c, cs.getLast? = some c → c ≠ '/') :
    collapse (cs ++ ds) = collapse cs ++ collapse ds := by
  induction cs using collapse.induct with
  | case1 => rfl
  | case2 rest ih =>
    rw [List.cons_append, List.cons_append, collapse, collapse]
    exact ih (by simpa using h)
  | case3 c rest hc ih =>
    have hrest : collapse (rest ++ ds) = collapse rest ++ collapse ds := by
      cases rest with
      | nil => rfl
      | cons d rest => exact ih (by simpa using h)
    rw [List.cons_append, collapse, collapse, hrest, List.cons_append]
    · exact hc
    · rintro rest' rfl hslash
      cases rest with
      | nil =>
        rw [List.nil_append] at hslash
        exact h (by simp [hslash]) '/' rfl rfl
      | cons d rest =>
        obtain ⟨rfl, -⟩ := List.cons.inj hslash
        exact hc rest rfl rfl

/-- Two slashes in a row are left at the start of a path or nowhere. -/
theorem normalizeChars_ne {cs pre post : List Char} (hpre : pre ≠ [])
    (hhead : pre.head? ≠ some '/') : normalizeChars cs ≠ pre ++ '/' :: '/' :: post := by
  obtain ⟨c, pre, rfl⟩ := List.exists_cons_of_ne_nil hpre
  have hc : c ≠ '/' := by simpa using hhead
  unfold normalizeChars
  split
  · exact fun heq => hc (List.cons.inj heq).1.symm
  · exact collapse_ne _ _ _

theorem normalizeChars_eq_collapse {cs : List Char} (h : ∀ rest, cs ≠ '/' :: '/' :: rest) :
    normalizeChars cs = collapse cs := by
  unfold normalizeChars
  split
  · exact absurd rfl (h _)
  · rfl

theorem normalizeChars_append {cs ds : List Char}
    (h : ds.head? = some '/' → ∃ c, cs.getLast? = some c ∧ c ≠ '/') :
    normalizeChars (cs ++ ds) = normalizeChars cs ++ collapse ds := by
  have hseam : ds.head? = some '/' → ∀ c, cs.getLast? = some c → c ≠ '/' := by
    intro hhead c hc
    obtain ⟨d, hd, hne⟩ := h hhead
    rwa [← Option.some.inj (hd.symm.trans hc)]
  by_cases hcs : ∃ rest, cs = '/' :: '/' :: rest
  · obtain ⟨rest, rfl⟩ := hcs
    have hrest : collapse (rest ++ ds) = collapse rest ++ collapse ds := by
      refine collapse_append fun hhead c hc => hseam hhead c ?_
      cases rest with
      | nil => cases hc
      | cons d rest => simpa using hc
    simp [normalizeChars, hrest]
  · have hcs : ∀ rest, cs ≠ '/' :: '/' :: rest := fun rest heq => hcs ⟨rest, heq⟩
    rw [normalizeChars_eq_collapse hcs, ← collapse_append hseam]
    refine normalizeChars_eq_collapse fun rest heq => ?_
    -- of the two slashes, the second one would stand in `cs` too
    match cs with
    | [] =>
      rw [List.nil_append] at heq
      obtain ⟨c, hc, -⟩ := h (by simp [heq])
      cases hc
    | [c] =>
      obtain ⟨rfl, hds⟩ := List.cons.inj heq
      exact hseam (by simpa using congrArg List.head? hds) '/' rfl rfl
    | c :: d :: cs =>
      obtain ⟨rfl, hrest⟩ := List.cons.inj heq
      obtain ⟨rfl, -⟩ := List.cons.inj hrest
      exact hcs cs rfl

theorem notMem_of_not_isSeparator {cs : List Char} (h : ∀ c ∈ cs, isSeparator c = false) :
    '/' ∉ cs :=
  fun hmem => by simpa [isSeparator] using h '/' hmem

theorem forward_of_not_isSeparator {c : Char} (hc : isSeparator c = false) : forward c = c := by
  refine if_neg fun h => ?_
  simp [h, isSeparator] at hc

theorem map_forward_of_not_isSeparator {cs : List Char} (h : ∀ c ∈ cs, isSeparator c = false) :
    cs.map forward = cs :=
  (List.map_congr_left fun c hc => forward_of_not_isSeparator (h c hc)).trans (List.map_id cs)

/-- The name of the files of a job ends in the id of the job, which has no separators. -/
theorem exists_stem_eq_append (dir kind : String) : ∃ head, ∀ id : String,
    (∀ c ∈ id.toList, isSeparator c = false) → stem dir kind id none = head ++ id := by
  refine ⟨normalize ((if (directory dir).isEmpty then "" else directory dir ++ "/") ++ kind ++ "_"),
    fun id hid => ?_⟩
  have hpath : (if (directory dir).isEmpty then fileName kind id none
      else directory dir ++ "/" ++ fileName kind id none) =
      (if (directory dir).isEmpty then "" else directory dir ++ "/") ++ kind ++ "_" ++ id := by
    split <;> simp [fileName, String.append_assoc]
  have hslash := notMem_of_not_isSeparator hid
  have hhead : id.toList.head? ≠ some '/' := fun hhead => hslash (List.mem_of_mem_head? hhead)
  rw [stem, hpath, normalize, normalize, String.toList_append, List.map_append,
    map_forward_of_not_isSeparator hid, normalizeChars_append fun h => absurd h hhead,
    collapse_of_notMem hslash, String.ofList_append, String.ofList_toList]

/-- No normalized path begins with a scheme and two slashes. -/
theorem startsWith_lower_normalize (path scheme : String) (hscheme : scheme.toList ≠ [])
    (hhead : scheme.toList.head? ≠ some '/') :
    Text.startsWith (Text.lower (normalize path)) (scheme ++ "//") = false := by
  rw [Bool.eq_false_iff]
  intro hstarts
  obtain ⟨post, hpost⟩ := List.isPrefixOf_iff_prefix.1 hstarts
  obtain ⟨pre, rest, hpath, hpre, hrest⟩ : ∃ pre rest, (normalize path).toList = pre ++ rest ∧
      pre.map Char.toLower = scheme.toList ∧ rest.map Char.toLower = '/' :: '/' :: post := by
    refine List.map_eq_append_iff.1 ?_
    simpa [Text.lower] using hpost.symm
  obtain ⟨a, rest, rfl, ha, hrest⟩ := List.map_eq_cons_iff.1 hrest
  obtain ⟨b, rest, rfl, hb, -⟩ := List.map_eq_cons_iff.1 hrest
  obtain rfl := Text.eq_of_toLower_eq ha (by decide)
  obtain rfl := Text.eq_of_toLower_eq hb (by decide)
  rw [normalize, String.toList_ofList] at hpath
  refine normalizeChars_ne ?_ ?_ hpath
  · rintro rfl
    exact hscheme hpre.symm
  · intro hslash
    refine hhead ?_
    rw [← hpre, List.head?_map, hslash]
    rfl

end OutputPath

/-- A normalized path is no URL, even if the path is one. -/
theorem Image.isUrl_normalize (path : String) :
    Image.isUrl (OutputPath.normalize path) = false := by
  have hhttp := OutputPath.startsWith_lower_normalize path "http:" (by simp) (by simp)
  have hhttps := OutputPath.startsWith_lower_normalize path "https:" (by simp) (by simp)
  simpa [Image.isUrl] using ⟨hhttp, hhttps⟩

end Renderflow
