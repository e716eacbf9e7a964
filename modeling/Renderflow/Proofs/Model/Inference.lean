import Renderflow.Proofs.Selection
import Renderflow.Proofs.Text.Print

/-!
# Families told by file names

A quantized file is of one family, and the family of a checkpoint is told by a hint in its path: of
all parts of the path with a hint the last one counts, and of several hints in it the one that is
tried first. Neither the case of letters nor the kind of separators matters, and a name that tells a
family tells it in every directory.
-/

namespace Renderflow.Model

/-! ## What a path tells -/

/-- The extensions of files whose format is that of quantized models. -/
def quantizedExtensions : List String := ["gguf", "sft"]

/-- The extensions of files whose format does not tell the family. -/
def checkpointExtensions : List String := ["safetensors", "ckpt", "pth"]

/-- A part of a path begins with a hint or holds it after an underscore or a dash, in letters of
either case. -/
inductive Marked (part : List Char) (hint : String) : Prop
  | start {after : List Char} (h : part.map Char.toLower = hint.toList ++ after)
  | underscore {before after : List Char}
    (h : part.map Char.toLower = before ++ '_' :: (hint.toList ++ after))
  | dash {before after : List Char}
    (h : part.map Char.toLower = before ++ '-' :: (hint.toList ++ after))

/-- The family that a part of a path tells. -/
inductive Tells (part : List Char) : Family → Prop
  | qwen (h : Marked part "qwen") : Tells part .qwen
  | auraflow (hqwen : ¬ Marked part "qwen") (h : Marked part "auraflow") : Tells part .qwen
  | wan (hqwen : ¬ Marked part "qwen") (hauraflow : ¬ Marked part "auraflow")
    (h : Marked part "wan") : Tells part .wan

/-- The family that the last part of a path tells, among those that tell one. -/
def Suggests (filename : String) (family : Family) : Prop :=
  ∃ before part after, Text.splitBy isSeparator filename.toList = before ++ part :: after ∧
    Tells part family ∧ ∀ later ∈ after, ∀ other, ¬ Tells later other

/-- What is inferred from a file name alone. -/
inductive Infers (filename : String) : Except ResourceError Family → Prop
  | quantized {ext : String} (hext : ext ∈ quantizedExtensions) (h : HasExtension filename ext) :
    Infers filename (.ok .flux)
  | suggested {ext : String} {family : Family} (hext : ext ∈ checkpointExtensions)
    (h : HasExtension filename ext) (hfamily : Suggests filename family) :
    Infers filename (.ok family)
  | unsuggested {ext : String} (hext : ext ∈ checkpointExtensions) (h : HasExtension filename ext)
    (hnone : ∀ part ∈ Text.splitBy isSeparator filename.toList, ∀ family, ¬ Tells part family) :
    Infers filename (.ok .sdxl)
  | unknown (h : ∀ ext ∈ quantizedExtensions ++ checkpointExtensions, ¬ HasExtension filename ext) :
    Infers filename (.error (.unrecognizedModel filename))

/-- Two paths that differ in the case of letters and in the kind of separators at most. -/
def SamePath (filename filename' : String) : Prop :=
  List.Forall₂ (fun c d => c.toLower = d.toLower ∨ isSeparator c ∧ isSeparator d)
    filename.toList filename'.toList

/-- One family is inferred from two file names, or none from either of them. -/
inductive Alike (filename filename' : String) : Prop
  | inferred {family : Family} (h : inferFamily filename = .ok family)
    (h' : inferFamily filename' = .ok family)
  | unknown (h : inferFamily filename = .error (.unrecognizedModel filename))
    (h' : inferFamily filename' = .error (.unrecognizedModel filename'))

/-! ## Hints -/

variable {part : List Char} {hint ext filename filename' : String} {family : Family}

theorem hasHint_iff : hasHint (String.ofList (part.map Char.toLower)) hint ↔ Marked part hint := by
  simp only [hasHint, Bool.or_eq_true, Text.startsWith_iff, Text.contains_iff, String.toList_ofList,
    String.toList_append]
  constructor
  · rintro ((⟨after, h⟩ | ⟨before, after, h⟩) | ⟨before, after, h⟩)
    · exact .start h.symm
    · exact .underscore (by simpa using h.symm)
    · exact .dash (by simpa using h.symm)
  · rintro (@⟨after, h⟩ | @⟨before, after, h⟩ | @⟨before, after, h⟩)
    · exact .inl (.inl ⟨after, h.symm⟩)
    · exact .inl (.inr ⟨before, after, by simp [h]⟩)
    · exact .inr ⟨before, after, by simp [h]⟩

/-- The hints are tried in order, each one if those before it are not there. -/
theorem hinted?_eq_some_iff :
    hinted? (String.ofList (part.map Char.toLower)) = some family ↔ Tells part family := by
  simp only [hinted?, hints, List.find?_cons, List.find?_nil]
  constructor
  · intro h
    split at h
    next hqwen =>
      obtain rfl := Option.some.inj h
      exact .qwen (hasHint_iff.1 hqwen)
    next hqwen =>
      have hqwen : ¬ Marked part "qwen" := fun h => by simp [hasHint_iff.2 h] at hqwen
      split at h
      next hauraflow =>
        obtain rfl := Option.some.inj h
        exact .auraflow hqwen (hasHint_iff.1 hauraflow)
      next hauraflow =>
        have hauraflow : ¬ Marked part "auraflow" := fun h => by simp [hasHint_iff.2 h] at hauraflow
        split at h
        next hwan =>
          obtain rfl := Option.some.inj h
          exact .wan hqwen hauraflow (hasHint_iff.1 hwan)
        next => cases h
  · rintro (h | ⟨hqwen, h⟩ | ⟨hqwen, hauraflow, h⟩)
    · simp [hasHint_iff.2 h]
    · simp [Bool.eq_false_iff.2 (mt hasHint_iff.1 hqwen), hasHint_iff.2 h]
    · simp [Bool.eq_false_iff.2 (mt hasHint_iff.1 hqwen),
        Bool.eq_false_iff.2 (mt hasHint_iff.1 hauraflow), hasHint_iff.2 h]

theorem hinted?_eq_none_iff :
    hinted? (String.ofList (part.map Char.toLower)) = none ↔ ∀ family, ¬ Tells part family := by
  simp only [Option.eq_none_iff_forall_ne_some, ne_eq, hinted?_eq_some_iff]

theorem isSeparator_toLower (c : Char) : isSeparator c.toLower = isSeparator c := by
  have hself : ∀ d : Char, d.toLower = d → d.toNat < 97 → (c.toLower = d ↔ c = d) := by
    intro d hd hcode
    refine ⟨fun h => Text.eq_of_toLower_eq h hcode, ?_⟩
    rintro rfl
    exact hd
  rw [Bool.eq_iff_iff]
  simp only [isSeparator, Bool.or_eq_true, beq_iff_eq, hself '/' (by decide) (by decide),
    hself '\\' (by decide) (by decide)]

theorem hintedPath?_eq (filename : String) : hintedPath? filename =
    (Text.splitBy isSeparator filename.toList).reverse.findSome? fun part =>
      hinted? (String.ofList (part.map Char.toLower)) := by
  rw [hintedPath?, Text.lower, String.toList_ofList, Text.splitBy_map isSeparator_toLower,
    ← List.map_reverse, List.findSome?_map]
  rfl

theorem hintedPath?_eq_some_iff :
    hintedPath? filename = some family ↔ Suggests filename family := by
  simp only [hintedPath?_eq, List.findSome?_eq_some_iff, hinted?_eq_some_iff, hinted?_eq_none_iff,
    Suggests]
  constructor
  · rintro ⟨after, part, before, hparts, hpart, hafter⟩
    refine ⟨before.reverse, part, after.reverse, ?_, hpart, by simpa using hafter⟩
    simpa using congrArg List.reverse hparts
  · rintro ⟨before, part, after, hparts, hpart, hafter⟩
    exact ⟨after.reverse, part, before.reverse, by simp [hparts], hpart, by simpa using hafter⟩

theorem hintedPath?_eq_none_iff : hintedPath? filename = none ↔
    ∀ part ∈ Text.splitBy isSeparator filename.toList, ∀ family, ¬ Tells part family := by
  simp only [hintedPath?_eq, List.findSome?_eq_none_iff, hinted?_eq_none_iff, List.mem_reverse]

/-! ## Extensions -/

theorem lower_of_mem (hext : ext ∈ quantizedExtensions ++ checkpointExtensions) :
    Text.lower ext = ext ∧ ext ≠ "" ∧ ∀ c ∈ ext.toList, isSeparator c = false := by
  have hall : ∀ ext ∈ quantizedExtensions ++ checkpointExtensions,
      Text.lower ext = ext ∧ ext ≠ "" ∧ ∀ c ∈ ext.toList, isSeparator c = false := by
    simp [quantizedExtensions, checkpointExtensions, Text.lower, isSeparator]
  exact hall ext hext

theorem inferFamily_of_quantized (hext : ext ∈ quantizedExtensions)
    (h : HasExtension filename ext) : inferFamily filename = .ok .flux := by
  obtain ⟨hlower, hne, -⟩ := lower_of_mem (List.mem_append_left checkpointExtensions hext)
  rw [inferFamily, (extension_eq_iff hlower hne).2 h]
  simp only [quantizedExtensions, List.mem_cons, List.not_mem_nil, or_false] at hext
  rcases hext with rfl | rfl <;> rfl

theorem inferFamily_of_checkpoint (hext : ext ∈ checkpointExtensions)
    (h : HasExtension filename ext) :
    inferFamily filename = .ok ((hintedPath? filename).getD .sdxl) := by
  obtain ⟨hlower, hne, -⟩ := lower_of_mem (List.mem_append_right quantizedExtensions hext)
  rw [inferFamily, (extension_eq_iff hlower hne).2 h]
  simp only [checkpointExtensions, List.mem_cons, List.not_mem_nil, or_false] at hext
  rcases hext with rfl | rfl | rfl <;> rfl

theorem inferFamily_of_unknown
    (h : ∀ ext ∈ quantizedExtensions ++ checkpointExtensions, ¬ HasExtension filename ext) :
    inferFamily filename = .error (.unrecognizedModel filename) := by
  have hne : ∀ ext ∈ quantizedExtensions ++ checkpointExtensions, extension filename ≠ ext := by
    intro ext hext heq
    obtain ⟨hlower, hne, -⟩ := lower_of_mem hext
    exact h ext hext ((extension_eq_iff hlower hne).1 heq)
  unfold inferFamily
  split
  case h_6 => rfl
  all_goals next heq => exact absurd heq (hne _ (by decide))

/-! ## Inference -/

theorem inferFamily_of_infers {r : Except ResourceError Family} (h : Infers filename r) :
    inferFamily filename = r := by
  cases h with
  | quantized hext h => exact inferFamily_of_quantized hext h
  | suggested hext h hfamily =>
    rw [inferFamily_of_checkpoint hext h, hintedPath?_eq_some_iff.2 hfamily, Option.getD_some]
  | unsuggested hext h hnone =>
    rw [inferFamily_of_checkpoint hext h, hintedPath?_eq_none_iff.2 hnone, Option.getD_none]
  | unknown h => exact inferFamily_of_unknown h

/-- There is a rule for every file name. -/
theorem exists_infers (filename : String) : ∃ r, Infers filename r := by
  by_cases hknown : ∃ ext ∈ quantizedExtensions ++ checkpointExtensions, HasExtension filename ext
  · obtain ⟨ext, hext, h⟩ := hknown
    rcases List.mem_append.1 hext with hext | hext
    · exact ⟨_, .quantized hext h⟩
    · cases hfamily : hintedPath? filename with
      | some family => exact ⟨_, .suggested hext h (hintedPath?_eq_some_iff.1 hfamily)⟩
      | none => exact ⟨_, .unsuggested hext h (hintedPath?_eq_none_iff.1 hfamily)⟩
  · exact ⟨_, .unknown fun ext hext h => hknown ⟨ext, hext, h⟩⟩

theorem inferFamily_eq_iff_infers {r : Except ResourceError Family} :
    inferFamily filename = r ↔ Infers filename r := by
  refine ⟨?_, inferFamily_of_infers⟩
  rintro rfl
  obtain ⟨r, hr⟩ := exists_infers filename
  rwa [inferFamily_of_infers hr]

/-- Names are alike if they have the same extension and the same hint, as far as these count. -/
theorem alike_of
    (hext : ∀ ext ∈ quantizedExtensions ++ checkpointExtensions,
      HasExtension filename ext ↔ HasExtension filename' ext)
    (hpath : hintedPath? filename = hintedPath? filename') : Alike filename filename' := by
  by_cases hknown : ∃ ext ∈ quantizedExtensions ++ checkpointExtensions, HasExtension filename ext
  · obtain ⟨ext, hmem, h⟩ := hknown
    have h' := (hext ext hmem).1 h
    rcases List.mem_append.1 hmem with hmem | hmem
    · exact .inferred (inferFamily_of_quantized hmem h) (inferFamily_of_quantized hmem h')
    · refine .inferred (inferFamily_of_checkpoint hmem h) ?_
      rw [hpath, inferFamily_of_checkpoint hmem h']
  · exact .unknown (inferFamily_of_unknown fun ext hmem h => hknown ⟨ext, hmem, h⟩)
      (inferFamily_of_unknown fun ext hmem h => hknown ⟨ext, hmem, (hext ext hmem).2 h⟩)

/-! ## Letter case and separators -/

theorem SamePath.symm (h : SamePath filename filename') : SamePath filename' filename :=
  List.Forall₂.imp (fun _ _ hcd => hcd.imp Eq.symm And.symm) (List.Forall₂.flip h)

theorem hintedPath?_eq_of_samePath (h : SamePath filename filename') :
    hintedPath? filename = hintedPath? filename' := by
  have hparts : Text.splitBy isSeparator (Text.lower filename).toList =
      Text.splitBy isSeparator (Text.lower filename').toList := by
    simp only [Text.lower, String.toList_ofList]
    refine Text.splitBy_congr ?_
    rw [List.forall₂_map_left_iff, List.forall₂_map_right_iff]
    refine List.Forall₂.imp (fun c d hcd => hcd.imp_right fun hsep => ?_) h
    simpa only [isSeparator_toLower] using hsep
  rw [hintedPath?, hintedPath?, hparts]

/-- Where there are no separators, texts of the same path differ in the case of letters alone. -/
theorem map_toLower_eq {cs ds : List Char}
    (h : List.Forall₂ (fun c d => c.toLower = d.toLower ∨ isSeparator c ∧ isSeparator d) cs ds)
    (hds : ∀ d ∈ ds, isSeparator d = false) : cs.map Char.toLower = ds.map Char.toLower := by
  induction h with
  | nil => rfl
  | @cons c d cs ds hcd _ ih =>
    obtain ⟨hd, hds⟩ := List.forall_mem_cons.1 hds
    have hlower : c.toLower = d.toLower := hcd.resolve_right fun hsep => by simp [hd] at hsep
    rw [List.map_cons, List.map_cons, hlower, ih hds]

theorem dot_mem_map_toLower_iff {cs : List Char} : '.' ∈ cs.map Char.toLower ↔ '.' ∈ cs := by
  refine ⟨fun hmem => ?_, fun hmem => List.mem_map.2 ⟨'.', hmem, rfl⟩⟩
  obtain ⟨c, hc, hdot⟩ := List.mem_map.1 hmem
  rwa [← Text.eq_of_toLower_eq hdot (by decide)]

theorem hasExtension_iff : HasExtension filename ext ↔ ∃ stem tail : List Char,
    filename.toList = stem ++ '.' :: tail ∧ '.' ∉ tail ∧
      tail.map Char.toLower = (Text.lower ext).toList := by
  simp only [HasExtension, Text.sameLetters_iff, ← String.toList_inj]
  constructor
  · rintro ⟨stem, tail, htext, hdot, hlower⟩
    exact ⟨stem.toList, tail.toList, by simpa using htext, hdot, by simpa [Text.lower] using hlower⟩
  · rintro ⟨stem, tail, htext, hdot, hlower⟩
    exact ⟨String.ofList stem, String.ofList tail, by simpa using htext, by simpa using hdot,
      by simpa [Text.lower] using hlower⟩

/-- No separator stands in what has no separators in lower case. -/
theorem not_isSeparator_of_mem {cs : List Char} (hlower : Text.lower ext = ext)
    (hext : ∀ c ∈ ext.toList, isSeparator c = false)
    (hcs : cs.map Char.toLower = (Text.lower ext).toList) : ∀ c ∈ cs, isSeparator c = false := by
  intro c hc
  rw [← isSeparator_toLower]
  apply hext
  rw [← hlower, ← hcs]
  exact List.mem_map_of_mem hc

theorem SamePath.hasExtension (h : SamePath filename filename')
    (hext : ext ∈ quantizedExtensions ++ checkpointExtensions)
    (hfilename : HasExtension filename' ext) : HasExtension filename ext := by
  obtain ⟨hlower, -, hseparators⟩ := lower_of_mem hext
  obtain ⟨stem, tail, htext, hdot, htail⟩ := hasExtension_iff.1 hfilename
  have hnone := not_isSeparator_of_mem hlower hseparators htail
  rw [SamePath, htext] at h
  have hdrop := List.forall₂_drop_append _ _ _ h
  obtain ⟨c, rest, hc, hrest, hrestEq⟩ := List.forall₂_cons_right_iff.1 hdrop
  obtain rfl : c = '.' := by
    rcases hc with hc | ⟨-, hc⟩
    · exact Text.eq_of_toLower_eq hc (by decide)
    · exact absurd hc (by decide)
  have heq := map_toLower_eq hrest hnone
  refine hasExtension_iff.2 ⟨filename.toList.take stem.length, rest, ?_, ?_, heq.trans htail⟩
  · rw [← hrestEq, List.take_append_drop]
  · rwa [← dot_mem_map_toLower_iff, heq, dot_mem_map_toLower_iff]

theorem SamePath.alike (h : SamePath filename filename') : Alike filename filename' :=
  alike_of (fun _ hext => ⟨h.symm.hasExtension hext, h.hasExtension hext⟩)
    (hintedPath?_eq_of_samePath h)

/-! ## Directories -/

variable {dir name : String} {sep : Char}

theorem hasExtension_push_append_iff (hsep : isSeparator sep)
    (hext : ext ∈ quantizedExtensions ++ checkpointExtensions) :
    HasExtension (dir.push sep ++ name) ext ↔ HasExtension name ext := by
  obtain ⟨hlower, -, hseparators⟩ := lower_of_mem hext
  simp only [hasExtension_iff, String.toList_append, String.toList_push]
  constructor
  · rintro ⟨stem, tail, htext, hdot, htail⟩
    have hnone := not_isSeparator_of_mem hlower hseparators htail
    rcases List.append_eq_append_iff.1 htext with ⟨rest, -, hname⟩ | ⟨rest, hdir, hrest⟩
    · exact ⟨rest, tail, hname, hdot, htail⟩
    · cases rest with
      | nil => exact ⟨[], tail, hrest.symm, hdot, htail⟩
      | cons c rest =>
        -- a dot in the directory has the separator behind it
        obtain ⟨rfl, rfl⟩ := List.cons.inj hrest
        have hlast : ('.' :: rest).getLast? = some sep := by
          have hlast := congrArg List.getLast? hdir
          rwa [List.getLast?_concat, List.getLast?_append_of_ne_nil _ (List.cons_ne_nil _ _),
            eq_comm] at hlast
        rcases List.mem_cons.1 (List.mem_of_getLast? hlast) with rfl | hmem
        · exact absurd hsep (by decide)
        · simp [hnone sep (List.mem_append_left _ hmem)] at hsep
  · rintro ⟨stem, tail, hname, hdot, htail⟩
    exact ⟨dir.toList ++ [sep] ++ stem, tail, by simp [hname], hdot, htail⟩

theorem hintedPath?_push_append (hsep : isSeparator sep)
    (hpart : part ∈ Text.splitBy isSeparator name.toList) (hfamily : Tells part family) :
    hintedPath? (dir.push sep ++ name) = hintedPath? name := by
  have hsplit : Text.splitBy isSeparator (dir.push sep ++ name).toList =
      Text.splitBy isSeparator dir.toList ++ Text.splitBy isSeparator name.toList := by
    rw [← Text.splitBy_append_cons hsep]
    simp
  have hsome : hintedPath? name ≠ none := fun hnone =>
    hintedPath?_eq_none_iff.1 hnone part hpart family hfamily
  obtain ⟨other, hother⟩ := Option.ne_none_iff_exists'.1 hsome
  rw [hintedPath?_eq, hsplit, List.reverse_append, List.findSome?_append, ← hintedPath?_eq, hother,
    Option.some_or]

/-- The family of a file name is the one that its extension or its last part with a hint tells,
however its letters and separators are written, and whatever directory it is in if it has a hint. -/
theorem inferFamily_inferred :
    (∀ filename r, inferFamily filename = r ↔ Infers filename r) ∧
      (∀ filename filename', SamePath filename filename' → Alike filename filename') ∧
      ∀ (dir name : String) (sep : Char) (part : List Char) (family : Family), isSeparator sep →
        part ∈ Text.splitBy isSeparator name.toList → Tells part family →
          Alike (dir.push sep ++ name) name := by
  refine ⟨fun _ _ => inferFamily_eq_iff_infers, fun _ _ => SamePath.alike, ?_⟩
  intro dir name sep part family hsep hpart hfamily
  exact alike_of (fun ext hext => hasExtension_push_append_iff hsep hext)
    (hintedPath?_push_append hsep hpart hfamily)

example : inferFamily "qwen/auraflow-wan/wan_lake.ckpt" = .ok .wan := by decide +kernel

theorem inferFamily_inferred_auraflow :
    SamePath "Wan/My-AuraFlow.Safetensors" "wan\\my-auraflow.safetensors" ∧
      Alike "Wan/My-AuraFlow.Safetensors" "wan\\my-auraflow.safetensors" ∧
      isSeparator '\\' ∧
      "my-auraflow.safetensors".toList ∈ Text.splitBy isSeparator "my-auraflow.safetensors".toList ∧
      Tells "my-auraflow.safetensors".toList .qwen ∧
      Alike ("wan".push '\\' ++ "my-auraflow.safetensors") "my-auraflow.safetensors" := by
  have hpath : SamePath "Wan/My-AuraFlow.Safetensors" "wan\\my-auraflow.safetensors" := by
    simp [SamePath, isSeparator]
  have hpart : "my-auraflow.safetensors".toList ∈
      Text.splitBy isSeparator "my-auraflow.safetensors".toList := by decide
  have hfamily : Tells "my-auraflow.safetensors".toList .qwen :=
    hinted?_eq_some_iff.1 (by decide +kernel)
  exact ⟨hpath, inferFamily_inferred.2.1 _ _ hpath, rfl, hpart, hfamily,
    inferFamily_inferred.2.2 "wan" _ '\\' _ .qwen rfl hpart hfamily⟩

end Renderflow.Model
