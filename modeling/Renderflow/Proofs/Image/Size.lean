import Renderflow.Proofs.Job.Scene
import Renderflow.Proofs.Text.Numeral

/-!
# The grammar of sizes

A size is two numbers around an `x`, and what is read as one is a size by this grammar and nothing
else. The resolution of a video and the size of an image are read alike but for short sides: a
resolution makes them longer, and a size has no side of zero.
-/

namespace Renderflow

namespace Image

/-- A side is a number of 32 bits, perhaps after a plus sign, with white space around it. -/
def WritesSide (s : String) (side : UInt32) : Prop :=
  ∃ core : String, Text.IsPadded s core ∧ Text.WritesSigned core.toList side.toNat

/-- A text has two sides, around an `x` in either case. -/
def Denotes (text : String) (width height : UInt32) : Prop :=
  ∃ (left right : String) (x : Char), text.toList = left.toList ++ x :: right.toList ∧
    (x = 'x' ∨ x = 'X') ∧ WritesSide left width ∧ WritesSide right height

variable {text s left right : String} {x : Char} {side width height : UInt32}

theorem uint32?_eq_some_iff_writesSide :
    Text.uint32? (Text.trim (Text.lower s)) = some side ↔ WritesSide s side := by
  rw [Text.trim_lower, Text.uint32?_eq_some_iff, Text.writesSigned_lower, Text.writesSigned_trim]
  rfl

theorem toLower_eq_x_iff : x.toLower = 'x' ↔ x = 'x' ∨ x = 'X' := by
  rw [← Char.toNat_inj, Text.toNat_toLower, ← Char.toNat_inj, ← Char.toNat_inj]
  have hx : 'x'.toNat = 120 := rfl
  have hX : 'X'.toNat = 88 := rfl
  split <;> omega

/-- No side has the letter in it that sets the sides apart. -/
theorem WritesSide.toLower_ne (h : WritesSide s side) : ∀ c ∈ s.toList, c.toLower ≠ 'x' := by
  obtain ⟨core, ⟨before, after, hs, hbefore, hafter⟩, hcore⟩ := h
  have hblank {c : Char} (hc : Text.isBlank c) : c.toLower ≠ 'x' := by
    intro hx
    rw [← Text.isBlank_toLower, hx] at hc
    exact absurd hc (by decide)
  intro c hc
  rw [hs, List.mem_append, List.mem_append] at hc
  rcases hc with hc | hc | hc
  · exact hblank (hbefore c hc)
  · rw [(hcore.plain c hc).2]
    rintro rfl
    exact absurd (hcore.eq_plus_or_isDigit 'x' hc) (by decide)
  · exact hblank (hafter c hc)

/-- The two sides of a text are read apart. -/
theorem sides?_eq_some_iff_of_cut (hcut : text.toList = left.toList ++ x :: right.toList)
    (hx : x.toLower = 'x') (hleft : ∀ c ∈ left.toList, c.toLower ≠ 'x') :
    sides? text = some (width, height) ↔ WritesSide left width ∧ WritesSide right height := by
  have hlower : (Text.lower text).toList =
      (Text.lower left).toList ++ 'x' :: (Text.lower right).toList := by
    simp [Text.lower, hcut, hx]
  have htrim : (Text.trim (Text.lower text)).toList =
      Text.trimStart (Text.lower left).toList ++ 'x' :: Text.trimEnd (Text.lower right).toList :=
    Text.toList_trim_of_append_cons (by decide) hlower
  have hnot : 'x' ∉ Text.trimStart (Text.lower left).toList := by
    intro hmem
    have hmem := (List.dropWhile_suffix Text.isBlank).subset hmem
    rw [Text.lower, String.toList_ofList] at hmem
    obtain ⟨c, hc, hlow⟩ := List.mem_map.1 hmem
    exact hleft c hc hlow
  have hsides : Text.cutFirst? 'x' (Text.lower (Text.trim text)) =
      some (String.ofList (Text.trimStart (Text.lower left).toList),
        String.ofList (Text.trimEnd (Text.lower right).toList)) := by
    rw [← Text.trim_lower]
    exact Text.cutFirst?_eq_some (by simpa using htrim) (by simpa using hnot)
  rw [sides?, hsides]
  simp only [Option.bind_eq_bind, Option.bind_some, ← uint32?_eq_some_iff_writesSide,
    ← Text.trim_eq_of_isPadded (Text.isPadded_trimStart (Text.lower left)),
    ← Text.trim_eq_of_isPadded (Text.isPadded_trimEnd (Text.lower right)), Option.pure_def,
    Option.bind_eq_some_iff, Option.some.injEq, Prod.mk.injEq]
  constructor
  · rintro ⟨_, hwidth, _, hheight, rfl, rfl⟩
    exact ⟨hwidth, hheight⟩
  · rintro ⟨hwidth, hheight⟩
    exact ⟨_, hwidth, _, hheight, rfl, rfl⟩

theorem exists_cut_of_sides? (h : sides? text = some (width, height)) :
    ∃ (left right : String) (x : Char), text.toList = left.toList ++ x :: right.toList ∧
      x.toLower = 'x' ∧ ∀ c ∈ left.toList, c.toLower ≠ 'x' := by
  rw [sides?, Option.bind_eq_bind, Option.bind_eq_some_iff] at h
  obtain ⟨sides, hsides, -⟩ := h
  have hmem : 'x' ∈ (Text.trim (Text.lower text)).toList := by
    rw [Text.trim_lower, (Text.cutFirst?_eq_some_iff.1 hsides).1]
    simp
  have hlower := Text.subset_trim _ hmem
  rw [Text.lower, String.toList_ofList] at hlower
  obtain ⟨before, after, hmap, hbefore⟩ := List.eq_append_cons_of_mem hlower
  obtain ⟨left, rest, htext, rfl, hrest⟩ := List.map_eq_append_iff.1 hmap
  obtain ⟨x, right, rfl, hx, -⟩ := List.map_eq_cons_iff.1 hrest
  refine ⟨.ofList left, .ofList right, x, by simpa using htext, hx, fun c hc hlow => hbefore ?_⟩
  rw [String.toList_ofList] at hc
  exact List.mem_map.2 ⟨c, hc, hlow⟩

/-- What is read as two sides is what the grammar has. -/
theorem sides?_eq_some_iff : sides? text = some (width, height) ↔ Denotes text width height := by
  constructor
  · intro h
    obtain ⟨left, right, x, hcut, hx, hleft⟩ := exists_cut_of_sides? h
    obtain ⟨hwidth, hheight⟩ := (sides?_eq_some_iff_of_cut hcut hx hleft).1 h
    exact ⟨left, right, x, hcut, toLower_eq_x_iff.1 hx, hwidth, hheight⟩
  · rintro ⟨left, right, x, hcut, hx, hwidth, hheight⟩
    exact (sides?_eq_some_iff_of_cut hcut (toLower_eq_x_iff.2 hx) hwidth.toLower_ne).2
      ⟨hwidth, hheight⟩

theorem sides?_eq_none_iff : sides? text = none ↔ ∀ width height, ¬ Denotes text width height := by
  simp only [← sides?_eq_some_iff, Option.eq_none_iff_forall_ne_some, Prod.forall, ne_eq]

theorem size?_eq_some_iff :
    size? text = some (width, height) ↔ Denotes text width height ∧ width ≠ 0 ∧ height ≠ 0 := by
  rw [size?, Option.filter_eq_some_iff, sides?_eq_some_iff]
  simp [UInt32.pos_iff_ne_zero]

theorem size?_eq_none_iff : size? text = none ↔
    ∀ width height, Denotes text width height → width = 0 ∨ height = 0 := by
  rw [Option.eq_none_iff_forall_ne_some, Prod.forall]
  refine forall₂_congr fun width height => ?_
  rw [ne_eq, size?_eq_some_iff]
  tauto

end Image

namespace Animation

open Image

variable {text : String} {width height : UInt32}

theorem parseResolution_of_denotes (h : Denotes text width height) :
    parseResolution text = (max width 64, max height 64) := by
  delta parseResolution
  rw [sides?_eq_some_iff.2 h]

theorem parseResolution_of_not_denotes (h : ∀ width height, ¬ Denotes text width height) :
    parseResolution text = (512, 512) := by
  delta parseResolution
  rw [sides?_eq_none_iff.2 h]
  rfl

/-- A resolution in print is read back, for its sides are long enough already. -/
theorem parseResolution_print_parseResolution (text : String) :
    parseResolution (toString (parseResolution text).1.toNat ++ "x" ++
      toString (parseResolution text).2.toNat) = parseResolution text := by
  have hlong := le_parseResolution text
  generalize parseResolution text = size at hlong ⊢
  exact parseResolution_print hlong.1 hlong.2

/-- The size of an image and the resolution of a video are read by one grammar. Where a text gives a
size, the resolution has its sides, those below 64 made longer. Where it does not, it gives a size
with a side of zero, or the resolution is the default. A resolution in print is read back. -/
theorem parseResolution_agrees :
    (∀ text width height, size? text = some (width, height) ↔
      Denotes text width height ∧ width ≠ 0 ∧ height ≠ 0) ∧
      (∀ text width height, Denotes text width height →
        parseResolution text = (max width 64, max height 64)) ∧
      (∀ text width height, size? text = some (width, height) →
        parseResolution text = (max width 64, max height 64)) ∧
      (∀ text, size? text = none → parseResolution text = (512, 512) ∨
        ∃ width height, Denotes text width height ∧ (width = 0 ∨ height = 0)) ∧
      ∀ text, parseResolution (toString (parseResolution text).1.toNat ++ "x" ++
        toString (parseResolution text).2.toNat) = parseResolution text := by
  refine ⟨fun _ _ _ => size?_eq_some_iff, fun _ _ _ => parseResolution_of_denotes,
    fun text width height hsize => ?_, fun text hnone => ?_, parseResolution_print_parseResolution⟩
  · exact parseResolution_of_denotes (size?_eq_some_iff.1 hsize).1
  · by_cases hdenotes : ∃ width height, Denotes text width height
    · obtain ⟨width, height, hdenotes⟩ := hdenotes
      exact .inr ⟨width, height, hdenotes, size?_eq_none_iff.1 hnone width height hdenotes⟩
    · have hnot : ∀ width height, ¬ Denotes text width height := by simpa using hdenotes
      exact .inl (parseResolution_of_not_denotes hnot)

theorem parseResolution_agrees_padded :
    size? " +0640 X\u3000 32" = some (640, 32) ∧
      parseResolution " +0640 X\u3000 32" = (640, 64) ∧
      (size? "0x99" = none ∧ Denotes "0x99" 0 99 ∧ parseResolution "0x99" = (64, 99)) ∧
      size? "640×480" = none ∧ parseResolution "640×480" = (512, 512) := by
  obtain ⟨-, hdenotes, hsize, hnone, -⟩ := parseResolution_agrees
  have hpadded : size? " +0640 X\u3000 32" = some (640, 32) := by decide +kernel
  have hempty : Denotes "0x99" 0 99 := sides?_eq_some_iff.1 (by decide +kernel)
  have hother : size? "640×480" = none := by decide +kernel
  have hnot : ∀ width height, ¬ Denotes "640×480" width height :=
    sides?_eq_none_iff.1 (by decide +kernel)
  refine ⟨hpadded, hsize _ _ _ hpadded, ⟨by decide +kernel, hempty, hdenotes _ _ _ hempty⟩,
    hother, ?_⟩
  rcases hnone _ hother with hdefault | ⟨width, height, hgiven, -⟩
  · exact hdefault
  · exact absurd hgiven (hnot width height)

end Animation

end Renderflow
