import Renderflow.Image.Location
import Renderflow.Proofs.Error
import Renderflow.Proofs.Text.Split

/-!
# Image locations

A location is refused as bad input or as a missing resource, whatever the world answers: an address
of the web by the type that its server reports, and a file by its extension. A list of locations is
accepted if each of them is, and refused with the error of one that is not.
-/

namespace Renderflow.Image

/-! ## One location -/

/-- An address of the web, with its scheme in letters of either case. -/
def IsAddress (location : String) : Prop :=
  ∃ scheme ∈ ["http://", "https://"], scheme.toList <+: (Text.lower location).toList

/-- A content type of images. -/
def IsImageType (type : String) : Prop :=
  "image/".toList <+: (Text.lower (Text.trim type)).toList

/-- A path whose last name has the extension of an image, in letters of either case. -/
def HasImageExtension (path : String) : Prop :=
  ∃ extension, fileExtension? path = some extension ∧
    Text.lower extension ∈ ["png", "jpg", "jpeg", "webp", "bmp", "gif", "tiff"]

/-- What comes of a location: an address is asked for the type of its content, and anything else is
the path of a file. -/
inductive Judges (w : World) (location : String) : Except CompileError Unit → Prop
  | unreachable {causes : List String} (haddress : IsAddress location)
    (h : w.contentType location = .error causes) :
    Judges w location (.error (.resource (.imageUnreachable location (": ".intercalate causes))))
  | untyped (haddress : IsAddress location) (h : w.contentType location = .ok none) :
    Judges w location (.error (.validation (.invalidImageSource location "unknown")))
  | otherType {type : String} (haddress : IsAddress location)
    (h : w.contentType location = .ok (some type)) (htype : ¬ IsImageType type) :
    Judges w location (.error (.validation (.invalidImageSource location type)))
  | address {type : String} (haddress : IsAddress location)
    (h : w.contentType location = .ok (some type)) (htype : IsImageType type) :
    Judges w location (.ok ())
  | missing (hpath : ¬ IsAddress location) (h : w.entry location = none) :
    Judges w location (.error (.resource (.imageNotFound location)))
  | directory (hpath : ¬ IsAddress location) (h : w.entry location = some .directory) :
    Judges w location (.error (.resource (.imageNotAFile location)))
  | otherFile (hpath : ¬ IsAddress location) (h : w.entry location = some .file)
    (hextension : ¬ HasImageExtension location) :
    Judges w location (.error (.validation (.unsupportedImageExtension location)))
  | file (hpath : ¬ IsAddress location) (h : w.entry location = some .file)
    (hextension : HasImageExtension location) : Judges w location (.ok ())

theorem isUrl_iff {location : String} : isUrl location ↔ IsAddress location := by
  simp [isUrl, IsAddress, Text.startsWith_iff]

theorem isImageType_iff {type : String} : isImageType type ↔ IsImageType type := by
  simp [isImageType, IsImageType, Text.startsWith_iff]

theorem hasImageExtension_iff {path : String} :
    hasImageExtension path ↔ HasImageExtension path := by
  cases hpath : fileExtension? path <;>
    simp [hasImageExtension, HasImageExtension, extensions, hpath]

theorem validate_of_judges {w : World} {location : String} {r : Except CompileError Unit}
    (h : Judges w location r) : validate w location = r := by
  unfold validate
  cases h with
  | unreachable haddress h => simp [isUrl_iff.2 haddress, validateUrl, h]
  | untyped haddress h => simp [isUrl_iff.2 haddress, validateUrl, h]
  | otherType haddress h htype =>
    simp [isUrl_iff.2 haddress, validateUrl, h, isImageType_iff, htype]
  | address haddress h htype =>
    simp [isUrl_iff.2 haddress, validateUrl, h, isImageType_iff, htype]
  | missing hpath h => simp [isUrl_iff, hpath, validatePath, h]
  | directory hpath h => simp [isUrl_iff, hpath, validatePath, h]
  | otherFile hpath h hextension =>
    simp [isUrl_iff, hpath, validatePath, h, hasImageExtension_iff, hextension]
  | file hpath h hextension =>
    simp [isUrl_iff, hpath, validatePath, h, hasImageExtension_iff, hextension]

theorem exists_judges (w : World) (location : String) : ∃ r, Judges w location r := by
  by_cases haddress : IsAddress location
  · cases h : w.contentType location with
    | error causes => exact ⟨_, .unreachable haddress h⟩
    | ok type? =>
      cases type? with
      | none => exact ⟨_, .untyped haddress h⟩
      | some type =>
        by_cases htype : IsImageType type
        · exact ⟨_, .address haddress h htype⟩
        · exact ⟨_, .otherType haddress h htype⟩
  · cases h : w.entry location with
    | none => exact ⟨_, .missing haddress h⟩
    | some entry =>
      cases entry with
      | directory => exact ⟨_, .directory haddress h⟩
      | file =>
        by_cases hextension : HasImageExtension location
        · exact ⟨_, .file haddress h hextension⟩
        · exact ⟨_, .otherFile haddress h hextension⟩

theorem validate_eq_iff_judges {w : World} {location : String} {r : Except CompileError Unit} :
    validate w location = r ↔ Judges w location r := by
  refine ⟨?_, validate_of_judges⟩
  rintro rfl
  obtain ⟨r, hr⟩ := exists_judges w location
  rwa [validate_of_judges hr]

/-! ## No defects -/

theorem validateUrl_delivers (w : World) (url : String) :
    Delivers (validateUrl w url) fun _ => True := by
  unfold validateUrl
  cases w.contentType url with
  | error causes => exact .reject rfl
  | ok type =>
    cases type with
    | none => exact .reject rfl
    | some type => exact .guard _ rfl

theorem validatePath_delivers (w : World) (path : String) :
    Delivers (validatePath w path) fun _ => True := by
  unfold validatePath
  cases w.entry path with
  | none => exact .reject rfl
  | some entry =>
    cases entry with
    | directory => exact .reject rfl
    | file => exact .guard _ rfl

theorem validate_delivers (w : World) (location : String) :
    Delivers (validate w location) fun _ => True := by
  unfold validate
  cases isUrl location
  · exact validatePath_delivers w location
  · exact validateUrl_delivers w location

theorem forM_delivers {f : String → Except CompileError Unit}
    (hf : ∀ location, Delivers (f location) fun _ => True) (locations : List String) :
    Delivers (locations.forM f) fun _ => True := by
  induction locations with
  | nil => exact .ok trivial
  | cons location locations ih => exact .bind (hf location) fun _ _ => ih

theorem validateAll_delivers (w : World) (locations : List String) :
    Delivers (validateAll w locations) fun _ => True :=
  .bind (forM_delivers (validateUrl_delivers w) _) fun _ _ =>
    forM_delivers (validatePath_delivers w) _

theorem resolve_delivers (w : World) (text : String) :
    Delivers (Spec.resolve w text) fun _ => True := by
  apply Delivers.bind (.validation _)
  intro spec _
  apply Delivers.bind (validate_delivers w spec.location)
  intro _ _
  exact .ok trivial

/-! ## Lists of locations -/

variable {f : String → Except CompileError Unit} {locations : List String} {e : CompileError}

theorem forM_cons (location : String) :
    (location :: locations).forM f = f location >>= fun _ => locations.forM f :=
  rfl

theorem forM_eq_ok_iff : locations.forM f = .ok () ↔ ∀ l ∈ locations, f l = .ok () := by
  induction locations with
  | nil => simp [List.forM, pure, Except.pure]
  | cons location locations ih =>
    rw [forM_cons, bind_eq_ok_iff, List.forall_mem_cons, ih]
    exact ⟨fun ⟨_, hfirst, hrest⟩ => ⟨hfirst, hrest⟩, fun ⟨hfirst, hrest⟩ => ⟨(), hfirst, hrest⟩⟩

theorem exists_of_forM_eq_error (h : locations.forM f = .error e) :
    ∃ l ∈ locations, f l = .error e := by
  induction locations with
  | nil => cases h
  | cons location locations ih =>
    rw [forM_cons] at h
    rcases bind_eq_error_iff.1 h with h | ⟨_, -, h⟩
    · exact ⟨location, List.mem_cons_self, h⟩
    · obtain ⟨l, hl, he⟩ := ih h
      exact ⟨l, List.mem_cons_of_mem _ hl, he⟩

variable {w : World}

theorem validate_of_isUrl {location : String} (h : isUrl location) :
    validate w location = validateUrl w location :=
  if_pos h

theorem validate_of_not_isUrl {location : String} (h : (!isUrl location) = true) :
    validate w location = validatePath w location :=
  if_neg (by simpa using h)

/-- A list of locations is accepted if each of them is. -/
theorem validateAll_eq_ok_iff :
    validateAll w locations = .ok () ↔ ∀ l ∈ locations, validate w l = .ok () := by
  have hsplit : validateAll w locations = .ok () ↔
      (locations.filter isUrl).forM (validateUrl w) = .ok () ∧
        (locations.filter fun l => !isUrl l).forM (validatePath w) = .ok () := by
    rw [validateAll, bind_eq_ok_iff]
    exact ⟨fun ⟨_, hurls, hpaths⟩ => ⟨hurls, hpaths⟩, fun ⟨hurls, hpaths⟩ => ⟨(), hurls, hpaths⟩⟩
  rw [hsplit, forM_eq_ok_iff, forM_eq_ok_iff]
  simp only [List.mem_filter]
  constructor
  · rintro ⟨hurls, hpaths⟩ l hl
    cases hurl : isUrl l with
    | true =>
      rw [validate_of_isUrl hurl]
      exact hurls l ⟨hl, hurl⟩
    | false =>
      rw [validate_of_not_isUrl (by simp [hurl])]
      exact hpaths l ⟨hl, by simp [hurl]⟩
  · intro h
    constructor
    · rintro l ⟨hl, hurl⟩
      rw [← validate_of_isUrl hurl]
      exact h l hl
    · rintro l ⟨hl, hurl⟩
      rw [← validate_of_not_isUrl hurl]
      exact h l hl

/-- A list of locations is refused with the error of one of them. -/
theorem exists_of_validateAll_eq_error (h : validateAll w locations = .error e) :
    ∃ l ∈ locations, validate w l = .error e := by
  rcases bind_eq_error_iff.1 h with h | ⟨_, -, h⟩
  · obtain ⟨l, hl, he⟩ := exists_of_forM_eq_error h
    obtain ⟨hl, hurl⟩ := List.mem_filter.1 hl
    exact ⟨l, hl, (validate_of_isUrl hurl).trans he⟩
  · obtain ⟨l, hl, he⟩ := exists_of_forM_eq_error h
    obtain ⟨hl, hurl⟩ := List.mem_filter.1 hl
    exact ⟨l, hl, (validate_of_not_isUrl hurl).trans he⟩

end Renderflow.Image
