import Renderflow.Image.Spec
import Renderflow.Proofs.Text.Numeral
import Renderflow.Proofs.Text.Pattern
import Mathlib

/-!
# The grammar of image specs

The pattern of a spec is tried in many ways, and what it comes to is a grammar without any trying:
digits, all white space after them, and then a location in quotes or on one line. A spec in print is
read back.
-/

namespace Renderflow.Image

open Pattern

/-! ## The grammar -/

/-- A text in quotes, with no quote in it. -/
structure Quoted (rest content : List Char) : Prop where
  rest : rest = '"' :: (content ++ ['"'])
  ne_nil : content ≠ []
  quote : '"' ∉ content

/-- The location in what follows the white space. -/
inductive Locates (rest : List Char) : String → Prop
  | quoted {content : List Char} (h : Quoted rest content) :
    Locates rest (Text.trim (String.ofList content))
  | bare (hquoted : ∀ content, ¬ Quoted rest content) (hline : '\n' ∉ rest) :
    Locates rest (String.ofList rest)

/-- A text that starts with digits and white space. White space is no digit, so these are all the
digits, and what is left does not start with white space, so this is all of it. -/
structure Form (s : String) (digits blanks rest : List Char) : Prop where
  text : s.toList = digits ++ (blanks ++ rest)
  digits_ne : digits ≠ []
  digits : ∀ c ∈ digits, Text.isDecimal c
  blanks_ne : blanks ≠ []
  blanks : ∀ c ∈ blanks, Text.isBlank c
  rest_ne : rest ≠ []
  rest : ∀ c, rest.head? = some c → Text.isBlank c = false

/-- The strength that digits write. -/
def WritesStrength (digits : List Char) (strength : UInt8) : Prop :=
  strength ≤ 100 ∧ Text.Writes digits strength.toNat

/-- What a text is read as. -/
inductive Reads (text : String) : Except ValidationError Spec → Prop
  | malformed
    (h : ∀ digits blanks rest location, Form (Text.trim text) digits blanks rest →
      ¬ Locates rest location) :
    Reads text (.error (.invalidImageSpec (Text.trim text)))
  | outOfRange {digits blanks rest : List Char} {location : String}
    (hform : Form (Text.trim text) digits blanks rest) (hlocation : Locates rest location)
    (hstrength : ∀ strength, ¬ WritesStrength digits strength) :
    Reads text (.error (.strengthOutOfRange (String.ofList digits)))
  | blank {digits blanks rest : List Char} {strength : UInt8}
    (hform : Form (Text.trim text) digits blanks rest) (hlocation : Locates rest "")
    (hstrength : WritesStrength digits strength) :
    Reads text (.error (.invalidImageSpec (Text.trim text)))
  | spec {digits blanks rest : List Char} {location : String} {strength : UInt8}
    (hform : Form (Text.trim text) digits blanks rest) (hlocation : Locates rest location)
    (hne : location ≠ "") (hstrength : WritesStrength digits strength) :
    Reads text (.ok { strength, location })

variable {s : String} {cs digits blanks rest content : List Char} {groups kept : Groups}

/-! ## What the pattern comes to -/

theorem first?_quote_eq_some_iff :
    first? groups kept? (.one (· == '"')) cs = some kept ↔ cs = ['"'] ∧ kept = groups := by
  cases cs with
  | nil => simp [first?]
  | cons c rest =>
    by_cases hc : c = '"'
    · cases rest <;> simp [first?, kept?, hc, eq_comm (a := kept)]
    · simp [first?, hc]

theorem not_quoted_nil (content : List Char) : ¬ Quoted [] content :=
  fun h => nomatch h.rest

theorem quoted_cons_iff {c : Char} :
    Quoted (c :: rest) content ↔
      c = '"' ∧ rest = content ++ ['"'] ∧ content ≠ [] ∧ '"' ∉ content := by
  constructor
  · rintro ⟨hrest, hne, hquote⟩
    obtain ⟨rfl, rfl⟩ := List.cons.inj hrest
    exact ⟨rfl, rfl, hne, hquote⟩
  · rintro ⟨rfl, rfl, hne, hquote⟩
    exact ⟨rfl, hne, hquote⟩

theorem bne_of_not_mem {d : Char} (h : d ∉ cs) : ∀ c ∈ cs, (c != d) = true :=
  fun _ hc => bne_iff_ne.2 fun heq => h (heq ▸ hc)

/-- What is kept of a text up to a quote that ends it. -/
theorem first?_unquoted_eq_some_iff :
    first? groups kept? (.seq (.group 2 (.many (· != '"'))) (.one (· == '"'))) cs = some kept ↔
      ∃ content, cs = content ++ ['"'] ∧ content ≠ [] ∧ '"' ∉ content ∧
        kept = (2, content) :: groups := by
  have hstop : ∀ groups c rest, (c != '"') = true →
      first? groups kept? (.one (· == '"')) (c :: rest) = none := by
    intro groups c rest hc
    simp [first?, bne_iff_ne.1 hc]
  rw [first?, first?_group_many hstop]
  constructor
  · intro h
    split at h
    · cases h
    · next hne =>
      obtain ⟨hend, rfl⟩ := first?_quote_eq_some_iff.1 h
      refine ⟨cs.takeWhile (· != '"'), ?_, by simpa using hne, fun hmem => ?_, rfl⟩
      · rw [← hend, List.takeWhile_append_dropWhile]
      · simpa using List.mem_takeWhile_imp hmem
  · rintro ⟨content, rfl, hne, hquote, rfl⟩
    obtain ⟨htake, hdrop⟩ : (content ++ ['"']).takeWhile (· != '"') = content ∧
        (content ++ ['"']).dropWhile (· != '"') = ['"'] :=
      Text.span_run (bne_of_not_mem hquote) (by simp)
    rw [htake, hdrop, if_neg (by simpa using hne)]
    exact first?_quote_eq_some_iff.2 ⟨rfl, rfl⟩

theorem first?_quoted_eq_some_iff :
    first? groups kept? quotedPattern cs = some kept ↔
      ∃ content, Quoted cs content ∧ kept = (2, content) :: groups := by
  rw [quotedPattern, first?]
  cases cs with
  | nil => simp [first?, not_quoted_nil]
  | cons c rest =>
    unfold first?
    by_cases hc : c = '"'
    · simp [hc, quoted_cons_iff, first?_unquoted_eq_some_iff, and_assoc]
    · simp [hc, quoted_cons_iff]

theorem first?_line_eq_some_iff :
    first? groups kept? linePattern cs = some kept ↔
      cs ≠ [] ∧ '\n' ∉ cs ∧ kept = (3, cs) :: groups := by
  rw [linePattern, first?_group_many fun groups c rest _ => rfl]
  by_cases hline : '\n' ∈ cs
  · -- The run ends at the line break, before the end of the text.
    have hrest : (cs.dropWhile (· != '\n')) ≠ [] := fun hnil =>
      absurd (List.dropWhile_eq_nil_iff.1 hnil _ hline) (by simp)
    simp [kept?, hline, hrest]
  · rw [List.takeWhile_eq_self_iff.2 (bne_of_not_mem hline),
      List.dropWhile_eq_nil_iff.2 (bne_of_not_mem hline)]
    simp [kept?, hline, eq_comm (a := kept)]

/-- What is kept of a location: what is in the quotes, or else all of it. -/
theorem first?_location_eq_some_iff :
    first? groups kept? locationPattern rest = some kept ↔
      (∃ content, Quoted rest content ∧ kept = (2, content) :: groups) ∨
        (∀ content, ¬ Quoted rest content) ∧ rest ≠ [] ∧ '\n' ∉ rest ∧
          kept = (3, rest) :: groups := by
  rw [locationPattern, first?, ← first?_quoted_eq_some_iff, ← first?_line_eq_some_iff]
  by_cases hquoted : ∃ content, Quoted rest content
  · obtain ⟨content, hcontent⟩ := hquoted
    rw [first?_quoted_eq_some_iff.2 ⟨content, hcontent, rfl⟩]
    have hnot : ¬ ∀ content, ¬ Quoted rest content := fun h => h content hcontent
    simp [hnot]
  · have hnone : first? groups kept? quotedPattern rest = none := by
      by_contra hsome
      obtain ⟨kept, hkept⟩ := Option.ne_none_iff_exists'.1 hsome
      obtain ⟨content, hcontent, -⟩ := first?_quoted_eq_some_iff.1 hkept
      exact hquoted ⟨content, hcontent⟩
    simp [hnone, not_exists.1 hquoted]

theorem exists_first?_location (groups : Groups) (hne : rest ≠ []) (hline : '\n' ∉ rest) :
    ∃ kept, first? groups kept? locationPattern rest = some kept := by
  by_cases hquoted : ∃ content, Quoted rest content
  · obtain ⟨content, hcontent⟩ := hquoted
    exact ⟨_, first?_location_eq_some_iff.2 (.inl ⟨content, hcontent, rfl⟩)⟩
  · exact ⟨_, first?_location_eq_some_iff.2 (.inr ⟨not_exists.1 hquoted, hne, hline, rfl⟩)⟩

/-- A location is found after all the white space or not at all, if something else follows it. -/
theorem first?_location_of_blank {c : Char} (hc : Text.isBlank c)
    (hne : (c :: cs).dropWhile Text.isBlank ≠ [])
    (hnone : first? groups kept? locationPattern ((c :: cs).dropWhile Text.isBlank) = none) :
    first? groups kept? locationPattern (c :: cs) = none := by
  by_contra hsome
  obtain ⟨kept, hkept⟩ := Option.ne_none_iff_exists'.1 hsome
  rcases first?_location_eq_some_iff.1 hkept with ⟨content, hcontent, -⟩ | ⟨-, -, hline, -⟩
  · obtain ⟨rfl, -⟩ := quoted_cons_iff.1 hcontent
    exact absurd hc (by decide)
  · have hrest : '\n' ∉ (c :: cs).dropWhile Text.isBlank := fun hmem =>
      hline ((List.dropWhile_suffix _).subset hmem)
    obtain ⟨kept, hkept⟩ := exists_first?_location groups hne hrest
    rw [hnone] at hkept
    cases hkept

/-- What is kept of white space and a location in a text that does not end with white space. -/
theorem first?_blanks_eq_some_iff (hend : ∀ c, cs.getLast? = some c → Text.isBlank c = false) :
    first? groups kept? (.seq (.many Text.isBlank) locationPattern) cs = some kept ↔
      ∃ blanks rest, cs = blanks ++ rest ∧ blanks ≠ [] ∧ (∀ c ∈ blanks, Text.isBlank c) ∧
        (∀ c, rest.head? = some c → Text.isBlank c = false) ∧
        first? groups kept? locationPattern rest = some kept := by
  rcases cs.eq_nil_or_concat' with rfl | ⟨init, last, rfl⟩
  · simp [first?, longest?, List.nil_eq, and_assoc]
  have hlast : Text.isBlank last = false := hend last (by simp)
  have hne : (init ++ [last]).dropWhile Text.isBlank ≠ [] := fun hnil => by
    have hblank := List.dropWhile_eq_nil_iff.1 hnil last (by simp)
    simp [hlast] at hblank
  rw [first?, first?, longest?_eq]
  · constructor
    · intro h
      split at h
      · cases h
      · next hblanks =>
        exact ⟨_, _, List.takeWhile_append_dropWhile.symm, by simpa using hblanks,
          fun c hc => List.mem_takeWhile_imp hc, fun c hc => Text.isBlank_of_head?_trimStart hc, h⟩
    · rintro ⟨blanks, rest, hcs, hblanks_ne, hblanks, hrest, h⟩
      obtain ⟨htake, hdrop⟩ := Text.span_run hblanks hrest
      rw [hcs, htake, hdrop, if_neg (by simpa using hblanks_ne), h]
  · intro c rest hc hrest hnone
    rw [← hrest] at hne hnone
    exact first?_location_of_blank hc hne hnone

theorem captures?_eq_some_iff (hs : Text.IsTrimmed s) :
    specPattern.captures? s = some kept ↔ ∃ digits blanks rest, Form s digits blanks rest ∧
      first? [(1, digits)] kept? locationPattern rest = some kept := by
  have hstop : ∀ groups c rest, Text.isDecimal c →
      first? groups kept? (.seq (.many Text.isBlank) locationPattern) (c :: rest) = none := by
    intro groups c rest hc
    simp [first?, longest?, Text.not_isBlank_of_isDecimal hc]
  rw [captures?, specPattern, first?, first?_group_many hstop]
  have hsplit := List.takeWhile_append_dropWhile (p := Text.isDecimal) (l := s.toList)
  have hend : ∀ c, (s.toList.dropWhile Text.isDecimal).getLast? = some c →
      Text.isBlank c = false := by
    intro c hc
    apply hs.last
    rw [← hsplit, List.getLast?_append, hc]
    rfl
  constructor
  · intro h
    split at h
    · cases h
    · next hdigits =>
      obtain ⟨blanks, rest, hrest, hblanks_ne, hblanks, hhead, h⟩ :=
        (first?_blanks_eq_some_iff hend).1 h
      refine ⟨_, blanks, rest, ⟨?_, by simpa using hdigits, fun c hc => List.mem_takeWhile_imp hc,
        hblanks_ne, hblanks, ?_, hhead⟩, h⟩
      · rw [← hrest, hsplit]
      · rintro rfl
        have hnot : ∀ content, ¬ Quoted [] content := not_quoted_nil
        simp [first?_location_eq_some_iff, hnot] at h
  · rintro ⟨digits, blanks, rest, hform, h⟩
    have hblanks : ∀ c, (blanks ++ rest).head? = some c → Text.isDecimal c = false := by
      intro c hc
      rw [List.head?_append_of_ne_nil _ hform.blanks_ne] at hc
      by_contra hdecimal
      have hblank := hform.blanks c (List.mem_of_mem_head? hc)
      rw [Text.not_isBlank_of_isDecimal (by simpa using hdecimal)] at hblank
      cases hblank
    obtain ⟨htake, hdrop⟩ := Text.span_run hform.digits hblanks
    rw [← hform.text] at htake hdrop
    rw [htake, if_neg (by simpa using hform.digits_ne), first?_blanks_eq_some_iff hend]
    exact ⟨blanks, rest, hdrop, hform.blanks_ne, hform.blanks, hform.rest, h⟩

/-! ## What a spec is read as -/

/-- The text of a location, before it is trimmed. -/
inductive Content (rest : List Char) : List Char → Prop
  | quoted {content : List Char} (h : Quoted rest content) : Content rest content
  | bare (hquoted : ∀ content, ¬ Quoted rest content) (hline : '\n' ∉ rest) : Content rest rest

theorem parts?_eq_some_iff {text : String} {part : String × String} :
    parts? text = some part ↔ ∃ digits blanks rest content,
      Form (Text.trim text) digits blanks rest ∧ Content rest content ∧
        part = (String.ofList digits, String.ofList content) := by
  simp only [parts?, Option.bind_eq_bind, Option.bind_eq_some_iff, Option.pure_def,
    captures?_eq_some_iff (Text.isTrimmed_trim text), first?_location_eq_some_iff]
  constructor
  · rintro ⟨kept, ⟨digits, blanks, rest, hform, hkept⟩, found, hfound, hpart⟩
    rcases hkept with ⟨content, hcontent, rfl⟩ | ⟨hquoted, -, hline, rfl⟩
    · obtain rfl : digits = found := by simpa [List.lookup] using hfound
      refine ⟨digits, blanks, rest, content, hform, .quoted hcontent, ?_⟩
      simpa [List.lookup, eq_comm] using hpart
    · obtain rfl : digits = found := by simpa [List.lookup] using hfound
      refine ⟨digits, blanks, rest, rest, hform, .bare hquoted hline, ?_⟩
      simpa [List.lookup, eq_comm] using hpart
  · rintro ⟨digits, blanks, rest, content, hform, hcontent, rfl⟩
    cases hcontent with
    | quoted h => exact ⟨_, ⟨digits, blanks, rest, hform, .inl ⟨content, h, rfl⟩⟩, digits, rfl, rfl⟩
    | bare hquoted hline =>
      exact ⟨_, ⟨digits, blanks, rest, hform, .inr ⟨hquoted, hform.rest_ne, hline, rfl⟩⟩, digits,
        rfl, rfl⟩

theorem Form.isTrimmed_rest (h : Form s digits blanks rest) (hs : Text.IsTrimmed s) :
    Text.IsTrimmed (String.ofList rest) where
  first c hc := h.rest c (by simpa using hc)
  last c hc := by
    apply hs.last
    rw [String.toList_ofList] at hc
    rw [h.text, List.getLast?_append, List.getLast?_append, hc]
    rfl

theorem locates_iff {text location : String} (h : Form (Text.trim text) digits blanks rest) :
    Locates rest location ↔
      ∃ content, Content rest content ∧ location = Text.trim (String.ofList content) := by
  have htrim := Text.trim_eq_self (h.isTrimmed_rest (Text.isTrimmed_trim text))
  constructor
  · rintro (hquoted | ⟨hquoted, hline⟩)
    · exact ⟨_, .quoted hquoted, rfl⟩
    · exact ⟨rest, .bare hquoted hline, htrim.symm⟩
  · rintro ⟨content, hquoted | ⟨hquoted, hline⟩, rfl⟩
    · exact .quoted hquoted
    · rw [htrim]
      exact .bare hquoted hline

theorem writesStrength_iff {strength : UInt8} (h : Form s digits blanks rest) :
    (Text.uint8? (String.ofList digits)).filter (· ≤ 100) = some strength ↔
      WritesStrength digits strength := by
  have hsign : digits.head? ≠ some '+' := fun hhead =>
    absurd (h.digits _ (List.mem_of_mem_head? hhead)) (by decide)
  rw [Option.filter_eq_some_iff, Text.uint8?_eq_some_iff hsign, decide_eq_true_iff, WritesStrength,
    and_comm]

theorem exists_parts {text location : String} (hform : Form (Text.trim text) digits blanks rest)
    (h : Locates rest location) : ∃ content, Text.trim content = location ∧
      parts? text = some (String.ofList digits, content) := by
  obtain ⟨content, hcontent, hlocation⟩ := (locates_iff hform).1 h
  exact ⟨String.ofList content, hlocation.symm,
    parts?_eq_some_iff.2 ⟨digits, blanks, rest, content, hform, hcontent, rfl⟩⟩

/-- A text is read in accordance with the grammar. -/
theorem parse_of_reads {text : String} {r : Except ValidationError Spec} (h : Reads text r) :
    Spec.parse text = r := by
  cases h with
  | malformed h =>
    have hnone : parts? text = none := by
      by_contra hsome
      obtain ⟨part, hpart⟩ := Option.ne_none_iff_exists'.1 hsome
      obtain ⟨digits, blanks, rest, content, hform, hcontent, -⟩ := parts?_eq_some_iff.1 hpart
      exact h _ _ _ _ hform ((locates_iff hform).2 ⟨content, hcontent, rfl⟩)
    rw [Spec.parse, hnone]
  | outOfRange hform hlocation hstrength =>
    obtain ⟨content, -, hparts⟩ := exists_parts hform hlocation
    have hnone := Option.eq_none_iff_forall_ne_some.2 fun strength h =>
      hstrength strength ((writesStrength_iff hform).1 h)
    simp only [Spec.parse, hparts, hnone]
  | blank hform hlocation hstrength =>
    obtain ⟨content, hempty, hparts⟩ := exists_parts hform hlocation
    simp [Spec.parse, hparts, (writesStrength_iff hform).2 hstrength, hempty]
  | spec hform hlocation hne hstrength =>
    obtain ⟨content, hcontent, hparts⟩ := exists_parts hform hlocation
    simp [Spec.parse, hparts, (writesStrength_iff hform).2 hstrength, hcontent, hne]

/-- The grammar has a case for each text. -/
theorem exists_reads (text : String) : ∃ r, Reads text r := by
  by_cases hform : ∃ digits blanks rest location,
      Form (Text.trim text) digits blanks rest ∧ Locates rest location
  · obtain ⟨digits, blanks, rest, location, hform, hlocation⟩ := hform
    by_cases hstrength : ∃ strength, WritesStrength digits strength
    · obtain ⟨strength, hstrength⟩ := hstrength
      by_cases hne : location = ""
      · subst hne
        exact ⟨_, .blank hform hlocation hstrength⟩
      · exact ⟨_, .spec hform hlocation hne hstrength⟩
    · exact ⟨_, .outOfRange hform hlocation (not_exists.1 hstrength)⟩
  · exact ⟨_, .malformed fun digits blanks rest location h h' =>
      hform ⟨digits, blanks, rest, location, h, h'⟩⟩

theorem parse_eq_iff_reads {text : String} {r : Except ValidationError Spec} :
    Spec.parse text = r ↔ Reads text r := by
  refine ⟨?_, parse_of_reads⟩
  rintro rfl
  obtain ⟨r, hr⟩ := exists_reads text
  rwa [parse_of_reads hr]

/-! ## Specs in print -/

/-- A spec in print, with its location in quotes. -/
def Spec.print (s : Spec) : String :=
  toString s.strength.toNat ++ " \"" ++ s.location ++ "\""

theorem Spec.isTrimmed_print (spec : Spec) : Text.IsTrimmed spec.print := by
  have hquote : Text.IsTrimmed "\"" := by constructor <;> simp [Text.isBlank]
  have htrimmed := (Text.isTrimmed_toString spec.strength.toNat).append
    (Text.toString_ne_empty _) (" \"" ++ spec.location) hquote (by decide)
  rwa [← String.append_assoc] at htrimmed

/-- A spec in print is read back. -/
theorem parse_print {spec : Spec} (hstrength : spec.strength ≤ 100)
    (htrimmed : Text.IsTrimmed spec.location) (hne : spec.location ≠ "")
    (hquote : '"' ∉ spec.location.toList) : Spec.parse spec.print = .ok spec := by
  have hform : Form (Text.trim spec.print) (toString spec.strength.toNat).toList [' ']
      ('"' :: (spec.location.toList ++ ['"'])) := by
    rw [Text.trim_eq_self spec.isTrimmed_print]
    exact
      { text := by simp [Spec.print]
        digits_ne := by simp
        digits := fun c hc => Text.isDecimal_of_isDigit (Text.isDigit_of_mem_toString hc)
        blanks_ne := List.cons_ne_nil _ _
        blanks := by simp [Text.isBlank]
        rest_ne := List.cons_ne_nil _ _
        rest := by simp [Text.isBlank] }
  have hlocation : Locates ('"' :: (spec.location.toList ++ ['"'])) spec.location := by
    have hquoted := Locates.quoted ⟨rfl, by simpa using hne, hquote⟩
    rwa [String.ofList_toList, Text.trim_eq_self htrimmed] at hquoted
  exact parse_of_reads (.spec hform hlocation hne ⟨hstrength, 0, rfl⟩)

/-- A text is read by the grammar of specs alone, and so a spec in print is read back. -/
theorem parse_reads :
    (∀ text r, Spec.parse text = r ↔ Reads text r) ∧
      ∀ spec : Spec, spec.strength ≤ 100 → Text.IsTrimmed spec.location → spec.location ≠ "" →
        '"' ∉ spec.location.toList → Spec.parse spec.print = .ok spec :=
  ⟨fun _ _ => parse_eq_iff_reads, fun _ => parse_print⟩

example : Spec.parse " 070 \"a\" b " = .ok ⟨70, "\"a\" b"⟩ := by cbv

theorem parse_reads_quoted :
    Text.IsTrimmed "My Images/cat.png" ∧
      Spec.parse "35 \"My Images/cat.png\"" = .ok ⟨35, "My Images/cat.png"⟩ := by
  have htrimmed : Text.IsTrimmed "My Images/cat.png" := by constructor <;> simp [Text.isBlank]
  exact ⟨htrimmed, parse_reads.2 ⟨35, "My Images/cat.png"⟩ (by decide) htrimmed (by decide)
    (by decide)⟩

end Renderflow.Image
