import Mathlib.Data.List.Forall2
import Renderflow.Proofs.Json.Token

/-!
# Text read back

The text of a value, with one item a line, is read as the value.
-/

namespace Renderflow.Json

/-! ## Values whose text is read back -/

mutual

/-- Whole numbers are words of 64 bits, doubles are read back from their text, and arrays and
objects nest in so many levels at most. -/
def isLegible (levels : Nat) : Json → Bool
  | int n => Int64.minValue.toInt ≤ n && n < UInt64.size
  | float x => readsBack x
  | arr items => 0 < levels && itemsLegible (levels - 1) items
  | obj fields => 0 < levels && fieldsLegible (levels - 1) fields
  | _ => true

def itemsLegible (levels : Nat) : List Json → Bool
  | [] => true
  | j :: rest => isLegible levels j && itemsLegible levels rest

def fieldsLegible (levels : Nat) : List (String × Json) → Bool
  | [] => true
  | (_, j) :: rest => isLegible levels j && fieldsLegible levels rest

end

/-! ## White space -/

theorem skipSpace_append {blank : List Char} (h : ∀ c ∈ blank, isSpace c) (rest : List Char) :
    skipSpace (blank ++ rest) = skipSpace rest :=
  List.dropWhile_append_of_pos h

theorem skipSpace_of_head {cs : List Char} (h : ∀ c ∈ cs.head?, isSpace c = false) :
    skipSpace cs = cs := by
  cases cs with
  | nil => rfl
  | cons c cs => exact List.dropWhile_cons_of_neg (by simp [h c rfl])

theorem isSpace_of_mem_newLine {level : Nat} {c : Char} (h : c ∈ (newLine level).toList) :
    isSpace c := by
  simp only [newLine, String.toList_append, String.toList_ofList, List.mem_append,
    List.mem_replicate] at h
  rcases h with h | ⟨-, rfl⟩
  · obtain rfl : c = '\n' := by simpa using h
    rfl
  · rfl

/-! ## Texts of values -/

/-- A text from which a value is read, whatever follows it that does not go on with a number. -/
def IsTextOf (depth : Nat) (cs : List Char) (j : Json) : Prop :=
  ∀ fuel rest, EndsNumber rest → 2 * cs.length ≤ fuel + 1 →
    value? fuel depth (cs ++ rest) = some (j, rest)

/-- The fuel for a text that is not empty allows a first step. -/
theorem isTextOf_of_step {depth : Nat} {cs : List Char} {j : Json} (hne : cs ≠ [])
    (h : ∀ fuel rest, EndsNumber rest → 2 * cs.length ≤ fuel + 2 →
      value? (fuel + 1) depth (cs ++ rest) = some (j, rest)) : IsTextOf depth cs j := by
  intro fuel rest hrest hfuel
  have hlength := List.length_pos_of_ne_nil hne
  obtain ⟨fuel, rfl⟩ := Nat.exists_eq_add_one_of_ne_zero (n := fuel) (by omega)
  exact h fuel rest hrest hfuel

theorem head_of_number? {c : Char} {cs : List Char} {x : Json × List Char}
    (h : number? (c :: cs) = some x) : c = '-' ∨ c.isDigit := by
  unfold number? at h
  split at h
  next heq => exact .inl (List.cons.inj heq).1
  next =>
    right
    by_contra hc
    simp [unsignedNumber?, hc] at h

theorem value?_of_number? {fuel depth : Nat} {cs : List Char} {x : Json × List Char}
    (h : number? cs = some x) : value? (fuel + 1) depth cs = some x := by
  cases cs with
  | nil => cases h
  | cons c cs =>
    have hhead := head_of_number? h
    rw [value?]
    · exact h
    all_goals
      rintro _ ⟨⟩
      exact absurd hhead (by decide)

/-- No value begins with white space or with a closing bracket. -/
theorem head_of_value? {fuel depth : Nat} {c : Char} {cs : List Char} {x : Json × List Char}
    (h : value? fuel depth (c :: cs) = some x) : isSpace c = false ∧ c ≠ ']' := by
  cases fuel with
  | zero => cases h
  | succ fuel =>
    by_contra hc
    have hblank : c ∈ [' ', '\n', '\t', '\r', ']'] := by
      simp only [isSpace, Bool.or_eq_false_iff, beq_eq_false_iff_ne] at hc
      simp only [List.mem_cons, List.not_mem_nil, or_false]
      tauto
    have hnone : ∀ c ∈ [' ', '\n', '\t', '\r', ']'], number? (c :: cs) = none := by
      simp [number?, unsignedNumber?]
    have hvalue : ∀ c ∈ [' ', '\n', '\t', '\r', ']'],
        value? (fuel + 1) depth (c :: cs) = number? (c :: cs) := by
      simp [value?]
    cases (hvalue c hblank).symm.trans h ▸ hnone c hblank

theorem isTextOf_of_number? {depth : Nat} {cs : List Char} {j : Json}
    (h : number? cs = some (j, [])) : IsTextOf depth cs j := by
  have hne : cs ≠ [] := by
    rintro rfl
    cases h
  exact isTextOf_of_step hne fun fuel rest hrest _ => value?_of_number? (number?_append hrest h)

theorem toList_quoted (s : String) :
    (quoted s).toList = '"' :: (s.toList.flatMap escape ++ ['"']) := by
  simp [quoted]

theorem isTextOf_quoted (depth : Nat) (s : String) : IsTextOf depth (quoted s).toList (str s) := by
  rw [toList_quoted]
  refine isTextOf_of_step (List.cons_ne_nil _ _) fun fuel rest _ _ => ?_
  simp [value?, string?_escape]

theorem isTextOf_null (depth : Nat) : IsTextOf depth "null".toList null :=
  isTextOf_of_step (by decide) fun _ _ _ _ => rfl

theorem isTextOf_bool (depth : Nat) (b : Bool) :
    IsTextOf depth (if b then "true" else "false").toList (bool b) := by
  cases b <;> exact isTextOf_of_step (by decide) fun _ _ _ _ => rfl

/-! ## Lists of texts -/

variable {α : Type} {read : Nat → List Char → Option (List α × List Char)} {close : Char}

/-- A text from which the first entry of a list is read, which goes on after a comma and ends
with a closing bracket. -/
structure IsEntryOf (read : Nat → List Char → Option (List α × List Char)) (close : Char)
    (cs : List Char) (a : α) : Prop where
  head : ∃ c rest, cs = c :: rest ∧ isSpace c = false ∧ c ≠ close
  next : ∀ fuel after more, EndsNumber after → 2 * cs.length ≤ fuel + 1 →
    skipSpace after = ',' :: more → read (fuel + 1) (cs ++ after) =
      (read fuel (skipSpace more)).map fun x => (a :: x.1, x.2)
  last : ∀ fuel after more, EndsNumber after → 2 * cs.length ≤ fuel + 1 →
    skipSpace after = close :: more → read (fuel + 1) (cs ++ after) = some ([a], more)

theorem exists_intercalate_eq_cons (sep : List Char) (c : Char) (cs : List Char)
    (texts : List (List Char)) : ∃ rest, sep.intercalate ((c :: cs) :: texts) = c :: rest := by
  cases texts with
  | nil => exact ⟨cs, List.intercalate_singleton⟩
  | cons => exact ⟨_, by rw [List.intercalate_cons_cons, List.append_assoc, List.cons_append]⟩

/-- Entries after each other, with a comma and white space between them. -/
theorem read_intercalate {texts : List (List Char)} {l : List α}
    (h : List.Forall₂ (IsEntryOf read close) texts l) (hne : l ≠ []) {blank tail rest : List Char}
    (hblank : ∀ c ∈ blank, isSpace c) (htail : EndsNumber tail)
    (hclose : skipSpace tail = close :: rest) {fuel : Nat}
    (hfuel : 2 * ((',' :: blank).intercalate texts).length ≤ fuel) :
    read fuel ((',' :: blank).intercalate texts ++ tail) = some (l, rest) := by
  induction h generalizing fuel with
  | nil => exact absurd rfl hne
  | @cons cs a texts l hentry hentries ih =>
    obtain ⟨c, cs', hcs, -⟩ := hentry.head
    cases hentries with
    | nil =>
      rw [List.intercalate_singleton] at hfuel ⊢
      obtain ⟨fuel, rfl⟩ := Nat.exists_eq_add_one_of_ne_zero (n := fuel) (by
        rw [hcs, List.length_cons] at hfuel
        omega)
      exact hentry.last fuel tail rest htail (by omega) hclose
    | @cons cs₂ b texts l hsecond hrest =>
      obtain ⟨c₂, cs₂', rfl, hspace, -⟩ := hsecond.head
      obtain ⟨more, hmore⟩ := exists_intercalate_eq_cons (',' :: blank) c₂ cs₂' texts
      have hstart : skipSpace (blank ++ (c₂ :: more ++ tail)) = c₂ :: more ++ tail := by
        rw [skipSpace_append hblank]
        exact skipSpace_of_head (by simpa using hspace)
      have hcomma : EndsNumber (',' :: (blank ++ (c₂ :: more ++ tail))) := by
        rintro _ ⟨⟩
        decide
      have hlength := hfuel
      rw [List.intercalate_cons_cons, hmore] at hlength ⊢
      simp only [List.length_append, List.length_cons, hcs] at hlength
      obtain ⟨fuel, rfl⟩ := Nat.exists_eq_add_one_of_ne_zero (n := fuel) (by omega)
      have hrest : read fuel (c₂ :: more ++ tail) = some (b :: l, rest) := by
        rw [← hmore]
        refine ih (List.cons_ne_nil b l) ?_
        rw [hmore, List.length_cons]
        omega
      have hnext := hentry.next fuel _ _ hcomma (by rw [hcs, List.length_cons]; omega) rfl
      rw [hstart, hrest] at hnext
      simpa using hnext

theorem IsTextOf.head {depth : Nat} {cs : List Char} {j : Json} (h : IsTextOf depth cs j) :
    ∃ c rest, cs = c :: rest ∧ isSpace c = false ∧ c ≠ ']' := by
  have hvalue := h (2 * cs.length) [] (by simp [EndsNumber]) (Nat.le_succ _)
  cases cs with
  | nil => cases hvalue
  | cons c cs => exact ⟨c, cs, rfl, head_of_value? (List.append_nil _ ▸ hvalue)⟩

theorem isEntryOf_item {depth : Nat} {cs : List Char} {j : Json} (h : IsTextOf depth cs j) :
    IsEntryOf (items? · depth) ']' cs j where
  head := h.head
  next fuel after more hafter hfuel hcomma := by
    simp only [items?, h fuel after hafter hfuel, Option.bind_eq_bind, Option.bind_some, hcomma]
    cases items? fuel depth (skipSpace more) <;> rfl
  last fuel after more hafter hfuel hclose := by
    simp only [items?, h fuel after hafter hfuel, Option.bind_eq_bind, Option.bind_some, hclose]
    rfl

/-- The text of a field. -/
def fieldText (key : String) (cs : List Char) : List Char :=
  (quoted key).toList ++ ':' :: ' ' :: cs

theorem fieldText_append (key : String) (cs after : List Char) : fieldText key cs ++ after =
    '"' :: (key.toList.flatMap escape ++ '"' :: ':' :: ' ' :: (cs ++ after)) := by
  simp [fieldText, toList_quoted]

theorem isEntryOf_field {depth : Nat} {cs : List Char} (key : String) {j : Json}
    (h : IsTextOf depth cs j) : IsEntryOf (fields? · depth) '}' (fieldText key cs) (key, j) := by
  obtain ⟨c, cs', hcs, hspace, -⟩ := h.head
  have hvalue : ∀ fuel after, EndsNumber after → 2 * (fieldText key cs).length ≤ fuel + 1 →
      value? fuel depth (skipSpace (' ' :: (cs ++ after))) = some (j, after) := by
    intro fuel after hafter hfuel
    have hlength : cs.length ≤ (fieldText key cs).length := by
      simp only [fieldText, List.length_append, List.length_cons]
      omega
    have hstart : skipSpace (' ' :: (cs ++ after)) = cs ++ after := by
      show skipSpace (cs ++ after) = _
      exact skipSpace_of_head (by simpa [hcs] using hspace)
    rw [hstart]
    exact h fuel after hafter (by omega)
  have hcolon : ∀ rest, skipSpace (':' :: rest) = ':' :: rest := fun rest => rfl
  have htext := fieldText_append key cs []
  rw [List.append_nil] at htext
  refine ⟨⟨'"', _, htext, by decide, by decide⟩, ?_, ?_⟩
  · intro fuel after more hafter hfuel hcomma
    simp only [fieldText_append, fields?, string?_escape, Option.bind_eq_bind, Option.bind_some,
      hcolon, hvalue fuel after hafter hfuel, hcomma]
    cases fields? fuel depth (skipSpace more) <;> rfl
  · intro fuel after more hafter hfuel hclose
    simp only [fieldText_append, fields?, string?_escape, Option.bind_eq_bind, Option.bind_some,
      hcolon, hvalue fuel after hafter hfuel, hclose]
    rfl

/-! ## Blocks -/

variable {entries : List α} {lines : List String} {level levels : Nat}

theorem toList_block (hlines : lines ≠ []) (left right : String) :
    (block level left right lines).toList = left.toList ++ ((newLine (level + 1)).toList ++
      ((',' :: (newLine (level + 1)).toList).intercalate (lines.map String.toList) ++
        ((newLine level).toList ++ right.toList))) := by
  have hempty : lines.isEmpty = false := List.isEmpty_eq_false_iff.2 hlines
  simp [block, hempty, String.toList_intercalate]

theorem endsNumber_newLine (level : Nat) (rest : List Char) :
    EndsNumber ((newLine level).toList ++ rest) := by
  have hhead : ((newLine level).toList ++ rest).head? = some '\n' := by simp [newLine]
  intro c hc
  obtain rfl := Option.some.inj (hhead.symm.trans hc)
  decide

/-- The entries of a block are read up to its closing bracket. -/
theorem read_block (level : Nat) (hclose : isSpace close = false)
    (hentries : List.Forall₂ (IsEntryOf read close) (lines.map String.toList) entries)
    (hne : entries ≠ []) (rest : List Char) (fuel : Nat)
    (hfuel : 2 * ((',' :: (newLine (level + 1)).toList).intercalate
      (lines.map String.toList)).length ≤ fuel) :
    ∃ c more, skipSpace ((newLine (level + 1)).toList ++
        ((',' :: (newLine (level + 1)).toList).intercalate (lines.map String.toList) ++
          ((newLine level).toList ++ close :: rest))) = c :: more ∧ c ≠ close ∧
      read fuel (c :: more) = some (entries, rest) := by
  have hblank (level : Nat) : ∀ c ∈ (newLine level).toList, isSpace c := fun c =>
    isSpace_of_mem_newLine
  have htail : skipSpace ((newLine level).toList ++ close :: rest) = close :: rest := by
    rw [skipSpace_append (hblank level)]
    exact skipSpace_of_head (by simpa using hclose)
  have hread := read_intercalate hentries hne (hblank (level + 1)) (endsNumber_newLine level _)
    htail hfuel
  rw [skipSpace_append (hblank (level + 1))]
  generalize lines.map String.toList = texts at hentries hread ⊢
  cases hentries with
  | nil => exact absurd rfl hne
  | cons hentry _ =>
    obtain ⟨c, cs, rfl, hspace, hc⟩ := hentry.head
    obtain ⟨more, hmore⟩ := exists_intercalate_eq_cons (',' :: (newLine (level + 1)).toList) c cs _
    rw [hmore] at hread ⊢
    exact ⟨c, _, skipSpace_of_head (by simpa using hspace), hc, hread⟩

/-- A block is the text of a value that is opened by a bracket. -/
theorem isTextOf_block {depth : Nat} {opening : Char} {left right : String} {wrap : List α → Json}
    (hleft : left.toList = [opening]) (hright : right.toList = [close])
    (hclose : isSpace close = false)
    (hempty : ∀ fuel rest,
      value? (fuel + 1) depth (opening :: close :: rest) = some (wrap [], rest))
    (hread : ∀ fuel cs c more, skipSpace cs = c :: more → c ≠ close →
      value? (fuel + 1) depth (opening :: cs) =
        (read fuel (c :: more)).map fun x => (wrap x.1, x.2))
    (h : List.Forall₂ (IsEntryOf read close) (lines.map String.toList) entries) :
    IsTextOf depth (block level left right lines).toList (wrap entries) := by
  by_cases hlines : lines = []
  · subst hlines
    cases h
    have htext : (block level left right []).toList = [opening, close] := by
      simp [block, hleft, hright]
    rw [htext]
    exact isTextOf_of_step (List.cons_ne_nil _ _) fun fuel rest _ _ => hempty fuel rest
  · have hentries : entries ≠ [] := by
      rintro rfl
      exact hlines (List.map_eq_nil_iff.1 (List.forall₂_nil_right_iff.1 h))
    rw [toList_block hlines, hleft, hright]
    refine isTextOf_of_step (List.cons_ne_nil _ _) fun fuel rest _ hfuel => ?_
    simp only [List.length_append, List.length_cons, List.length_nil] at hfuel
    obtain ⟨c, more, hskip, hc, hlist⟩ :=
      read_block level hclose h hentries rest fuel (by omega)
    simp only [List.append_assoc, List.cons_append, List.nil_append]
    rw [hread fuel _ c more hskip hc, hlist]
    rfl

theorem isTextOf_arr {items : List Json}
    (h : List.Forall₂ (IsTextOf (levels + 1)) (lines.map String.toList) items) :
    IsTextOf (levels + 2) (block level "[" "]" lines).toList (arr items) := by
  have hleft : "[".toList = ['['] := rfl
  have hright : "]".toList = [']'] := rfl
  have hitems : List.Forall₂ (IsEntryOf (items? · (levels + 1)) ']') (lines.map String.toList)
      items := h.imp fun _ _ => isEntryOf_item
  refine isTextOf_block hleft hright (by decide) (fun fuel rest => ?_) ?_ hitems
  · simp [value?, skipSpace, isSpace]
  · intro fuel cs c more hskip hc
    simp only [value?, hskip]
    split
    next hlevels => omega
    next =>
      split
      next heq => exact absurd (List.cons.inj heq).1 hc
      next => rfl

theorem isTextOf_obj {fields : List (String × Json)}
    (h : List.Forall₂ (IsEntryOf (fields? · (levels + 1)) '}') (lines.map String.toList) fields) :
    IsTextOf (levels + 2) (block level "\x7b" "\x7d" lines).toList (obj fields) := by
  have hleft : "\x7b".toList = ['{'] := rfl
  have hright : "\x7d".toList = ['}'] := rfl
  refine isTextOf_block hleft hright (by decide) (fun fuel rest => ?_) ?_ h
  · simp [value?, skipSpace, isSpace]
  · intro fuel cs c more hskip hc
    simp only [value?, hskip]
    split
    next hlevels => omega
    next =>
      split
      next heq => exact absurd (List.cons.inj heq).1 hc
      next => rfl

/-! ## Values -/

mutual

/-- A legible value is read from its text. -/
theorem isTextOf_prettyAt (levels level : Nat) : ∀ j : Json, j.isLegible levels →
    IsTextOf (levels + 1) (prettyAt level j).toList j
  | null, _ => isTextOf_null _
  | bool b, _ => isTextOf_bool _ b
  | int n, h => by
    rw [isLegible, Bool.and_eq_true, decide_eq_true_eq, decide_eq_true_eq] at h
    exact isTextOf_of_number? (number?_toString h.1 h.2)
  | float x, h => isTextOf_of_number? (number?_number h)
  | str s, _ => isTextOf_quoted _ s
  | arr items, h => by
    rw [isLegible, Bool.and_eq_true, decide_eq_true_eq] at h
    obtain ⟨levels, rfl⟩ := Nat.exists_eq_add_one_of_ne_zero (Nat.ne_zero_of_lt h.1)
    exact isTextOf_arr (forall₂_prettyItems levels (level + 1) items h.2)
  | obj fields, h => by
    rw [isLegible, Bool.and_eq_true, decide_eq_true_eq] at h
    obtain ⟨levels, rfl⟩ := Nat.exists_eq_add_one_of_ne_zero (Nat.ne_zero_of_lt h.1)
    exact isTextOf_obj (forall₂_prettyFields levels (level + 1) fields h.2)

theorem forall₂_prettyItems (levels level : Nat) : ∀ items : List Json,
    itemsLegible levels items →
      List.Forall₂ (IsTextOf (levels + 1)) ((prettyItems level items).map String.toList) items
  | [], _ => .nil
  | j :: items, h => by
    rw [itemsLegible, Bool.and_eq_true] at h
    exact .cons (isTextOf_prettyAt levels level j h.1) (forall₂_prettyItems levels level items h.2)

theorem forall₂_prettyFields (levels level : Nat) : ∀ fields : List (String × Json),
    fieldsLegible levels fields → List.Forall₂ (IsEntryOf (fields? · (levels + 1)) '}')
      ((prettyFields level fields).map String.toList) fields
  | [], _ => .nil
  | (key, j) :: fields, h => by
    rw [fieldsLegible, Bool.and_eq_true] at h
    have hentry := isEntryOf_field key (isTextOf_prettyAt levels level j h.1)
    refine .cons ?_ (forall₂_prettyFields levels level fields h.2)
    simpa [fieldText] using hentry

end

end Renderflow.Json
