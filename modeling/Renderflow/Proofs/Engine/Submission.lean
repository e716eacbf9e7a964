import Mathlib
import Renderflow.Engine.Submission
import Renderflow.Proofs.Json.Fields
import Renderflow.Proofs.Json.Record

/-!
# Faults of nodes in the answer of an engine

What an answer says about a graph follows from its status and from the record that its text writes.
With a status of failure the faults of the nodes are told if they are in the answer at all. With one
of success they are told only by an otherwise well-formed receipt.
-/

namespace Renderflow

/-! ## What the text of an answer writes -/

/-- The map in a field, which is empty where there is no such field. -/
inductive Json.Maps : Option Json → Table Json → Prop
  | absent : Maps none .empty
  | obj (entries : List (String × Json)) : Maps (some (.obj entries)) (.ofList entries)

theorem Json.maps_iff {v : Option Json} {t : Table Json} :
    v.elim (some .empty) (asTable? some) = some t ↔ Maps v t := by
  have hentries (entries : List (String × Json)) :
      asTable? some (.obj entries) = some (.ofList entries) := by
    have hsame : entries.mapM (fun f => (some f.2).map fun v => (f.1, v)) =
        some (entries.map id) := mapM_eq_some_map fun f _ => rfl
    rw [asTable?, hsame, List.map_id, Option.map_some]
  constructor
  · intro h
    cases v with
    | none =>
      obtain rfl := Option.some.inj h
      exact .absent
    | some j =>
      obtain ⟨entries, rfl, -⟩ := exists_field_of_asTable? h
      obtain rfl := Option.some.inj ((hentries entries).symm.trans h)
      exact .obj entries
  · rintro (_ | entries)
    · rfl
    · exact hentries entries

theorem Uuid.ofJson?_eq_some_iff {j : Json} {u : Uuid} :
    ofJson? j = some u ↔ ∃ text, j = .str text ∧ ofText? text = some u := by
  cases j <;> simp [ofJson?, Json.asString?]

namespace Receipt

def fieldNames : List String := ["prompt_id", "number", "node_errors"]

/-- A value is a well-formed receipt. -/
structure ReadFrom (r : Receipt) (j : Json) : Prop where
  promptId : ∃ text, j.Gives fieldNames "prompt_id" (some (.str text)) ∧
    Uuid.ofText? text = some r.promptId
  number : j.Gives fieldNames "number" (some (.int r.number.toNat))
  nodeErrors : ∃ v, j.Gives fieldNames "node_errors" v ∧ Json.Maps v r.nodeErrors

variable {r : Receipt} {j : Json}

theorem ReadFrom.exists_fieldsOf? (h : r.ReadFrom j) :
    ∃ known, j.fieldsOf? fieldNames 2 = some known := by
  obtain ⟨text, hid, -⟩ := h.promptId
  obtain ⟨v, hv, -⟩ := h.nodeErrors
  refine (Json.exists_fieldsOf?_iff (by decide)).2 ⟨?_, ?_⟩
  · simpa [fieldNames] using ⟨⟨_, hid⟩, ⟨_, h.number⟩, ⟨v, hv⟩⟩
  · rintro items rfl
    obtain ⟨-, i, hplace, hitem⟩ := Json.gives_arr_iff.1 h.number
    obtain rfl : i = 1 := by
      rcases i with _ | _ | _ | i <;> simp [fieldNames] at hplace ⊢
    exact (List.getElem?_eq_some_iff.1 hitem).1

theorem ofJson?_eq_some_iff : ofJson? j = some r ↔ r.ReadFrom j := by
  have hnodup : fieldNames.Nodup := by decide
  have hparts {known : Json.Fields} (hknown : j.fieldsOf? fieldNames 2 = some known) :
      r.ReadFrom j ↔ known.required "prompt_id" Uuid.ofJson? = some r.promptId ∧
        known.required "number" Json.asUInt64? = some r.number ∧
        known.default "node_errors" .empty (Json.asTable? some) = some r.nodeErrors := by
    rw [Json.required_eq_some_iff hnodup (by decide) hknown,
      Json.required_eq_some_iff hnodup (by decide) hknown,
      Json.default_eq_some_iff hnodup (by decide) hknown]
    simp only [Uuid.ofJson?_eq_some_iff, Json.asUInt64?_eq_some_iff, Json.maps_iff]
    constructor
    · intro h
      obtain ⟨text, hid, hread⟩ := h.promptId
      exact ⟨⟨_, hid, text, rfl, hread⟩, ⟨_, h.number, rfl⟩, h.nodeErrors⟩
    · rintro ⟨⟨_, hid, text, rfl, hread⟩, ⟨_, hnumber, rfl⟩, hfaults⟩
      exact ⟨⟨text, hid, hread⟩, hnumber, hfaults⟩
  simp only [ofJson?, Option.bind_eq_bind, Option.bind_eq_some_iff, Option.pure_def,
    Option.some.injEq]
  constructor
  · rintro ⟨known, hknown, id, hid, number, hnumber, faults, hfaults, rfl⟩
    exact (hparts hknown).2 ⟨hid, hnumber, hfaults⟩
  · intro h
    obtain ⟨known, hknown⟩ := h.exists_fieldsOf?
    obtain ⟨hid, hnumber, hfaults⟩ := (hparts hknown).1 h
    exact ⟨known, hknown, _, hid, _, hnumber, _, hfaults, rfl⟩

end Receipt

namespace Refusal

def fieldNames : List String := ["error", "node_errors"]

/-- A value is a refusal. It may be one without any fault. -/
structure ReadFrom (r : Refusal) (j : Json) : Prop where
  error : ∃ v, j.Gives fieldNames "error" v ∧ v.getD .null = r.error
  nodeErrors : ∃ v, j.Gives fieldNames "node_errors" v ∧ Json.Maps v r.nodeErrors

variable {r : Refusal} {j : Json}

theorem ofJson?_eq_some_iff : ofJson? j = some r ↔ r.ReadFrom j := by
  have hnodup : fieldNames.Nodup := by decide
  have hparts {known : Json.Fields} (hknown : j.fieldsOf? fieldNames 0 = some known) :
      r.ReadFrom j ↔ known.default "error" .null some = some r.error ∧
        known.default "node_errors" .empty (Json.asTable? some) = some r.nodeErrors := by
    have herror (v : Option Json) : v.elim (some .null) some = some r.error ↔
        v.getD .null = r.error := by cases v <;> simp
    rw [Json.default_eq_some_iff hnodup (by decide) hknown,
      Json.default_eq_some_iff hnodup (by decide) hknown]
    simp only [herror, Json.maps_iff]
    exact ⟨fun h => ⟨h.error, h.nodeErrors⟩, fun h => ⟨h.1, h.2⟩⟩
  simp only [ofJson?, Option.bind_eq_bind, Option.bind_eq_some_iff, Option.pure_def,
    Option.some.injEq]
  constructor
  · rintro ⟨known, hknown, error, herror, faults, hfaults, rfl⟩
    exact (hparts hknown).2 ⟨herror, hfaults⟩
  · intro h
    obtain ⟨v, hv, -⟩ := h.error
    obtain ⟨w, hw, -⟩ := h.nodeErrors
    have hgives : ∀ name ∈ fieldNames, ∃ v, j.Gives fieldNames name v := by
      simpa [fieldNames] using ⟨⟨v, hv⟩, ⟨w, hw⟩⟩
    obtain ⟨known, hknown⟩ := (Json.exists_fieldsOf?_iff (by decide)).2
      ⟨hgives, fun items _ => items.length.zero_le⟩
    obtain ⟨herror, hfaults⟩ := (hparts hknown).1 h
    exact ⟨known, hknown, _, herror, _, hfaults, rfl⟩

theorem isEmpty_iff : r.isEmpty ↔ r.error = .null ∧ r.nodeErrors.isEmpty := by
  unfold isEmpty
  cases r.error <;> simp

end Refusal

/-! ## What an answer comes to -/

namespace Reply

variable {r : Reply} {x : Except SubmissionError Receipt}

/-- The text of an answer writes a receipt. -/
def TellsReceipt (r : Reply) (receipt : Receipt) : Prop :=
  ∃ j, Json.read? r.text = some j ∧ receipt.ReadFrom j

/-- The text of an answer writes a refusal. -/
def TellsRefusal (r : Reply) (refusal : Refusal) : Prop :=
  ∃ j, Json.read? r.text = some j ∧ refusal.ReadFrom j

theorem bind_receipt_eq_some_iff {receipt : Receipt} :
    (Json.read? r.text).bind Receipt.ofJson? = some receipt ↔ r.TellsReceipt receipt := by
  simp only [Option.bind_eq_some_iff, Receipt.ofJson?_eq_some_iff, TellsReceipt]

theorem bind_refusal_eq_some_iff {refusal : Refusal} :
    (Json.read? r.text).bind Refusal.ofJson? = some refusal ↔ r.TellsRefusal refusal := by
  simp only [Option.bind_eq_some_iff, Refusal.ofJson?_eq_some_iff, TellsRefusal]

/-- What an answer comes to, by its status and by what its text writes. -/
inductive Answers (r : Reply) : Except SubmissionError Receipt → Prop
  | queued {receipt : Receipt} (hstatus : r.status.isSuccess) (htold : r.TellsReceipt receipt)
    (hnone : receipt.nodeErrors.isEmpty) : Answers r (.ok receipt)
  | blamed {receipt : Receipt} (hstatus : r.status.isSuccess) (htold : r.TellsReceipt receipt)
    (hsome : ¬ receipt.nodeErrors.isEmpty) :
    Answers r (.error (.refused ⟨.null, receipt.nodeErrors⟩))
  | malformed (hstatus : r.status.isSuccess) (h : ∀ receipt, ¬ r.TellsReceipt receipt) :
    Answers r (.error .invalidResponse)
  | refused {refusal : Refusal} (hstatus : ¬ r.status.isSuccess) (htold : r.TellsRefusal refusal)
    (hsome : ¬ refusal.isEmpty) : Answers r (.error (.refused refusal))
  | unexplained (hstatus : ¬ r.status.isSuccess)
    (h : ∀ refusal : Refusal, r.TellsRefusal refusal → refusal.isEmpty) :
    Answers r (.error (.badStatus r))

theorem receipt_eq_of_answers (h : r.Answers x) : r.receipt = x := by
  unfold receipt
  cases h with
  | queued hstatus htold hnone =>
    rw [if_pos hstatus, bind_receipt_eq_some_iff.2 htold]
    exact if_pos hnone
  | blamed hstatus htold hsome =>
    rw [if_pos hstatus, bind_receipt_eq_some_iff.2 htold]
    exact if_neg hsome
  | malformed hstatus h =>
    have hnone : (Json.read? r.text).bind Receipt.ofJson? = none :=
      Option.eq_none_iff_forall_ne_some.2 fun receipt hreceipt =>
        h receipt (bind_receipt_eq_some_iff.1 hreceipt)
    rw [if_pos hstatus, hnone]
  | refused hstatus htold hsome =>
    rw [if_neg hstatus, bind_refusal_eq_some_iff.2 htold]
    simp only [if_neg hsome]
  | unexplained hstatus h =>
    rw [if_neg hstatus]
    cases hread : (Json.read? r.text).bind Refusal.ofJson? with
    | none => rfl
    | some refusal => simp only [if_pos (h refusal (bind_refusal_eq_some_iff.1 hread))]

theorem exists_answers (r : Reply) : ∃ x, r.Answers x := by
  by_cases hstatus : r.status.isSuccess
  · by_cases htold : ∃ receipt, r.TellsReceipt receipt
    · obtain ⟨receipt, htold⟩ := htold
      by_cases hnone : receipt.nodeErrors.isEmpty
      · exact ⟨_, .queued hstatus htold hnone⟩
      · exact ⟨_, .blamed hstatus htold hnone⟩
    · exact ⟨_, .malformed hstatus (not_exists.1 htold)⟩
  · by_cases hsome : ∃ refusal, r.TellsRefusal refusal ∧ ¬ refusal.isEmpty
    · obtain ⟨refusal, htold, hsome⟩ := hsome
      exact ⟨_, .refused hstatus htold hsome⟩
    · exact ⟨_, .unexplained hstatus (by simpa using hsome)⟩

/-- Every answer is understood, and in one way. -/
theorem receipt_eq_iff_answers : r.receipt = x ↔ r.Answers x := by
  refine ⟨?_, receipt_eq_of_answers⟩
  rintro rfl
  obtain ⟨y, hy⟩ := r.exists_answers
  rwa [receipt_eq_of_answers hy]

/-! ## Faults of nodes -/

/-- The text of an answer writes an object that blames nodes of the graph. -/
structure Blames (r : Reply) (fields faults : List (String × Json)) : Prop where
  read : Json.read? r.text = some (.obj fields)
  mem : ("node_errors", .obj faults) ∈ fields
  ne_nil : faults ≠ []

variable {fields faults : List (String × Json)}

theorem Blames.isEmpty_ofList (h : r.Blames fields faults) :
    (Table.ofList faults).isEmpty = false := by
  rw [Table.isEmpty_ofList]
  exact List.isEmpty_eq_false_iff.2 h.ne_nil

/-- What is read from the object is what the nodes are blamed for. -/
theorem Blames.eq_ofList (h : r.Blames fields faults) {names : List String} {t : Table Json}
    (ht : ∃ v, (Json.obj fields).Gives names "node_errors" v ∧ Json.Maps v t) :
    t = .ofList faults := by
  obtain ⟨v, hv, hmap⟩ := ht
  obtain ⟨hcount, rfl⟩ := Json.gives_obj_iff.1 hv
  rw [Json.lookup_of_mem hcount h.mem] at hmap
  cases hmap
  rfl

/-- With a status of success the faults are told by a receipt that is well-formed otherwise. -/
theorem Blames.receipt_of_success (h : r.Blames fields faults) (hstatus : r.status.isSuccess) :
    ((∃ receipt : Receipt, receipt.ReadFrom (.obj fields)) →
      r.receipt = .error (.refused ⟨.null, .ofList faults⟩)) ∧
      ((¬ ∃ receipt : Receipt, receipt.ReadFrom (.obj fields)) →
        r.receipt = .error .invalidResponse) := by
  simp only [receipt_eq_iff_answers]
  constructor
  · rintro ⟨receipt, hread⟩
    have hfaults := h.eq_ofList hread.nodeErrors
    rw [← hfaults]
    refine .blamed hstatus ⟨_, h.read, hread⟩ ?_
    simp [hfaults, h.isEmpty_ofList]
  · intro hnot
    refine .malformed hstatus fun receipt ⟨j, hj, hread⟩ => hnot ⟨receipt, ?_⟩
    obtain rfl := Option.some.inj (h.read.symm.trans hj)
    exact hread

/-- With a status of failure the faults are told, unless the object has a field twice. -/
theorem Blames.receipt_of_failure (h : r.Blames fields faults) (hstatus : ¬ r.status.isSuccess) :
    ((∀ name ∈ Refusal.fieldNames, (fields.map Prod.fst).count name ≤ 1) →
      r.receipt = .error (.refused ⟨(fields.lookup "error").getD .null, .ofList faults⟩)) ∧
      ((¬ ∀ name ∈ Refusal.fieldNames, (fields.map Prod.fst).count name ≤ 1) →
        r.receipt = .error (.badStatus r)) := by
  simp only [receipt_eq_iff_answers]
  constructor
  · intro honce
    have hfaults := Json.lookup_of_mem (honce "node_errors" (by decide)) h.mem
    have hmap : ∃ v, (Json.obj fields).Gives Refusal.fieldNames "node_errors" v ∧
        Json.Maps v (.ofList faults) :=
      ⟨_, .field (honce "node_errors" (by decide)), hfaults ▸ .obj faults⟩
    have hread : Refusal.ReadFrom ⟨(fields.lookup "error").getD .null, .ofList faults⟩
        (.obj fields) := ⟨⟨_, .field (honce "error" (by decide)), rfl⟩, hmap⟩
    refine .refused hstatus ⟨_, h.read, hread⟩ ?_
    simp [Refusal.isEmpty_iff, h.isEmpty_ofList]
  · intro htwice
    refine .unexplained hstatus fun refusal ⟨j, hj, hread⟩ => absurd ?_ htwice
    obtain rfl := Option.some.inj (h.read.symm.trans hj)
    obtain ⟨v, hv, -⟩ := hread.error
    obtain ⟨w, hw, -⟩ := hread.nodeErrors
    simpa [Refusal.fieldNames] using ⟨(Json.gives_obj_iff.1 hv).1, (Json.gives_obj_iff.1 hw).1⟩

/-- Faults of nodes are told with a status of failure, together with the error, and with one of
success if the object is a receipt otherwise. If it is none, or if it has a field twice, they are
lost. A graph is queued for a receipt without faults and for nothing else. -/
theorem receipt_faults (r : Reply) :
    (∀ fields faults, r.Blames fields faults →
      (r.status.isSuccess →
        ((∃ receipt : Receipt, receipt.ReadFrom (.obj fields)) →
          r.receipt = .error (.refused ⟨.null, .ofList faults⟩)) ∧
        ((¬ ∃ receipt : Receipt, receipt.ReadFrom (.obj fields)) →
          r.receipt = .error .invalidResponse)) ∧
      (¬ r.status.isSuccess →
        ((∀ name ∈ Refusal.fieldNames, (fields.map Prod.fst).count name ≤ 1) →
          r.receipt = .error (.refused ⟨(fields.lookup "error").getD .null, .ofList faults⟩)) ∧
        ((¬ ∀ name ∈ Refusal.fieldNames, (fields.map Prod.fst).count name ≤ 1) →
          r.receipt = .error (.badStatus r)))) ∧
    ∀ receipt, r.receipt = .ok receipt ↔
      r.status.isSuccess ∧ r.TellsReceipt receipt ∧ receipt.nodeErrors.isEmpty := by
  refine ⟨fun fields faults h => ⟨h.receipt_of_success, h.receipt_of_failure⟩, fun receipt => ?_⟩
  rw [receipt_eq_iff_answers]
  constructor
  · intro h
    cases h with
    | queued hstatus htold hnone => exact ⟨hstatus, htold, hnone⟩
  · rintro ⟨hstatus, htold, hnone⟩
    exact .queued hstatus htold hnone

theorem receipt_faults_either_status :
    receipt ⟨⟨400, by decide⟩, "\x7b\"error\": \"bad\", \"node_errors\": \x7b\"7\": 1\x7d\x7d"⟩ =
        .error (.refused ⟨.str "bad", .ofList [("7", .int 1)]⟩) ∧
      receipt ⟨⟨200, by decide⟩,
          "\x7b\"prompt_id\": \"67e55044-10b1-426f-9247-bb680e5fe0c8\", \"number\": 4, " ++
            "\"node_errors\": \x7b\"7\": 1\x7d\x7d"⟩ =
        .error (.refused ⟨.null, .ofList [("7", .int 1)]⟩) := by
  constructor
  · refine (((receipt_faults _).1 [("error", .str "bad"), ("node_errors", .obj [("7", .int 1)])]
      [("7", .int 1)] ⟨by cbv, by simp, by simp⟩).2 (by decide)).1 (by decide)
  · have hread : Receipt.ReadFrom
        ⟨⟨0x67e5504410b1426f9247bb680e5fe0c8⟩, 4, .ofList [("7", .int 1)]⟩
        (.obj [("prompt_id", .str "67e55044-10b1-426f-9247-bb680e5fe0c8"), ("number", .int 4),
          ("node_errors", .obj [("7", .int 1)])]) :=
      ⟨⟨_, .field (by decide), by cbv⟩, .field (by decide), _, .field (by decide), .obj _⟩
    exact (((receipt_faults _).1 _ [("7", .int 1)] ⟨by cbv, by simp, by simp⟩).1 (by decide)).1
      ⟨_, hread⟩

/-- With a status of success the faults are lost if the object does not say what is queued. -/
theorem not_forall_blames_refused : ¬ ∀ (r : Reply) (fields faults : List (String × Json)),
    r.Blames fields faults → ∃ error, r.receipt = .error (.refused ⟨error, .ofList faults⟩) := by
  intro h
  let r : Reply := ⟨⟨200, by decide⟩, "\x7b\"node_errors\": \x7b\"7\": 1\x7d\x7d"⟩
  have hblames : r.Blames [("node_errors", .obj [("7", .int 1)])] [("7", .int 1)] :=
    ⟨by cbv, by simp, by simp⟩
  have hnot : ¬ ∃ receipt : Receipt,
      receipt.ReadFrom (.obj [("node_errors", .obj [("7", .int 1)])]) := by
    rintro ⟨receipt, hread⟩
    obtain ⟨text, hid, -⟩ := hread.promptId
    cases (Json.gives_obj_iff.1 hid).2
  obtain ⟨error, herror⟩ := h r _ _ hblames
  cases herror.symm.trans ((hblames.receipt_of_success (by decide)).2 hnot)

end Reply

end Renderflow
