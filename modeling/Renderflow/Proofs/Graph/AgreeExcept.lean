import Renderflow.Proofs.Graph.Edit

/-!
# Graphs that agree except at some places

Two graphs have the same nodes with the same inputs, except for the values of some inputs. Edits
that write the same, except there, keep it so.
-/

namespace Renderflow

theorem Node.ext_input? {n n' : Node} (hlabel : n'.label = n.label)
    (hinput : ∀ name, n'.input? name = n.input? name) : n' = n := by
  obtain ⟨hclass, htitle⟩ := Prod.mk.inj hlabel
  have hinputs := Table.ext_find? hinput
  cases n
  cases n'
  simp_all

namespace Graph

/-- The same nodes with the same inputs, except for the values at some places. -/
structure AgreeExcept (places : List (String × String)) (g g' : Graph) : Prop where
  value? : ∀ id name, (id, name) ∉ places → g'.value? id name = g.value? id name
  label? : ∀ id, g'.label? id = g.label? id

namespace AgreeExcept

variable {places : List (String × String)} {g g' : Graph}

theorem refl (places : List (String × String)) (g : Graph) : g.AgreeExcept places g :=
  ⟨fun _ _ _ => rfl, fun _ => rfl⟩

/-- A node without such a place is the same in both graphs. -/
theorem find?_eq (h : g.AgreeExcept places g') {id : String} (hid : id ∉ places.map Prod.fst) :
    g'.find? id = g.find? id := by
  have hlabel := h.label? id
  have hvalue : ∀ name, g'.value? id name = g.value? id name := fun name =>
    h.value? id name fun hmem => hid (List.mem_map_of_mem hmem)
  simp only [Graph.label?, Graph.value?] at hlabel hvalue
  cases hg : g.find? id with
  | none => simpa [hg] using hlabel
  | some n =>
    obtain ⟨n', hg', hn'⟩ := by simpa [hg] using hlabel
    simp only [hg, hg', Option.bind_some] at hvalue
    rw [hg', Node.ext_input? hn' hvalue]

/-- Edits that write the same except at some places keep the agreement. -/
theorem apply (h : g.AgreeExcept places g') {e e' : Edit}
    (hwritten : ∀ id name, (id, name) ∉ places → e'.written? id name = e.written? id name)
    (hlabels : ∀ id, e'.relabeled? id = e.relabeled? id) {g₁ g₁' : Graph}
    (hg : g.apply e = .ok g₁) (hg' : g'.apply e' = .ok g₁') : g₁.AgreeExcept places g₁' where
  value? id name hout := by
    rw [value?_apply hg', value?_apply hg, hwritten id name hout, h.value? id name hout]
  label? id := by
    rw [label?_apply hg', label?_apply hg, hlabels id, h.label? id]

end AgreeExcept

end Graph

end Renderflow
