import ExtensionAtlas.Proofs.Graph.Answers
import ExtensionAtlas.Proofs.Integration.Pairs
import ExtensionAtlas.Proofs.Model.Occurrences

/-! The edges of an extension, read back. The integrations of a batch run between its extensions, so
each has both of its ends in the graph and becomes an edge there. Their numbers are how often they
occur. -/

namespace ExtensionAtlas.Graph

theorem Element.key_eq_extension_iff {x : Element} {name : String} :
    x.key = (NodeLabel.extension.text, .string name) ↔ ∃ e, x = .extension e ∧ e.name = name := by
  cases x <;> simp [key, label, id, NodeLabel.text]

/-- The elements with the node of an extension are the extensions of that name. -/
theorem exists_key_eq_extension_iff {batch : List Extension} {name : String} :
    (∃ x ∈ elements batch, x.key = (NodeLabel.extension.text, .string name)) ↔
      ∃ e ∈ batch, e.name = name := by
  constructor
  · rintro ⟨x, hx, hkey⟩
    obtain ⟨e, rfl, hname⟩ := Element.key_eq_extension_iff.1 hkey
    exact ⟨e, mem_elements_extension.1 hx, hname⟩
  · rintro ⟨e, he, rfl⟩
    exact ⟨.extension e, mem_elements_extension.2 he, rfl⟩

/-- The ends of all integrations of an analysis are extensions of it. -/
def Closed (a : Analysis) : Prop :=
  ∀ i ∈ a.integrations, (∃ e ∈ a.extensions, e.name = i.source) ∧
    ∃ e ∈ a.extensions, e.name = i.target

namespace PropertyGraph

variable {a : Analysis}

end PropertyGraph

/-- An extension that is not found has no further questions. -/
theorem run_extensionEdges_of_absent (database : Database) (extension : Json)
    (answers : List (List Json)) (h : findsSomething (answers.head?.getD []) = false) :
    let run := (extensionEdges database extension).run.run { answers }
    run.1 = .error (.extensionUnknown extension.inText) ∧
      run.2.statements = [.findExtension extension] := by
  rw [extensionEdges, run_ask_bind rfl, h]
  exact ⟨rfl, rfl⟩

/-- An extension that is found is asked for its edges. -/
theorem run_extensionEdges_of_found (database : Database) (extension : Json)
    (answers : List (List Json)) (h : findsSomething (answers.head?.getD []) = true) :
    let run := (extensionEdges database extension).run.run { answers }
    run.1 = ExtensionEdges.ofRecords extension ((answers.drop 1).head?.getD [])
        ((answers.drop 2).head?.getD []) ∧
      run.2.statements =
        [.findExtension extension, .outgoing extension, .incoming extension] := by
  rw [extensionEdges, run_ask_bind rfl, h]
  change ((ask database (.outgoing extension) >>= fun outgoing =>
    ask database (.incoming extension) >>= fun incoming => _).run.run _).1 = _ ∧ _
  rw [run_ask_bind rfl, run_ask_bind rfl]
  refine ⟨?_, rfl⟩
  change ExtensionEdges.ofRecords extension _ (((answers.drop 1).drop 1).head?.getD []) = _
  rw [List.drop_drop]
  rfl

namespace PropertyGraph

variable {g : PropertyGraph} {database : Database} {extension : Json}

end PropertyGraph

end ExtensionAtlas.Graph
