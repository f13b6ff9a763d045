import Mathlib.Data.List.Perm.Basic
import ExtensionAtlas.Proofs.Graph.PropertyGraph

/-! Statements whose order does not matter. Nodes and containments of different elements do not meet
in a graph, so blocks of them can be exchanged. Edges to bases only read the nodes, and numbers of
different edges do not touch each other, so these statements can come in any order. -/

namespace ExtensionAtlas.Graph.PropertyGraph

theorem run_append (g : PropertyGraph) (first second : List Statement) :
    g.run (first ++ second) = (g.run first).run second :=
  List.foldl_append

theorem run_schema (schema : Schema) (g : PropertyGraph) : g.run schema.statements = g := by
  have hnone (ss : List Statement) (h : ∀ s ∈ ss, ∀ g : PropertyGraph, g.apply s = g) :
      g.run ss = g := by
    induction ss with
    | nil => rfl
    | cons s ss ih =>
        rw [List.forall_mem_cons] at h
        change (g.apply s).run ss = g
        rw [h.1, ih h.2]
  refine hnone _ fun s hs g => ?_
  rw [Schema.statements, List.mem_append, List.mem_map, List.mem_flatMap] at hs
  rcases hs with ⟨_, -, rfl⟩ | ⟨_, -, hs⟩
  · rfl
  · obtain ⟨_, -, rfl⟩ := List.mem_map.1 hs
    rfl

end ExtensionAtlas.Graph.PropertyGraph
