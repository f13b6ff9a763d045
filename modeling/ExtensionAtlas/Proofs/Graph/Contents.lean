import ExtensionAtlas.Proofs.Graph.Commutation
import ExtensionAtlas.Proofs.Graph.Kept
import ExtensionAtlas.Proofs.Graph.Overlay

/-! What is in a graph once an analysis has been stored there, as far as that went. A node has the
properties of all elements with its identifier, set one after another. The edges between elements
are all drawn, as both ends are merged in front of them. The other edges and all numbers depend on
the nodes only as they are in the end. -/

namespace ExtensionAtlas.Graph

namespace PropertyGraph

/-- The edges that a statement draws in a graph. -/
def draws (g : PropertyGraph) : Statement → Finset Edge
  | .mergeContainment type outer inner =>
    if (type.outer.text, outer) ∈ g.nodes ∧ (type.inner.text, inner) ∈ g.nodes then
      {.containment type outer inner}
    else ∅
  | .mergeExtends object name =>
    if (NodeLabel.object.text, object) ∈ g.nodes then (g.bases name).image (.extending object)
    else ∅
  | .mergeIntegration source target kind description _ =>
    if (NodeLabel.extension.text, source) ∈ g.nodes ∧ (NodeLabel.extension.text, target) ∈ g.nodes
    then {.integration source target kind description}
    else ∅
  | _ => ∅

/-- The numbers that a statement sets in a graph. -/
def numbers (g : PropertyGraph) : Statement → List (Edge × Nat)
  | .mergeIntegration source target kind description count =>
    if (NodeLabel.extension.text, source) ∈ g.nodes ∧ (NodeLabel.extension.text, target) ∈ g.nodes
    then [(.integration source target kind description, count)]
    else []
  | _ => []

theorem edges_apply (g : PropertyGraph) (s : Statement) :
    (g.apply s).edges = g.edges ∪ g.draws s := by
  cases s with
  | mergeContainment type outer inner =>
      simp only [apply, link, draws]
      split <;> simp [Finset.union_singleton]
  | mergeExtends object name =>
      simp only [apply, linkBases, draws]
      split <;> simp
  | mergeIntegration source target kind description count =>
      simp only [apply, linkCounted, draws]
      split <;> simp [Finset.union_singleton]
  | _ => exact (Finset.union_empty _).symm

theorem counts_apply (g : PropertyGraph) (s : Statement) :
    (g.apply s).counts = overlay g.counts (g.numbers s) := by
  cases s with
  | mergeContainment type outer inner =>
      simp only [apply, link, numbers]
      split <;> rfl
  | mergeExtends object name =>
      simp only [apply, linkBases, numbers]
      split <;> rfl
  | mergeIntegration source target kind description count =>
      simp only [apply, linkCounted, numbers]
      split <;> rfl
  | _ => rfl

theorem draws_of_nodes_eq {g h : PropertyGraph} (heq : g.nodes = h.nodes) :
    g.draws = h.draws := by
  funext s
  cases s <;> simp only [draws, bases, heq]

theorem numbers_of_nodes_eq {g h : PropertyGraph} (heq : g.nodes = h.nodes) :
    g.numbers = h.numbers := by
  funext s
  cases s <;> simp only [numbers, heq]

end PropertyGraph

/-- A statement that leaves the nodes as they are. -/
def Statement.Connects (s : Statement) : Prop :=
  ∀ g : PropertyGraph, (g.apply s).nodes = g.nodes

theorem Statement.connects_mergeExtends (object base : Json) :
    (mergeExtends object base).Connects := fun g => by
  simp only [PropertyGraph.apply, PropertyGraph.linkBases]
  split <;> rfl

theorem Statement.connects_mergeContainment (type : Containment) (outer inner : Json) :
    (mergeContainment type outer inner).Connects := fun g => by
  simp only [PropertyGraph.apply, PropertyGraph.link]
  split <;> rfl

theorem Statement.connects_mergeIntegration (source target : Json) (kind : IntegrationKind)
    (description : Json) (count : Nat) :
    (mergeIntegration source target kind description count).Connects := fun g => by
  simp only [PropertyGraph.apply, PropertyGraph.linkCounted]
  split <;> rfl

namespace PropertyGraph

/-- Statements that leave the nodes alone can be judged by the nodes they start from. -/
theorem run_of_connects {ss : List Statement} (h : ∀ s ∈ ss, s.Connects) (g : PropertyGraph) :
    (g.run ss).nodes = g.nodes ∧
      (∀ edge, edge ∈ (g.run ss).edges ↔ edge ∈ g.edges ∨ ∃ s ∈ ss, edge ∈ g.draws s) ∧
      (g.run ss).counts = overlay g.counts (ss.flatMap g.numbers) := by
  induction ss generalizing g with
  | nil => exact ⟨rfl, fun edge => by simp [run], rfl⟩
  | cons s ss ih =>
      rw [List.forall_mem_cons] at h
      obtain ⟨hnodes, hedges, hcounts⟩ := ih h.2 (g.apply s)
      have hsame := h.1 g
      refine ⟨hnodes.trans hsame, fun edge => ?_, hcounts.trans ?_⟩
      · rw [show g.run (s :: ss) = (g.apply s).run ss from rfl, hedges, edges_apply,
          draws_of_nodes_eq hsame, Finset.mem_union, List.exists_mem_cons_iff, or_assoc]
      · rw [counts_apply, numbers_of_nodes_eq hsame, List.flatMap_cons, overlay_append]

/-- What putting an element into a graph does to a node. -/
theorem lookup_nodes_run_statements (g : PropertyGraph) (x : Element) (key : NodeKey) :
    (g.run x.statements).nodes.lookup key =
      if x.key = key then
        some (overlay ((g.nodes.lookup key).getD (.singleton "id" key.2)) x.properties)
      else g.nodes.lookup key := by
  have hmerge : (g.run x.statements).nodes = (g.mergeNode x.key x.properties).nodes := by
    rw [Element.statements]
    cases x.place? with
    | none => rfl
    | some place => exact Statement.connects_mergeContainment _ _ _ _
  rw [hmerge]
  by_cases h : x.key = key
  · subst h
    rw [if_pos rfl]
    exact Finmap.lookup_insert _
  · rw [if_neg h]
    exact Finmap.lookup_insert_of_ne _ (Ne.symm h)

theorem mem_nodes_run_statements (g : PropertyGraph) (x : Element) (key : NodeKey) :
    key ∈ (g.run x.statements).nodes ↔ key = x.key ∨ key ∈ g.nodes := by
  rw [← Finmap.lookup_isSome, ← Finmap.lookup_isSome, lookup_nodes_run_statements]
  by_cases h : x.key = key
  · simp [h]
  · simp [h, Ne.symm h]

/-- An element is connected with the one that it lies in, if that one is there. -/
theorem edges_run_statements {g : PropertyGraph} {x : Element}
    (h : ∀ k ∈ x.container?, k ∈ g.nodes) :
    (g.run x.statements).edges = g.edges ∪ x.edge?.toFinset := by
  have hplace : ∀ type outer, x.place? = some (type, outer) →
      (g.mergeNode x.key x.properties).draws
        (.mergeContainment type (.string outer) (.string x.id)) =
        {.containment type (.string outer) (.string x.id)} := by
    intro type outer hplace
    refine if_pos ⟨Finmap.mem_insert.2 (.inr (h _ ?_)), Finmap.mem_insert.2 (.inl ?_)⟩
    · rw [Element.container?, hplace]
      rfl
    · rw [Element.inner_of_place? hplace]
      rfl
  rw [Element.statements, Element.edge?]
  cases hcase : x.place? with
  | none => exact (Finset.union_empty _).symm
  | some place =>
      have hdrawn := edges_apply (g.mergeNode x.key x.properties)
        (.mergeContainment place.1 (.string place.2) (.string x.id))
      rw [hplace place.1 place.2 hcase] at hdrawn
      exact hdrawn

theorem counts_run_statements (g : PropertyGraph) (x : Element) :
    (g.run x.statements).counts = g.counts := by
  rw [Element.statements]
  cases x.place? with
  | none => rfl
  | some place =>
      exact counts_apply (g.mergeNode x.key x.properties)
        (.mergeContainment place.1 (.string place.2) (.string x.id))

/-- What putting elements into a graph does to a node: the properties of all elements with its
identifier are set, one after another. -/
theorem lookup_nodes_run_elements (g : PropertyGraph) (xs : List Element) (key : NodeKey) :
    (g.run (xs.flatMap Element.statements)).nodes.lookup key =
      if xs.filter (·.key = key) = [] then g.nodes.lookup key
      else some (overlay ((g.nodes.lookup key).getD (.singleton "id" key.2))
        ((xs.filter (·.key = key)).flatMap Element.properties)) := by
  induction xs generalizing g with
  | nil => rfl
  | cons x xs ih =>
      rw [List.flatMap_cons, run_append, ih, lookup_nodes_run_statements]
      by_cases h : x.key = key
      · rw [List.filter_cons_of_pos (by simpa using h), if_pos h, if_neg (List.cons_ne_nil _ _),
          List.flatMap_cons, overlay_append, Option.getD_some]
        split
        · next hnil => rw [hnil]; rfl
        · rfl
      · rw [List.filter_cons_of_neg (by simpa using h), if_neg h]

theorem mem_nodes_run_elements (g : PropertyGraph) (xs : List Element) (key : NodeKey) :
    key ∈ (g.run (xs.flatMap Element.statements)).nodes ↔
      key ∈ g.nodes ∨ ∃ x ∈ xs, x.key = key := by
  induction xs generalizing g with
  | nil => simp [run]
  | cons x xs ih =>
      rw [List.flatMap_cons, run_append, ih, mem_nodes_run_statements, List.exists_mem_cons_iff,
        eq_comm, or_comm (a := x.key = key), or_assoc]

theorem mem_edges_run_elements {g : PropertyGraph} {xs : List Element}
    (h : Rooted (· ∈ g.nodes) xs) (edge : Edge) :
    edge ∈ (g.run (xs.flatMap Element.statements)).edges ↔
      edge ∈ g.edges ∨ ∃ x ∈ xs, edge ∈ x.edge? := by
  induction xs generalizing g with
  | nil => simp [run]
  | cons x xs ih =>
      -- the nodes that are known to be there grow with every element
      have hrest : Rooted (· ∈ (g.run x.statements).nodes) xs :=
        h.2.mono fun k hk => (mem_nodes_run_statements g x k).2 hk
      rw [List.flatMap_cons, run_append, ih hrest, edges_run_statements h.1, Finset.mem_union,
        Option.mem_toFinset, List.exists_mem_cons_iff, or_assoc]

theorem counts_run_elements (g : PropertyGraph) (xs : List Element) :
    (g.run (xs.flatMap Element.statements)).counts = g.counts := by
  induction xs generalizing g with
  | nil => rfl
  | cons x xs ih => rw [List.flatMap_cons, run_append, ih, counts_run_statements]

end PropertyGraph

theorem connects_of_mem_connections {a : Analysis} {s : Statement} (h : s ∈ connections a) :
    s.Connects := by
  rcases mem_connections.1 h with ⟨e, -, h⟩ | ⟨entry, -, rfl⟩
  · obtain ⟨o, -, base, -, -, rfl⟩ := mem_baseStatements.1 h
    exact Statement.connects_mergeExtends _ _
  · exact Statement.connects_mergeIntegration _ _ _ _ _

theorem connects_of_mem_linked {a : Analysis} {s : Statement} (h : s ∈ linked a) : s.Connects :=
  connects_of_mem_connections (mem_connections_of_mem_linked h)

namespace PropertyGraph

variable (g : PropertyGraph) (a : Analysis)

/-- A graph with an analysis put into it, as far as its elements can be stored. -/
def storing : PropertyGraph :=
  (g.run ((kept a.extensions).flatMap Element.statements)).run (linked a)

theorem nodes_storing :
    (g.storing a).nodes = (g.run ((kept a.extensions).flatMap Element.statements)).nodes :=
  (run_of_connects (fun _ => connects_of_mem_linked) _).1

/-- A node is there if it was there or belongs to an element that is stored. -/
theorem mem_nodes_storing (key : NodeKey) :
    key ∈ (g.storing a).nodes ↔ key ∈ g.nodes ∨ ∃ x ∈ kept a.extensions, x.key = key := by
  rw [nodes_storing, mem_nodes_run_elements]

theorem mem_nodes_storing_empty (key : NodeKey) :
    key ∈ (empty.storing a).nodes ↔ ∃ x ∈ kept a.extensions, x.key = key := by
  rw [mem_nodes_storing, or_iff_right (show key ∉ empty.nodes from Finmap.notMem_empty)]

/-- A node has the properties of the elements with its identifier, and otherwise those it had. -/
theorem lookup_nodes_storing (key : NodeKey) :
    (g.storing a).nodes.lookup key =
      if (kept a.extensions).filter (·.key = key) = [] then g.nodes.lookup key
      else some (overlay ((g.nodes.lookup key).getD (.singleton "id" key.2))
        (((kept a.extensions).filter (·.key = key)).flatMap Element.properties)) := by
  rw [nodes_storing, lookup_nodes_run_elements]

/-- The node of an element has the properties of all elements that share it. -/
theorem lookup_nodes_storing_key {x : Element} (h : x ∈ kept a.extensions) :
    (g.storing a).nodes.lookup x.key =
      some (overlay ((g.nodes.lookup x.key).getD (.singleton "id" x.key.2))
        (((kept a.extensions).filter (·.key = x.key)).flatMap Element.properties)) := by
  rw [lookup_nodes_storing]
  exact if_neg (List.ne_nil_of_mem (List.mem_filter.2 ⟨h, by simp⟩))

/-- An edge is there if it was there, leads to an element from the one that it lies in, or is drawn
between the nodes that are there in the end. -/
theorem mem_edges_storing (edge : Edge) :
    edge ∈ (g.storing a).edges ↔ edge ∈ g.edges ∨ (∃ x ∈ kept a.extensions, edge ∈ x.edge?) ∨
      ∃ s ∈ linked a, edge ∈ (g.storing a).draws s := by
  rw [draws_of_nodes_eq (nodes_storing g a), storing,
    (run_of_connects (fun _ => connects_of_mem_linked) _).2.1,
    mem_edges_run_elements (rooted_kept _ _), or_assoc]

/-- The numbers that are set are those of edges between nodes that are there in the end. -/
theorem counts_storing :
    (g.storing a).counts = overlay g.counts ((linked a).flatMap (g.storing a).numbers) := by
  rw [numbers_of_nodes_eq (nodes_storing g a), storing,
    (run_of_connects (fun _ => connects_of_mem_linked) _).2.2, counts_run_elements]

end PropertyGraph

/-- Storing an analysis puts its elements, as far as they can be stored, and then their connections
into the graph. -/
theorem Store.graphAfter_eq_storing {s : Store} {schema : Schema} (hconnected : s.connected = true)
    (hschema : s.schema = schema.statements.map .ok) (a : Analysis) (g : PropertyGraph) :
    s.graphAfter a g = g.storing a := by
  rw [Store.graphAfter, Store.statements_eq_recorded hconnected hschema, recorded,
    PropertyGraph.run_append, PropertyGraph.run_schema, PropertyGraph.run_append]
  rfl

end ExtensionAtlas.Graph
