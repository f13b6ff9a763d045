import Mathlib.Data.Set.Finite.Basic
import ExtensionAtlas.Graph.Query
import ExtensionAtlas.Proofs.Graph.Contents
import ExtensionAtlas.Proofs.Traversal

/-! What a graph answers to questions. An answer has one record for each thing that is found, in any
order. The record of a node shows all of its properties; where a property is asked for that is not
there, null is shown. A connection answers some work if it gives every statement its answer. -/

namespace ExtensionAtlas.Graph

/-- The records of an answer, one for each thing that is found. -/
def Lists {α : Type} (Found : α → Prop) (Shows : α → Json → Prop) (records : List Json) : Prop :=
  ∃ found : List α, found.Nodup ∧ (∀ x, x ∈ found ↔ Found x) ∧ List.Forall₂ Shows found records

namespace Lists

variable {α β γ : Type} {Found : α → Prop} {Shows : α → Json → Prop} {records : List Json}

theorem exists_records (hfinite : {x | Found x}.Finite)
    (hshows : ∀ x, Found x → ∃ record, Shows x record) : ∃ records, Lists Found Shows records := by
  have hmem (x : α) : x ∈ hfinite.toFinset.toList ↔ Found x := by simp
  choose! shown hshown using hshows
  refine ⟨hfinite.toFinset.toList.map shown, _, Finset.nodup_toList _, hmem, ?_⟩
  rw [List.forall₂_map_right_iff, List.forall₂_same]
  exact fun x hx => hshown x ((hmem x).1 hx)

theorem exists_found (h : Lists Found Shows records) {record : Json} (hrecord : record ∈ records) :
    ∃ x, Found x ∧ Shows x record := by
  obtain ⟨found, -, hmem, hshown⟩ := h
  obtain ⟨x, hx, hshows⟩ := exists_left_of_mem hshown hrecord
  exact ⟨x, (hmem x).1 hx, hshows⟩

theorem exists_record (h : Lists Found Shows records) {x : α} (hx : Found x) :
    ∃ record ∈ records, Shows x record := by
  obtain ⟨found, -, hmem, hshown⟩ := h
  exact exists_right_of_mem hshown ((hmem x).2 hx)

end Lists

namespace PropertyGraph

variable (g : PropertyGraph)

/-- A property of a node as it is shown. -/
def shown (key : NodeKey) (property : String) : Json :=
  ((g.nodes.lookup key).bind fun properties => properties.lookup property).getD .null

/-- Whether a value shows the properties of a node. -/
def ShowsNode (key : NodeKey) (node : Json) : Prop :=
  ∃ properties members, g.nodes.lookup key = some properties ∧ node = .object members ∧
    ∀ property, members.lookup property = properties.lookup property

/-- Whether a record shows a node under some name. -/
def ShowsAs (name : String) (key : NodeKey) (record : Json) : Prop :=
  ∃ node, g.ShowsNode key node ∧ record = .object [(name, node)]

/-- The record of an edge between extensions. -/
def edgeRecord (source target : Json) (kind : IntegrationKind) (description : Json) : Json :=
  .object [
    ("source", g.shown (NodeLabel.extension.text, source) "name"),
    ("target", g.shown (NodeLabel.extension.text, target) "name"),
    ("kind", .string kind.label),
    ("description", description),
    ("count", ((g.counts.lookup (.integration source target kind description)).map
      fun count => .int count).getD .null)]

/-- Whether a node is that of an event procedure whose name contains a name or is contained in it,
letter case aside. -/
def IsEventLike (name : Json) (key : NodeKey) : Prop :=
  key.1 = NodeLabel.procedure.text ∧ g.shown key "isEvent" = .bool true ∧
    ∃ own asked : String, g.shown key "name" = .string own ∧ name = .string asked ∧
      (Text.lower asked.toList <:+: Text.lower own.toList ∨
        Text.lower own.toList <:+: Text.lower asked.toList)

/-- Whether a node is that of an object that extends one of some name. -/
def IsExtensionOf (name : Json) (key : NodeKey) : Prop :=
  key.1 = NodeLabel.object.text ∧ name ≠ .null ∧ g.shown key "extends" = name

/-- The answers to a statement. Only questions have records. -/
def Answers : Statement → List Json → Prop
  | .findExtension id =>
    Lists (fun key => key = (NodeLabel.extension.text, id) ∧ key ∈ g.nodes) (g.ShowsAs "e")
  | .outgoing id =>
    Lists (fun (target, kind, description) => .integration id target kind description ∈ g.edges)
      fun (target, kind, description) record => record = g.edgeRecord id target kind description
  | .incoming id =>
    Lists (fun (source, kind, description) => .integration source id kind description ∈ g.edges)
      fun (source, kind, description) record => record = g.edgeRecord source id kind description
  | .eventProcedures name => Lists (g.IsEventLike name) (g.ShowsAs "p")
  | .objectsExtending name => Lists (g.IsExtensionOf name) (g.ShowsAs "o")
  | .uniqueKey _ _ | .index _ _ | .mergeNode _ _ _ | .mergeContainment _ _ _ | .mergeExtends _ _
  | .mergeIntegration _ _ _ _ _ => (· = [])

/-- Whether answers are those to the statements that some work puts when it gets them. -/
def AnswersTo {α : Type} (work : Work α) (answers : List (List Json)) : Prop :=
  List.Forall₂ g.Answers (work.run.run { answers }).2.statements answers

theorem exists_members (properties : PropertyMap) :
    ∃ members : Properties, ∀ property, members.lookup property = properties.lookup property := by
  induction properties using Finmap.induction_on with
  | _ entries =>
      induction entries using AList.insertRec with
      | H0 => exact ⟨[], fun property => rfl⟩
      | IH key value entries hkey ih =>
          obtain ⟨members, hmembers⟩ := ih
          refine ⟨(key, value) :: members, fun property => ?_⟩
          rw [List.lookup_cons, ← Finmap.insert_toFinmap]
          by_cases h : property = key
          · subst h
            rw [beq_self_eq_true]
            exact (Finmap.lookup_insert entries.toFinmap).symm
          · rw [beq_false_of_ne h, hmembers, Finmap.lookup_insert_of_ne _ h]

variable {g}

/-- The nodes that an answer shows under some name. -/
theorem exists_mapM_needed {Found : NodeKey → Prop} {name : String} {records : List Json}
    (h : Lists Found (g.ShowsAs name) records) :
    ∃ nodes, records.mapM (needed name) = .ok nodes ∧ Lists Found g.ShowsNode nodes := by
  obtain ⟨found, hnodup, hmem, hshown⟩ := h
  have hnodes : ∃ nodes, List.Forall₂ (fun record node => needed name record = .ok node) records
      nodes ∧ List.Forall₂ g.ShowsNode found nodes := by
    clear hnodup hmem
    induction hshown with
    | nil => exact ⟨[], .nil, .nil⟩
    | cons hrecord _ ih =>
        obtain ⟨node, hnode, rfl⟩ := hrecord
        obtain ⟨nodes, hneeded, hnodes⟩ := ih
        exact ⟨node :: nodes, .cons (by simp [needed]) hneeded, .cons hnode hnodes⟩
  obtain ⟨nodes, hneeded, hnodes⟩ := hnodes
  exact ⟨nodes, mapM_eq_ok_iff.2 hneeded, found, hnodup, hmem, hnodes⟩

/-- What is shown of a property stands in the value that shows the node. -/
theorem lookup_of_showsNode {key : NodeKey} {members : Properties} {property : String}
    {value : Json} (h : g.ShowsNode key (.object members)) (hvalue : g.shown key property = value)
    (hne : value ≠ .null) : members.lookup property = some value := by
  obtain ⟨properties, others, hlookup, heq, hshown⟩ := h
  cases heq
  rw [shown, hlookup, Option.bind_some, ← hshown] at hvalue
  cases hfound : members.lookup property with
  | none => rw [hfound] at hvalue; exact absurd hvalue.symm hne
  | some found => rw [hfound] at hvalue; exact congrArg some hvalue

theorem exists_showsAs (name : String) {key : NodeKey} (h : key ∈ g.nodes) :
    ∃ record, g.ShowsAs name key record := by
  obtain ⟨properties, hproperties⟩ := Finmap.mem_iff.1 h
  obtain ⟨members, hmembers⟩ := exists_members properties
  exact ⟨_, _, ⟨properties, members, hproperties, rfl, hmembers⟩, rfl⟩

theorem mem_nodes_of_shown_ne {key : NodeKey} {property : String}
    (h : g.shown key property ≠ .null) : key ∈ g.nodes := by
  rw [← Finmap.lookup_isSome, Option.isSome_iff_ne_none]
  intro hnone
  exact h (by rw [shown, hnone]; rfl)

/-- Nodes that are there can be listed. -/
theorem exists_lists_nodes {Found : NodeKey → Prop} (h : ∀ key, Found key → key ∈ g.nodes)
    (name : String) : ∃ records, Lists Found (g.ShowsAs name) records := by
  refine Lists.exists_records ?_ fun key hkey => exists_showsAs name (h key hkey)
  exact g.nodes.keys.finite_toSet.subset fun key hkey => Finmap.mem_keys.2 (h key hkey)

/-- Edges that are there can be listed. -/
theorem exists_lists_edges {α : Type} (edge : α → Edge) (record : α → Json)
    (h : Function.Injective edge) :
    ∃ records, Lists (fun x => edge x ∈ g.edges) (fun x r => r = record x) records :=
  Lists.exists_records (g.edges.finite_toSet.preimage h.injOn) fun x _ => ⟨record x, rfl⟩

/-- Every statement has an answer. -/
theorem exists_answers (g : PropertyGraph) (statement : Statement) :
    ∃ records, g.Answers statement records := by
  cases statement with
  | findExtension id => exact exists_lists_nodes (fun _ h => h.2) "e"
  | outgoing id =>
      refine exists_lists_edges (fun (target, kind, description) =>
        .integration id target kind description) _ ?_
      rintro ⟨target, kind, description⟩ ⟨target', kind', description'⟩ h
      simpa using h
  | incoming id =>
      refine exists_lists_edges (fun (source, kind, description) =>
        .integration source id kind description) _ ?_
      rintro ⟨source, kind, description⟩ ⟨source', kind', description'⟩ h
      simpa using h
  | eventProcedures name =>
      exact exists_lists_nodes (fun key h => mem_nodes_of_shown_ne (by rw [h.2.1]; simp)) "p"
  | objectsExtending name =>
      refine exists_lists_nodes (fun key h => ?_) "o"
      exact mem_nodes_of_shown_ne (h.2.2.symm ▸ h.2.1)
  | _ => exact ⟨[], rfl⟩

/-- The node of an element shows a property on which all elements that share it agree. -/
theorem shown_storing (g : PropertyGraph) (a : Analysis) {x : Element}
    (hx : x ∈ kept a.extensions) {property : String} {value : Json}
    (hmem : (property, value) ∈ x.properties)
    (hagree : ∀ y ∈ elements a.extensions, y.key = x.key →
      ∀ other, (property, other) ∈ y.properties → other = value) :
    (g.storing a).shown x.key property = value := by
  have hset : lastValue? (((kept a.extensions).filter (·.key = x.key)).flatMap
      Element.properties) property = some value := by
    refine lastValue?_eq_some (List.mem_flatMap.2 ⟨x, ?_, hmem⟩) fun other hother => ?_
    · exact List.mem_filter.2 ⟨hx, decide_eq_true rfl⟩
    · obtain ⟨y, hy, hother⟩ := List.mem_flatMap.1 hother
      rw [List.mem_filter, decide_eq_true_eq] at hy
      exact hagree y (mem_elements_of_mem_kept hy.1) hy.2 other hother
  rw [shown, lookup_nodes_storing_key g a hx, Option.bind_some, lookup_overlay, hset]
  rfl

end PropertyGraph

/-- A question takes the next answer, and the work goes on with it. -/
theorem run_ask_bind {α : Type} {c : Connection} (h : c.capacity = none) (database : Database)
    (statement : Statement) (next : List Json → Work α) :
    (ask database statement >>= next).run.run c = (next (c.answers.head?.getD [])).run.run
      ({ c with databases := c.databases ++ [database] }.record [statement]) := by
  have hopened : ({ c with databases := c.databases ++ [database] } : Connection).capacity = none :=
    h
  have hask : (ask database statement).run.run c = (.ok (c.answers.head?.getD []),
      { c with databases := c.databases ++ [database] }.record [statement]) := by
    change (Work.openSession database >>= fun _ => Work.execute statement).run.run c = _
    rw [ExceptT.run_bind, StateT.run_bind]
    exact Work.run_execute hopened statement
  rw [ExceptT.run_bind, StateT.run_bind, hask]
  rfl

end ExtensionAtlas.Graph
