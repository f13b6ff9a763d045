import ExtensionAtlas.Analyzer
import ExtensionAtlas.Proofs.Graph.Contents

/-! Storing again. An analysis that is already in a graph changes nothing there. A newer analysis
brings its properties, but takes none away: a property that an element had and has no longer keeps
its old value. Only some properties can be lost in that way; all others are set every time. -/

namespace ExtensionAtlas.Graph

namespace NodeLabel

/-- The properties that every node of a label gets when it is merged. -/
def neededProperties : NodeLabel → List String
  | extension => ["id", "name", "path", "dependencies"]
  | object => ["id", "name", "kind", "objectId", "extension"]
  | field => ["id", "name", "fieldId", "objectName", "type", "isFlowfield"]
  | procedure => ["id", "name", "objectName", "objectKind", "isLocal", "isEvent", "parameters"]

/-- The properties that a node of a label can do without. -/
def optionalProperties : NodeLabel → List String
  | extension => []
  | object => ["extends"]
  | field => ["calcFormula", "calcMethod", "sourceTable", "sourceField"]
  | procedure => ["returnType", "eventRole"]

end NodeLabel

namespace Element

theorem keys_entries_subset (x : Element) : x.entries.map Prod.fst ⊆
    x.label.neededProperties ++ x.label.optionalProperties := by
  cases x with
  | extension e =>
      change ["id", "name", "path", "dependencies"] ⊆
        NodeLabel.extension.neededProperties ++ NodeLabel.extension.optionalProperties
      decide
  | object e o =>
      change ["id", "name", "kind", "objectId", "extends", "extension"] ⊆
        NodeLabel.object.neededProperties ++ NodeLabel.object.optionalProperties
      decide
  | field e o f =>
      have hderived (d : Option DerivedField) : (derivedProperties d).map Prod.fst ⊆
          NodeLabel.field.neededProperties ++ NodeLabel.field.optionalProperties := by
        cases d with
        | none => exact List.nil_subset _
        | some d =>
            change ["calcMethod", "sourceTable", "sourceField"] ⊆ _
            decide
      rw [entries, fieldProperties, List.map_append]
      refine List.append_subset.2 ⟨?_, hderived _⟩
      change ["id", "name", "fieldId", "objectName", "type", "isFlowfield", "calcFormula"] ⊆
        NodeLabel.field.neededProperties ++ NodeLabel.field.optionalProperties
      decide
  | procedure e o p =>
      change ["id", "name", "objectName", "objectKind", "returnType", "isLocal", "isEvent",
        "eventRole", "parameters"] ⊆
          NodeLabel.procedure.neededProperties ++ NodeLabel.procedure.optionalProperties
      decide

theorem exists_mem_properties (x : Element) {property : String}
    (h : property ∈ x.label.neededProperties) : ∃ value, (property, value) ∈ x.properties := by
  simp only [properties, mem_presentProperties]
  cases x with
  | extension e =>
      simp only [label, NodeLabel.neededProperties, List.mem_cons, List.not_mem_nil, or_false] at h
      rcases h with rfl | rfl | rfl | rfl <;> simp [entries, extensionProperties, Json.ofTexts]
  | object e o =>
      simp only [label, NodeLabel.neededProperties, List.mem_cons, List.not_mem_nil, or_false] at h
      rcases h with rfl | rfl | rfl | rfl | rfl <;> simp [entries, objectProperties]
  | field e o f =>
      simp only [label, NodeLabel.neededProperties, List.mem_cons, List.not_mem_nil, or_false] at h
      rcases h with rfl | rfl | rfl | rfl | rfl | rfl <;> simp [entries, fieldProperties]
  | procedure e o p =>
      simp only [label, NodeLabel.neededProperties, List.mem_cons, List.not_mem_nil, or_false] at h
      rcases h with rfl | rfl | rfl | rfl | rfl | rfl | rfl <;>
        simp [entries, procedureProperties, Json.ofTexts]

/-- Elements of one label agree on which properties they have, but for the optional ones. -/
theorem lastValue?_eq_none_of_label_eq {x y : Element} (hlabel : x.label = y.label)
    {property : String} (h : lastValue? x.properties property = none)
    (hoptional : property ∉ y.label.optionalProperties) :
    lastValue? y.properties property = none := by
  rw [lastValue?_eq_none_iff] at h ⊢
  rintro ⟨key, value⟩ hmem rfl
  have hkey : key ∈ y.entries.map Prod.fst :=
    List.mem_map_of_mem (f := Prod.fst) (mem_presentProperties.1 hmem).1
  rcases List.mem_append.1 (keys_entries_subset y hkey) with hneeded | hoptional'
  · rw [← hlabel] at hneeded
    obtain ⟨value', hmem'⟩ := exists_mem_properties x hneeded
    exact h _ hmem' rfl
  · exact hoptional hoptional'

end Element

namespace PropertyGraph

theorem eq_of_parts_eq {g h : PropertyGraph} (hnodes : g.nodes = h.nodes)
    (hedges : g.edges = h.edges) (hcounts : g.counts = h.counts) : g = h := by
  cases g
  cases h
  simp_all

/-- An analysis that is stored already does not change the nodes any more. -/
theorem nodes_storing_storing (g : PropertyGraph) (a : Analysis) :
    ((g.storing a).storing a).nodes = (g.storing a).nodes := by
  refine Finmap.ext_lookup fun key => ?_
  rw [lookup_nodes_storing]
  split
  · rfl
  · next hwritten =>
      have hfound := lookup_nodes_storing g a key
      rw [if_neg hwritten] at hfound
      rw [hfound, Option.getD_some, overlay_overlay_self]

/-- An analysis that is stored already changes nothing any more. -/
theorem storing_storing (g : PropertyGraph) (a : Analysis) :
    (g.storing a).storing a = g.storing a := by
  have hnodes := nodes_storing_storing g a
  refine eq_of_parts_eq hnodes (Finset.ext fun edge => ?_) ?_
  · rw [mem_edges_storing, draws_of_nodes_eq hnodes]
    refine or_iff_left_of_imp fun hdrawn => ?_
    exact (mem_edges_storing g a edge).2 (.inr hdrawn)
  · rw [counts_storing, numbers_of_nodes_eq hnodes, counts_storing, overlay_overlay_self]

end PropertyGraph

/-- Elements always set the property that identifies them. -/
theorem Element.id_mem_neededProperties (x : Element) : "id" ∈ x.label.neededProperties := by
  cases x.label <;> decide

/-- What stands at a node after it has been made anew is what its elements set. -/
theorem mem_overlay_singleton_iff {xs : List Element} (hne : xs ≠ []) (id : Json)
    (property : String) :
    property ∈ overlay (.singleton "id" id) (xs.flatMap Element.properties) ↔
      lastValue? (xs.flatMap Element.properties) property ≠ none := by
  have hid : lastValue? (xs.flatMap Element.properties) "id" ≠ none := by
    obtain ⟨x, hx⟩ := List.exists_mem_of_ne_nil xs hne
    obtain ⟨value, hmem⟩ := x.exists_mem_properties x.id_mem_neededProperties
    intro hnone
    exact lastValue?_eq_none_iff.1 hnone _ (List.mem_flatMap.2 ⟨x, hx, hmem⟩) rfl
  rw [mem_overlay, Finmap.mem_singleton]
  refine or_iff_left_of_imp ?_
  rintro rfl
  exact hid

namespace PropertyGraph

variable {g : PropertyGraph} {a : Analysis} {key : NodeKey} {fresh : PropertyMap}

theorem eq_overlay_of_lookup_empty (h : (empty.storing a).nodes.lookup key = some fresh) :
    (kept a.extensions).filter (·.key = key) ≠ [] ∧
      fresh = overlay (.singleton "id" key.2)
        (((kept a.extensions).filter (·.key = key)).flatMap Element.properties) := by
  rw [lookup_nodes_storing] at h
  split at h
  · cases h
  · next hwritten => exact ⟨hwritten, (Option.some.inj h).symm⟩

/-- A property that a node has after it has been made anew has the same value whatever the graph
held before, and any other property is left as it was. -/
theorem lookup_storing_of_lookup_empty (h : (empty.storing a).nodes.lookup key = some fresh) :
    ∃ now, (g.storing a).nodes.lookup key = some now ∧
      (∀ property ∈ fresh, now.lookup property = fresh.lookup property) ∧
      ∀ property ∉ fresh, now.lookup property =
        (g.nodes.lookup key).bind fun old => old.lookup property := by
  obtain ⟨hwritten, rfl⟩ := eq_overlay_of_lookup_empty h
  have hset := mem_overlay_singleton_iff hwritten key.2
  refine ⟨_, (lookup_nodes_storing g a key).trans (if_neg hwritten), fun property hmem => ?_,
    fun property hmem => ?_⟩
  · obtain ⟨value, hvalue⟩ := Option.ne_none_iff_exists'.1 ((hset property).1 hmem)
    rw [lookup_overlay, lookup_overlay, hvalue, Option.some_or, Option.some_or]
  · have hnone := not_not.1 fun hne => hmem ((hset property).2 hne)
    rw [lookup_overlay, hnone, Option.none_or]
    cases hold : g.nodes.lookup key with
    | some old => rfl
    | none =>
        rw [Option.getD_none, Option.bind_none, Finmap.lookup_eq_none, Finmap.mem_singleton]
        rintro rfl
        exact hmem (mem_overlay.2 (.inr ((Finmap.mem_singleton _ _ _).2 rfl)))

/-- A node that is made anew has what its elements set. -/
theorem mem_of_lookup_empty (h : (empty.storing a).nodes.lookup key = some fresh)
    {property : String} : property ∈ fresh ↔
      ∃ x ∈ kept a.extensions, x.key = key ∧ lastValue? x.properties property ≠ none := by
  obtain ⟨hwritten, rfl⟩ := eq_overlay_of_lookup_empty h
  rw [mem_overlay_singleton_iff hwritten, lastValue?_flatMap_ne_none_iff]
  simp only [List.mem_filter, decide_eq_true_eq, and_assoc]

/-- Only optional properties are left over from an older analysis. -/
theorem mem_optionalProperties_of_stale {b : Analysis} {old : PropertyMap}
    (hold : (empty.storing a).nodes.lookup key = some old)
    (hfresh : (empty.storing b).nodes.lookup key = some fresh) {property : String}
    (hmem : property ∈ old) (hstale : property ∉ fresh) :
    ∃ label : NodeLabel, key.1 = label.text ∧ property ∈ label.optionalProperties := by
  obtain ⟨y, -, hy, hset⟩ := (mem_of_lookup_empty hold).1 hmem
  obtain ⟨x, hx⟩ := List.exists_mem_of_ne_nil _ (eq_overlay_of_lookup_empty hfresh).1
  rw [List.mem_filter, decide_eq_true_eq] at hx
  -- the elements of both analyses at this node have one label, so needed properties are set anew
  have hlabel : x.label = y.label :=
    NodeLabel.text_injective (congrArg Prod.fst (hx.2.trans hy.symm))
  have hunset : lastValue? x.properties property = none := by
    by_contra hne
    exact hstale ((mem_of_lookup_empty hfresh).2 ⟨x, hx.1, hx.2, hne⟩)
  refine ⟨y.label, congrArg Prod.fst hy.symm, ?_⟩
  by_contra hoptional
  exact hset (Element.lastValue?_eq_none_of_label_eq hlabel hunset hoptional)

end PropertyGraph

/-- Storing an analysis succeeds exactly if all its elements can be stored, and adds the nodes of
those that can be. Storing it twice is storing it once, whatever its integrations are, however the
identifiers of its elements collide and however far it gets. -/
theorem graphAfter_graphAfter (database : Database) (schema : Schema) (a : Analysis)
    (g : PropertyGraph) :
    let store : Store := { database, schema := schema.statements.map .ok }
    (((store.save a).run.run {}).1 = .ok () ↔ Storable a.extensions) ∧
      (∀ key, key ∈ (store.graphAfter a g).nodes ↔
        key ∈ g.nodes ∨ ∃ x ∈ kept a.extensions, x.key = key) ∧
      (Storable a.extensions → kept a.extensions = elements a.extensions) ∧
      store.graphAfter a (store.graphAfter a g) = store.graphAfter a g := by
  intro store
  have hstoring := Store.graphAfter_eq_storing (s := store) rfl rfl a
  refine ⟨Store.run_save_eq_ok_iff rfl rfl a, fun key => ?_, kept_of_storable, ?_⟩
  · rw [hstoring, PropertyGraph.mem_nodes_storing]
  · rw [hstoring, hstoring, PropertyGraph.storing_storing]

/-- A procedure with two declarations that share a node. -/
def overloadedFile : Extension :=
  { name := "Posting", path := "Posting.al"
    objects := [⟨.codeunit, 80, "Post", none, [],
      [{ name := "Run", returnType := some "Boolean" }, { name := "Run", isLocal := true }]⟩] }

/-- Two declarations that share a node, and an integration with an extension that is not there, can
be stored again on a graph in which the node had other properties. -/
theorem graphAfter_graphAfter_overloaded :
    let store : Store := { database := .standard, schema := Schema.standard.statements.map .ok }
    let a : Analysis :=
      { extensions := [overloadedFile], integrations := [⟨"Posting", "Sales", .event, "OnPost"⟩] }
    let g := PropertyGraph.empty.run
      [.mergeNode "Procedure" (.string "Posting/codeunit/80/Run") [("note", .string "old")]]
    ((store.save a).run.run {}).1 = .ok () ∧
      store.graphAfter a (store.graphAfter a g) = store.graphAfter a g ∧
      (store.graphAfter a g).nodes ≠ g.nodes := by
  intro store a g
  obtain ⟨hok, -, -, hagain⟩ := graphAfter_graphAfter .standard Schema.standard a g
  exact ⟨hok.2 ⟨by decide, by decide⟩, hagain, by decide +kernel⟩

/-- A file with one procedure. -/
def postingTree (declaration : String) : FileTree :=
  .ofFiles [] [("Posting.al",
    .file ("codeunit 80 Post \x7b procedure " ++ declaration ++ "; \x7d").toUTF8.toList)]

/-- What is read from a file with one procedure. -/
def postingAnalysis (declaration : String) (returnType : Option String) : Analysis where
  extensions := [
    { name := "Posting", path := "Posting.al"
      objects := [⟨.codeunit, 80, "Post", none, [], [{ name := "Run", returnType }]⟩]
      source := "codeunit 80 Post \x7b procedure " ++ declaration ++ "; \x7d" }]

/-- On the empty graph all elements of an analysis get their nodes, if they can be stored, as those
can that were read from sources with names. When it is stored over an older analysis, these have
every property that they have there. They have nothing else, but for optional properties that only
the older analysis set: these keep their old values. -/
theorem lookup_graphAfter_graphAfter (database : Database) (schema : Schema) (old new : Analysis) :
    let store : Store := { database, schema := schema.statements.map .ok }
    let before := store.graphAfter old .empty
    (∀ a ∈ [old, new], (((store.save a).run.run {}).1 = .ok () ↔ Storable a.extensions) ∧
        ((∀ e ∈ a.extensions, e.name ≠ "" ∧
          ∃ source path, Extension.ofSource source path = .ok e) → Storable a.extensions)) ∧
      (Storable new.extensions →
        ∀ x ∈ elements new.extensions, x.key ∈ (store.graphAfter new .empty).nodes) ∧
      ∀ key fresh, (store.graphAfter new .empty).nodes.lookup key = some fresh →
        ∃ now, (store.graphAfter new before).nodes.lookup key = some now ∧
          (∀ property ∈ fresh, now.lookup property = fresh.lookup property) ∧
          ∀ property ∉ fresh,
            now.lookup property = (before.nodes.lookup key).bind (·.lookup property) ∧
            (property ∈ now → ∃ label : NodeLabel,
              key.1 = label.text ∧ property ∈ label.optionalProperties) := by
  intro store before
  have hstoring := Store.graphAfter_eq_storing (s := store) rfl rfl
  refine ⟨fun a _ => ⟨Store.run_save_eq_ok_iff rfl rfl a, .of_ofSource⟩,
    fun hstorable x hx => ?_, fun key fresh hfresh => ?_⟩
  · rw [hstoring, PropertyGraph.mem_nodes_storing_empty, kept_of_storable hstorable]
    exact ⟨x, hx, rfl⟩
  have hbefore : before = PropertyGraph.empty.storing old := hstoring old .empty
  rw [hstoring] at hfresh
  rw [hstoring, hbefore]
  obtain ⟨now, hnow, hset, hkept⟩ :=
    PropertyGraph.lookup_storing_of_lookup_empty (g := PropertyGraph.empty.storing old) hfresh
  refine ⟨now, hnow, hset, fun property hstale => ⟨hkept property hstale, fun hmem => ?_⟩⟩
  obtain ⟨value, hvalue⟩ := Finmap.mem_iff.1 hmem
  rw [hkept property hstale] at hvalue
  obtain ⟨left, hleft, hvalue⟩ := Option.bind_eq_some_iff.1 hvalue
  exact PropertyGraph.mem_optionalProperties_of_stale hleft hfresh (Finmap.mem_iff.2 ⟨_, hvalue⟩)
    hstale

/-- A procedure that has lost its return type still has the old one, and its other properties are
set. -/
theorem lookup_graphAfter_graphAfter_posting :
    let old := postingAnalysis "Run(): Integer" (some "Integer")
    let new := postingAnalysis "Run()" none
    let store : Store := { database := .standard, schema := Schema.standard.statements.map .ok }
    let key : NodeKey := ("Procedure", .string "Posting/codeunit/80/Run")
    Storable old.extensions ∧ Storable new.extensions ∧
      ∃ fresh now, (store.graphAfter new .empty).nodes.lookup key = some fresh ∧
        (store.graphAfter new (store.graphAfter old .empty)).nodes.lookup key = some now ∧
        now.lookup "isLocal" = fresh.lookup "isLocal" ∧
        now.lookup "returnType" = some (.string "Integer") := by
  intro old new store key
  have hold : Storable old.extensions := ⟨by decide, by decide⟩
  have hnew : Storable new.extensions := ⟨by decide, by decide⟩
  have hfound : ((store.graphAfter new .empty).nodes.lookup key).isSome = true := by
    decide +kernel
  obtain ⟨fresh, hfresh⟩ := Option.isSome_iff_exists.1 hfound
  obtain ⟨now, hnow, hset, hkept⟩ :=
    (lookup_graphAfter_graphAfter .standard Schema.standard old new).2.2 key fresh hfresh
  have hproperties : ∀ properties ∈ (store.graphAfter new .empty).nodes.lookup key,
      "isLocal" ∈ properties ∧ "returnType" ∉ properties := by decide +kernel
  have hbefore : ((store.graphAfter old .empty).nodes.lookup key).bind (·.lookup "returnType") =
      some (.string "Integer") := by decide +kernel
  obtain ⟨hlocal, hreturn⟩ := hproperties fresh hfresh
  exact ⟨hold, hnew, fresh, now, hfresh, hnow, hset _ hlocal, (hkept _ hreturn).1.trans hbefore⟩

/-- A procedure that has lost its return type keeps it in the graph, and so is not as it would be on
the empty graph. -/
theorem lookup_graphAfter_graphAfter_ne :
    let store : Store := { database := .standard, schema := Schema.standard.statements.map .ok }
    let read (declaration : String) := Analyzer.analyze {} (postingTree declaration)
      [.ofText "Posting.al"]
    let old := postingAnalysis "Run(): Integer" (some "Integer")
    let new := postingAnalysis "Run()" none
    let key : NodeKey := ("Procedure", .string "Posting/codeunit/80/Run")
    (read "Run(): Integer").map (·.analysis) = .ok old ∧
      (read "Run()").map (·.analysis) = .ok new ∧
      (∀ e ∈ old.extensions, e.name ≠ "") ∧ (∀ e ∈ new.extensions, e.name ≠ "") ∧
      key ∈ (store.graphAfter new .empty).nodes ∧
      (store.graphAfter new (store.graphAfter old .empty)).nodes.lookup key ≠
        (store.graphAfter new .empty).nodes.lookup key ∧
      ((store.graphAfter new (store.graphAfter old .empty)).nodes.lookup key).bind
        (·.lookup "returnType") = some (.string "Integer") := by
  decide +kernel

end ExtensionAtlas.Graph
