import ExtensionAtlas.Proofs.Graph.Contents
import ExtensionAtlas.Proofs.Graph.ExtensionEdges

/-! The order in which an analysis is stored. A statement that draws an edge does nothing while a
node that it looks up is missing. In what is recorded for a batch no statement looks up a node by
an identifier that was not merged in front of it. Bases are looked up by name, and the statements
that do so come behind all nodes. -/

namespace ExtensionAtlas.Graph

namespace Statement

/-- The node that a statement merges. -/
def merged? : Statement → Option NodeKey
  | mergeNode label id _ => some (label, id)
  | _ => none

/-- The nodes that a statement looks up by their identifiers to draw an edge. -/
def needed : Statement → List NodeKey
  | mergeContainment type outer inner => [(type.outer.text, outer), (type.inner.text, inner)]
  | mergeExtends object _ => [(NodeLabel.object.text, object)]
  | mergeIntegration source target _ _ _ =>
    [(NodeLabel.extension.text, source), (NodeLabel.extension.text, target)]
  | _ => []

theorem merged?_eq_some {s : Statement} {key : NodeKey} :
    s.merged? = some key ↔ ∃ properties, s = .mergeNode key.1 key.2 properties := by
  obtain ⟨label, id⟩ := key
  cases s <;> simp [merged?, and_comm]

end Statement

/-- Every node that a statement looks up is known or was merged in front of it. -/
def Grounded (known : NodeKey → Prop) : List Statement → Prop
  | [] => True
  | s :: ss => (∀ k ∈ s.needed, known k) ∧ Grounded (fun k => s.merged? = some k ∨ known k) ss

namespace Grounded

variable {known known' : NodeKey → Prop} {ss ts : List Statement}

theorem mono (h : ∀ k, known k → known' k) (hss : Grounded known ss) : Grounded known' ss := by
  induction ss generalizing known known' with
  | nil => trivial
  | cons s ss ih => exact ⟨fun k hk => h k (hss.1 k hk), ih (fun k => Or.imp_right (h k)) hss.2⟩

theorem of_forall (h : ∀ s ∈ ss, ∀ k ∈ s.needed, known k) : Grounded known ss := by
  induction ss generalizing known with
  | nil => trivial
  | cons s ss ih =>
      rw [List.forall_mem_cons] at h
      exact ⟨h.1, ih fun t ht k hk => .inr (h.2 t ht k hk)⟩

/-- What comes behind may also look up the nodes that were merged in front. -/
theorem append (hss : Grounded known ss)
    (hts : Grounded (fun k => known k ∨ ∃ s ∈ ss, s.merged? = some k) ts) :
    Grounded known (ss ++ ts) := by
  induction ss generalizing known with
  | nil => exact hts.mono (by simp)
  | cons s ss ih =>
      refine ⟨hss.1, ih hss.2 (hts.mono fun k hk => ?_)⟩
      rw [List.exists_mem_cons_iff] at hk
      tauto

/-- A statement looks up no node but those that are known or were merged in front of it. -/
theorem known_or_merged {front back : List Statement} {s : Statement}
    (h : Grounded known (front ++ s :: back)) {k : NodeKey} (hk : k ∈ s.needed) :
    known k ∨ ∃ t ∈ front, t.merged? = some k := by
  induction front generalizing known with
  | nil => exact .inl (h.1 k hk)
  | cons t front ih =>
      rw [List.exists_mem_cons_iff]
      have hrest := ih h.2
      tauto

end Grounded

/-- Elements that come behind the ones that they lie in are stored behind them. -/
theorem Rooted.grounded {known : NodeKey → Prop} {xs : List Element} (h : Rooted known xs) :
    Grounded known (xs.flatMap Element.statements) := by
  induction xs generalizing known with
  | nil => trivial
  | cons x xs ih =>
      have hrest : Grounded (fun k => some x.key = some k ∨ known k)
          (xs.flatMap Element.statements) :=
        (ih h.2).mono fun k hk => hk.imp_left fun heq => congrArg some heq.symm
      rw [List.flatMap_cons, Element.statements]
      cases hplace : x.place? with
      | none => exact ⟨by simp [Statement.needed], hrest⟩
      | some place =>
          obtain ⟨type, outer⟩ := place
          refine ⟨by simp [Statement.needed], ?_, hrest.mono fun k => .inr⟩
          have hcontainer : known (type.outer.text, .string outer) :=
            h.1 _ (by simp [Element.container?, hplace])
          have hinner : (type.inner.text, .string x.id) = x.key := by
            rw [Element.key, Element.inner_of_place? hplace]
          simp only [Statement.needed, List.forall_mem_cons, hinner]
          exact ⟨.inr hcontainer, .inl rfl, List.forall_mem_nil _⟩

theorem exists_merged?_eq_key {xs : List Element} {x : Element} (h : x ∈ xs) :
    ∃ s ∈ xs.flatMap Element.statements, s.merged? = some x.key :=
  ⟨_, List.mem_flatMap.2 ⟨x, h, List.mem_cons_self⟩, rfl⟩

/-- What connects the elements of an analysis looks up nodes of its elements. -/
theorem exists_key_eq_of_mem_needed {a : Analysis} (h : Closed a) {s : Statement}
    (hs : s ∈ linked a) {k : NodeKey} (hk : k ∈ s.needed) :
    ∃ x ∈ kept a.extensions, x.key = k := by
  rw [kept_of_storable (storable_of_mem_linked hs)]
  rcases mem_connections.1 (mem_connections_of_mem_linked hs) with
    ⟨e, he, hs⟩ | ⟨entry, hentry, rfl⟩
  · obtain ⟨o, ho, base, -, -, rfl⟩ := mem_baseStatements.1 hs
    rw [List.mem_singleton.1 hk]
    exact ⟨.object e o, mem_elements_object.2 ⟨he, ho⟩, rfl⟩
  · obtain ⟨hsource, htarget⟩ := h entry.1 (mem_tally.1 hentry).1
    rcases List.mem_pair.1 hk with rfl | rfl
    · exact exists_key_eq_extension_iff.2 hsource
    · exact exists_key_eq_extension_iff.2 htarget

theorem merged?_of_mem_connections {a : Analysis} {s : Statement} (h : s ∈ connections a) :
    s.merged? = none := by
  rcases mem_connections.1 h with ⟨e, -, h⟩ | ⟨entry, -, rfl⟩
  · obtain ⟨o, -, base, -, -, rfl⟩ := mem_baseStatements.1 h
    rfl
  · rfl

theorem mem_schemaStatements {schema : Schema} {s : Statement} (h : s ∈ schema.statements) :
    ∃ label property, s = .uniqueKey label property ∨ s = .index label property := by
  rcases List.mem_append.1 h with h | h
  · obtain ⟨⟨label, property⟩, -, rfl⟩ := List.mem_map.1 h
    exact ⟨label, property, .inl rfl⟩
  · obtain ⟨⟨label, properties⟩, -, h⟩ := List.mem_flatMap.1 h
    obtain ⟨property, -, rfl⟩ := List.mem_map.1 h
    exact ⟨label, property, .inr rfl⟩

/-- The statements that set up a schema and store elements draw no edges to bases and none between
extensions. -/
theorem ne_of_mem_front {schema : Schema} {xs : List Element} {s : Statement}
    (h : s ∈ schema.statements ++ xs.flatMap Element.statements) :
    (∀ object base, s ≠ .mergeExtends object base) ∧
      ∀ source target kind description count,
        s ≠ .mergeIntegration source target kind description count := by
  rcases List.mem_append.1 h with h | h
  · obtain ⟨label, property, rfl | rfl⟩ := mem_schemaStatements h <;> simp
  · obtain ⟨x, -, h⟩ := List.mem_flatMap.1 h
    rcases Element.mem_statements.1 h with rfl | ⟨type, outer, -, rfl⟩ <;> simp

/-- Nothing is looked up too early. -/
theorem grounded_recorded (schema : Schema) {a : Analysis} (h : Closed a) :
    Grounded (fun _ => False) (recorded schema a) := by
  have hschema : Grounded (fun _ => False) schema.statements := .of_forall fun s hs k hk => by
    obtain ⟨label, property, rfl | rfl⟩ := mem_schemaStatements hs <;> cases hk
  refine hschema.append (((rooted_kept _ _).grounded).append (.of_forall fun s hs k hk => ?_))
  obtain ⟨x, hx, rfl⟩ := exists_key_eq_of_mem_needed h hs hk
  exact .inr (exists_merged?_eq_key hx)

/-- A graph has the nodes that were merged into it. -/
theorem PropertyGraph.mem_nodes_run {g : PropertyGraph} {ss : List Statement} {key : NodeKey} :
    key ∈ (g.run ss).nodes ↔ (∃ s ∈ ss, s.merged? = some key) ∨ key ∈ g.nodes := by
  have happly (g : PropertyGraph) (s : Statement) :
      key ∈ (g.apply s).nodes ↔ s.merged? = some key ∨ key ∈ g.nodes := by
    cases s with
    | mergeNode label id properties =>
        simp [apply, mergeNode, Finmap.mem_insert, Statement.merged?, eq_comm (a := key)]
    | mergeContainment type outer inner =>
        rw [Statement.connects_mergeContainment type outer inner g]
        simp [Statement.merged?]
    | mergeExtends object base =>
        rw [Statement.connects_mergeExtends object base g]
        simp [Statement.merged?]
    | mergeIntegration source target kind description count =>
        rw [Statement.connects_mergeIntegration source target kind description count g]
        simp [Statement.merged?]
    | _ => simp [apply, Statement.merged?]
  induction ss generalizing g with
  | nil => simp [run]
  | cons s ss ih =>
      refine (ih (g := g.apply s)).trans ?_
      rw [happly, List.exists_mem_cons_iff, or_assoc, or_left_comm]

/-- No edge is lost on the way: each statement finds the nodes that it looks up by identifier in the
graph as it is then, whatever was there before. -/
theorem needed_mem_nodes_run (schema : Schema) {a : Analysis} (h : Closed a) (g : PropertyGraph)
    {front back : List Statement} {s : Statement} (hlog : recorded schema a = front ++ s :: back)
    {key : NodeKey} (hkey : key ∈ s.needed) : key ∈ (g.run front).nodes := by
  have hgrounded := grounded_recorded schema h
  rw [hlog] at hgrounded
  exact PropertyGraph.mem_nodes_run.2 (.inl ((hgrounded.known_or_merged hkey).resolve_left id))

/-- No node is merged behind an edge to a base. -/
theorem pairwise_recorded (schema : Schema) (a : Analysis) : (recorded schema a).Pairwise
    fun s t => ∀ object base, s = .mergeExtends object base → t.merged? = none := by
  rw [recorded, ← List.append_assoc, List.pairwise_append]
  refine ⟨List.pairwise_of_forall_mem_list ?_, List.pairwise_of_forall_mem_list ?_, ?_⟩
  · exact fun s hs t _ object base heq => absurd heq ((ne_of_mem_front hs).1 object base)
  · exact fun s _ t ht _ _ _ => merged?_of_mem_connections (mem_connections_of_mem_linked ht)
  · exact fun s _ t ht _ _ _ => merged?_of_mem_connections (mem_connections_of_mem_linked ht)

/-- Storing a batch of extensions that have names records no statement too early, and succeeds
exactly if the numbers of the objects can be written. The ends of the edges between elements and
between extensions, and the objects with edges to bases, are merged in front of the statements that
look them up, and no node is merged behind an edge to a base. -/
theorem merged_in_front (database : Database) (schema : Schema) (references : Bool)
    (failedPaths : List String) {batch : List Extension} (h : ∀ e ∈ batch, e.name ≠ "") :
    let store : Store := { database, schema := schema.statements.map .ok }
    let a := Analysis.ofExtensions references batch failedPaths
    ((store.save a).run.run {}).1 =
        (if WritableNumbers batch then .ok () else .error .numeralUnwritable) ∧
      store.statements a <+: complete schema a ∧
      (WritableNumbers batch → store.statements a = complete schema a) ∧
      ∀ front s back, store.statements a = front ++ s :: back →
        (∀ key ∈ s.needed, ∃ properties, .mergeNode key.1 key.2 properties ∈ front) ∧
        ∀ object base, s = .mergeExtends object base →
          ∀ label id properties, .mergeNode label id properties ∉ back := by
  intro store a
  have hstatements := Store.statements_eq_recorded (s := store) rfl rfl a
  rw [hstatements]
  refine ⟨Store.run_save_of_named (s := store) rfl rfl (a := a) h,
    recorded_prefix_complete schema a, fun hwritable => recorded_of_storable schema ⟨h, hwritable⟩,
    fun front s back hlog => ⟨fun key hkey => ?_, ?_⟩⟩
  · have hgrounded : Grounded (fun _ => False) (front ++ s :: back) := by
      rw [← hlog]
      exact grounded_recorded schema fun i hi => Integration.ends_mem_of_mem_resolve hi
    obtain ⟨t, ht, hmerged⟩ := (hgrounded.known_or_merged hkey).resolve_left id
    obtain ⟨properties, rfl⟩ := Statement.merged?_eq_some.1 hmerged
    exact ⟨properties, ht⟩
  · intro object base hextends label id properties hmem
    have hbehind := pairwise_recorded schema a
    rw [hlog, List.pairwise_append] at hbehind
    have hnone := List.rel_of_pairwise_cons hbehind.2.1 hmem object base hextends
    cases hnone

/-- Two coupled extensions, one with a table that extends another. Their edge is drawn behind both
of their nodes, and no node is merged behind the edge to the base of the table. -/
theorem merged_in_front_coupled :
    let reaction : Event := ⟨"onpost", some .subscriber, .codeunit, "Stock", []⟩
    let part : Object := { kind := .tableExtension, id := 1, name := "Item Part", base := "Item" }
    let stock : Extension :=
      { name := "Stock", path := "Stock.al", objects := [part], events := [reaction] }
    let batch := [stock, Integration.withEvent "Sales" "OnPost" .publisher]
    let store : Store := { database := .standard, schema := Schema.standard.statements.map .ok }
    let log := store.statements (.ofExtensions false batch [])
    let edge : Statement := .mergeIntegration (.string "Sales") (.string "Stock") .event
      (.string "OnPost event integration") 1
    let base : Statement := .mergeExtends (.string "Stock/tableextension/1") (.string "Item")
    (∀ e ∈ batch, e.name ≠ "") ∧
      (∃ front back, log = front ++ edge :: back ∧
        (∃ properties, .mergeNode "Extension" (.string "Sales") properties ∈ front) ∧
        ∃ properties, .mergeNode "Extension" (.string "Stock") properties ∈ front) ∧
      ∃ front back, log = front ++ base :: back ∧
        ∀ label id properties, .mergeNode label id properties ∉ back := by
  intro reaction part stock batch store log edge base
  have hname : ∀ e ∈ batch, e.name ≠ "" := by decide
  obtain ⟨-, -, hcomplete, hfront⟩ := merged_in_front .standard Schema.standard false [] hname
  have hlog := hcomplete (by decide)
  have hrecorded : ∀ s ∈ connections (.ofExtensions false batch []), s ∈ log := by
    intro s hs
    rw [show log = _ from hlog]
    exact List.mem_append_right _ (List.mem_append_right _ hs)
  have hedge : edge ∈ log := by
    refine hrecorded edge (mem_connections.2 (.inr ?_))
    exact ⟨(⟨"Sales", "Stock", .event, "OnPost event integration"⟩, 1), by decide +kernel, rfl⟩
  have hid : stock.address part = "Stock/tableextension/1" := by decide +kernel
  have hbase : base ∈ log := by
    refine hrecorded base (mem_connections.2 (.inl ⟨stock, .head _, mem_baseStatements.2 ?_⟩))
    exact ⟨part, .head _, "Item", rfl, by decide, by rw [hid]⟩
  obtain ⟨front, back, hsplit⟩ := List.append_of_mem hedge
  obtain ⟨front', back', hsplit'⟩ := List.append_of_mem hbase
  have hneeded := (hfront front edge back hsplit).1
  exact ⟨hname, ⟨front, back, hsplit, hneeded _ (.head _), hneeded _ (.tail _ (.head _))⟩,
    front', back', hsplit', (hfront front' base back' hsplit').2 _ _ rfl⟩

end ExtensionAtlas.Graph
