import ExtensionAtlas.Proofs.Graph.EventLinks
import ExtensionAtlas.Proofs.Model.Occurrences

/-! Procedures that share a name. The node of a procedure is known by its object and its name, so
the declarations of one name in one object share a node, and a batch has as many such nodes as there
are names in its objects. A shared node shows the last declaration, except that a return type stays
until another declaration has one. -/

namespace ExtensionAtlas

/-- The procedures of some name in an object, in the order in which they are declared. -/
def Object.declarations (o : Object) (name : String) : List Procedure :=
  o.procedures.filter (·.name = name)

theorem Object.mem_declarations {o : Object} {name : String} {p : Procedure} :
    p ∈ o.declarations name ↔ p ∈ o.procedures ∧ p.name = name := by
  rw [declarations, List.mem_filter, decide_eq_true_eq]

namespace Graph

/-- The nodes of a label. -/
def PropertyGraph.nodesOf (g : PropertyGraph) (label : NodeLabel) : Finset NodeKey :=
  g.nodes.keys.filter (·.1 = label.text)

/-- The node of the procedures of some name in an object. -/
def procedureKey (e : Extension) (o : Object) (name : String) : NodeKey :=
  (NodeLabel.procedure.text, .string (memberId (e.address o) name))

/-- What an element sets of a property that is given once; null is not set. -/
theorem lastValue?_presentProperties {properties : Properties}
    (hnodup : (properties.map Prod.fst).Nodup) {property : String} {value : Json}
    (hmem : (property, value) ∈ properties) :
    lastValue? (presentProperties properties) property =
      if value = .null then none else some value := by
  have hunique (other : Json) (hother : (property, other) ∈ presentProperties properties) :
      other = value := by
    have heq := List.inj_on_of_nodup_map hnodup (mem_presentProperties.1 hother).1 hmem rfl
    exact congrArg Prod.snd heq
  split
  · next hnull =>
      refine lastValue?_eq_none_iff.2 fun entry hentry heq => ?_
      subst heq
      exact (mem_presentProperties.1 hentry).2 ((hunique _ hentry).trans hnull)
  · next hnull => exact lastValue?_eq_some (mem_presentProperties.2 ⟨hmem, hnull⟩) hunique

theorem lookup_singleton_of_ne {property : String} (h : property ≠ "id") (id : Json) :
    Finmap.lookup property (.singleton "id" id : PropertyMap) = none :=
  Finmap.lookup_eq_none.2 (mt (Finmap.mem_singleton _ _ _).1 h)

section Declarations

variable {e : Extension} {o : Object} {p : Procedure} {property : String} {value : Json}

theorem lastValue?_procedure (hmem : (property, value) ∈ procedureProperties o (e.address o) p) :
    lastValue? (Element.procedure e o p).properties property =
      if value = .null then none else some value := by
  refine lastValue?_presentProperties ?_ hmem
  change ["id", "name", "objectName", "objectKind", "returnType", "isLocal", "isEvent", "eventRole",
    "parameters"].Nodup
  decide

/-- A procedure without a role is the only one that lacks anything but a return type. -/
theorem eventRole_of_null_mem (hmem : (property, .null) ∈ procedureProperties o (e.address o) p)
    (hreturn : property ≠ "returnType") : property = "eventRole" ∧ p.eventRole = none := by
  cases hrole : p.eventRole with
  | none => simpa [procedureProperties, Json.ofTexts, Json.ofText?, hreturn, hrole] using hmem
  | some role => simp [procedureProperties, Json.ofTexts, Json.ofText?, hreturn, hrole] at hmem

end Declarations

/-- A list of which only one item contributes anything. -/
theorem flatMap_eq_of_nodup_map {α β γ : Type} {xs : List α} {place : α → β} {block : α → List γ}
    (hnodup : (xs.map place).Nodup) {x : α} (hx : x ∈ xs)
    (h : ∀ y ∈ xs, place y ≠ place x → block y = []) : xs.flatMap block = block x := by
  obtain ⟨front, back, rfl⟩ := List.append_of_mem hx
  rw [List.map_append, List.map_cons, List.nodup_middle, List.nodup_cons] at hnodup
  have hnone (ys : List α) (hsub : ys ⊆ front ++ x :: back)
      (hplace : ∀ y ∈ ys, place y ∈ front.map place ++ back.map place) :
      ys.flatMap block = [] :=
    List.flatMap_eq_nil_iff.2 fun y hy =>
      h y (hsub hy) fun heq => hnodup.1 (heq ▸ hplace y hy)
  have hfront := hnone front (List.subset_append_left _ _) fun y hy =>
    List.mem_append_left _ (List.mem_map_of_mem hy)
  have hback := hnone back
    (List.subset_append_of_subset_right _ (List.subset_cons_self _ _)) fun y hy =>
    List.mem_append_right _ (List.mem_map_of_mem hy)
  rw [List.flatMap_append, List.flatMap_cons, hfront, hback, List.nil_append, List.append_nil]

/-- The elements at the node of a procedure are procedures. -/
theorem filter_elements_of_procedure (batch : List Extension) {key : NodeKey}
    (hkey : key.1 = NodeLabel.procedure.text) :
    (elements batch).filter (·.key = key) = (placedObjects batch).flatMap fun (e, o) =>
      (o.procedures.map (.procedure e o)).filter (·.key = key) := by
  have hother (x : Element) (hx : x.label ≠ .procedure) : decide (x.key = key) = false := by
    rw [decide_eq_false_iff_not]
    rintro rfl
    exact hx (NodeLabel.text_injective hkey)
  rw [elements, List.filter_flatMap, placedObjects, List.flatMap_assoc]
  refine List.flatMap_congr fun e _ => ?_
  rw [elementsOf, List.filter_cons, hother _ (by simp [Element.label]), if_neg Bool.false_ne_true,
    List.filter_flatMap, List.flatMap_map]
  refine List.flatMap_congr fun o _ => ?_
  have hfields : (o.fields.map (Element.field e o)).filter (·.key = key) = [] := by
    refine List.filter_eq_nil_iff.2 fun x hx => Bool.not_eq_true _ ▸ hother x ?_
    obtain ⟨f, -, rfl⟩ := List.mem_map.1 hx
    simp [Element.label]
  rw [objectElements, List.filter_cons, hother _ (by simp [Element.label]),
    if_neg Bool.false_ne_true, List.filter_append, hfields, List.nil_append]

/-- Every name in every object has a node. -/
theorem nodesOf_procedure_storing {a : Analysis} (h : Storable a.extensions) :
    (PropertyGraph.empty.storing a).nodesOf .procedure =
      ((placedObjects a.extensions).flatMap fun (e, o) =>
        (firstOccurrences (o.procedures.map (·.name))).map (procedureKey e o)).toFinset := by
  ext key
  simp only [PropertyGraph.nodesOf, Finset.mem_filter, Finmap.mem_keys,
    PropertyGraph.mem_nodes_storing_empty, kept_of_storable h, List.mem_toFinset,
    List.mem_flatMap, Prod.exists, List.mem_map, mem_firstOccurrences, mem_placedObjects]
  constructor
  · rintro ⟨⟨x, hx, rfl⟩, hlabel⟩
    cases x with
    | procedure e o p =>
        obtain ⟨he, ho, hp⟩ := mem_elements_procedure.1 hx
        exact ⟨e, o, ⟨he, ho⟩, _, ⟨p, hp, rfl⟩, rfl⟩
    | extension _ | object _ _ | field _ _ _ =>
        simp [Element.key, Element.label, NodeLabel.text] at hlabel
  · rintro ⟨e, o, ⟨he, ho⟩, _, ⟨p, hp, rfl⟩, rfl⟩
    exact ⟨⟨_, mem_elements_procedure.2 ⟨he, ho, hp⟩, rfl⟩, rfl⟩

namespace ToldApart

variable {batch : List Extension} {e e' : Extension} {o o' : Object} {p : Procedure}

/-- The node of a procedure is shared by the declarations of its name in its object. -/
theorem filter_elements_eq (h : ToldApart batch) (he : e ∈ batch) (ho : o ∈ e.objects)
    (hp : p ∈ o.procedures) :
    (elements batch).filter (·.key = (Element.procedure e o p).key) =
      (o.declarations p.name).map (.procedure e o) := by
  have hshared {x : Element} (hx : x ∈ elements batch)
      (hkey : x.key = (Element.procedure e o p).key) :=
    h.eq_of_key_eq (mem_elements_procedure.2 ⟨he, ho, hp⟩) hx hkey
  rw [filter_elements_of_procedure batch rfl,
    flatMap_eq_of_nodup_map h.nodup_address (mem_placedObjects.2 ⟨he, ho⟩)]
  · change (o.procedures.map (Element.procedure e o)).filter _ = _
    rw [List.filter_map, Object.declarations]
    refine congrArg _ (List.filter_congr fun q hq => decide_eq_decide.2 ⟨fun hkey => ?_, ?_⟩)
    · obtain ⟨_, -, heq, hname⟩ := hshared (mem_elements_procedure.2 ⟨he, ho, hq⟩) hkey
      cases heq
      exact hname
    · intro hname
      simp only [Element.key, Element.label, Element.id, hname]
  · rintro ⟨e', o'⟩ hplaced hid
    obtain ⟨he', ho'⟩ := mem_placedObjects.1 hplaced
    refine List.filter_eq_nil_iff.2 fun x hx => ?_
    obtain ⟨q, hq, rfl⟩ := List.mem_map.1 hx
    rw [decide_eq_true_eq]
    intro hkey
    obtain ⟨_, -, heq, -⟩ := hshared (mem_elements_procedure.2 ⟨he', ho', hq⟩) hkey
    cases heq
    exact hid rfl

/-- Every name in every object has a node of its own. -/
theorem nodup_flatMap_key (h : ToldApart batch) : ((placedObjects batch).flatMap fun (e, o) =>
    (firstOccurrences (o.procedures.map (·.name))).map (procedureKey e o)).Nodup := by
  have hname {e : Extension} {o : Object} (hplaced : (e, o) ∈ placedObjects batch) {name : String}
      (hmem : name ∈ firstOccurrences (o.procedures.map (·.name))) : Text.Trimmed name.toList := by
    obtain ⟨p, hp, rfl⟩ := List.mem_map.1 (mem_firstOccurrences.1 hmem)
    obtain ⟨he, ho⟩ := mem_placedObjects.1 hplaced
    exact (h.isRead e he).trimmed_name ho hp
  have hinj {e e' : Extension} {o o' : Object} (hplaced : (e, o) ∈ placedObjects batch)
      (hplaced' : (e', o') ∈ placedObjects batch) {name name' : String}
      (hmem : name ∈ firstOccurrences (o.procedures.map (·.name)))
      (hmem' : name' ∈ firstOccurrences (o'.procedures.map (·.name)))
      (hkey : procedureKey e o name = procedureKey e' o' name') :
      e.address o = e'.address o' ∧ name = name' := by
    have he := (mem_placedObjects.1 hplaced).1
    have he' := (mem_placedObjects.1 hplaced').1
    refine eq_of_memberId_eq (h.name_ne_empty e he) (h.name_ne_empty e' he') (h.slash_notMem e he)
      (h.slash_notMem e' he') (hname hplaced hmem) (hname hplaced' hmem') ?_
    simpa [procedureKey] using hkey
  refine List.nodup_flatMap.2 ⟨?_, ?_⟩
  · rintro ⟨e, o⟩ hplaced
    refine (nodup_firstOccurrences _).map_on fun name hmem name' hmem' hkey => ?_
    exact (hinj hplaced hplaced hmem hmem' hkey).2
  · have hpairs := List.pairwise_map.1 h.nodup_address
    refine hpairs.imp_of_mem ?_
    rintro ⟨e, o⟩ ⟨e', o'⟩ hplaced hplaced' hne key hkey hkey'
    obtain ⟨name, hmem, rfl⟩ := List.mem_map.1 hkey
    obtain ⟨name', hmem', heq⟩ := List.mem_map.1 hkey'
    exact hne (hinj hplaced hplaced' hmem hmem' heq.symm).1

variable {a : Analysis}

/-- There are as many nodes of procedures as there are names in the objects. -/
theorem card_nodesOf_procedure (h : ToldApart a.extensions) :
    ((PropertyGraph.empty.storing a).nodesOf .procedure).card =
      ((a.extensions.flatMap (·.objects)).flatMap fun o =>
        firstOccurrences (o.procedures.map (·.name))).length := by
  have hobjects : a.extensions.flatMap (·.objects) = (placedObjects a.extensions).map Prod.snd := by
    simp [placedObjects, List.map_flatMap, Function.comp_def]
  rw [nodesOf_procedure_storing h.storable, List.toFinset_card_of_nodup h.nodup_flatMap_key,
    hobjects, List.flatMap_map, List.length_flatMap, List.length_flatMap]
  refine congrArg List.sum (List.map_congr_left ?_)
  rintro ⟨e, o⟩ -
  exact List.length_map _

/-- A node of procedures shows of each property the last value that a declaration gives. -/
theorem shown_declarations (h : ToldApart a.extensions) (he : e ∈ a.extensions) (ho : o ∈ e.objects)
    (hp : p ∈ o.procedures) (property : String) :
    (PropertyGraph.empty.storing a).shown (procedureKey e o p.name) property =
      ((((o.declarations p.name).filterMap fun q =>
        lastValue? (Element.procedure e o q).properties property).getLast?).or
          (Finmap.lookup property (.singleton "id" (procedureKey e o p.name).2 : PropertyMap))).getD
            .null := by
  have hkept : .procedure e o p ∈ kept a.extensions := by
    rw [kept_of_storable h.storable]
    exact mem_elements_procedure.2 ⟨he, ho, hp⟩
  have hlookup := PropertyGraph.lookup_nodes_storing_key .empty a hkept
  rw [kept_of_storable h.storable, h.filter_elements_eq he ho hp, List.flatMap_map] at hlookup
  change (((PropertyGraph.empty.storing a).nodes.lookup (Element.procedure e o p).key).bind
    fun properties => properties.lookup property).getD .null = _
  rw [hlookup, Option.bind_some, lookup_overlay, lastValue?_flatMap]
  rfl

variable {name : String}

/-- The last declaration of a name shows all that it says, unless it has no return type. -/
theorem shown_of_last (h : ToldApart a.extensions) (he : e ∈ a.extensions) (ho : o ∈ e.objects)
    (hlast : (o.declarations name).getLast? = some p) {property : String} {value : Json}
    (hmem : (property, value) ∈ procedureProperties o (e.address o) p)
    (hreturn : property ≠ "returnType") :
    (PropertyGraph.empty.storing a).shown (procedureKey e o name) property = value := by
  obtain ⟨hp, hname⟩ := Object.mem_declarations.1 (List.mem_of_getLast? hlast)
  subst hname
  rw [h.shown_declarations he ho hp]
  by_cases hnull : value = .null
  · subst hnull
    obtain ⟨rfl, hrole⟩ := eventRole_of_null_mem hmem hreturn
    -- declarations of one name share their role, so an earlier one sets none either
    have hnone : ((o.declarations p.name).filterMap fun q =>
        lastValue? (Element.procedure e o q).properties "eventRole") = [] := by
      refine List.filterMap_eq_nil_iff.2 fun q hq => ?_
      obtain ⟨hq, hname⟩ := Object.mem_declarations.1 hq
      have hshared := (h.isRead e he).eventRole_eq ho hq hp hname
      have hmem' : ("eventRole", Json.null) ∈ procedureProperties o (e.address o) q := by
        simp [procedureProperties, hshared, hrole, Json.ofText?]
      rw [lastValue?_procedure hmem', if_pos rfl]
    rw [hnone, lookup_singleton_of_ne (by decide)]
    rfl
  · obtain ⟨front, hfront⟩ := List.getLast?_eq_some_iff.1 hlast
    have hvalue := lastValue?_procedure hmem
    rw [if_neg hnull] at hvalue
    rw [hfront, List.filterMap_append, List.filterMap_cons, hvalue, List.filterMap_nil,
      List.getLast?_concat]
    rfl

/-- A node of procedures shows the last return type that a declaration has. -/
theorem shown_returnType (h : ToldApart a.extensions) (he : e ∈ a.extensions) (ho : o ∈ e.objects)
    (hdeclared : p ∈ o.declarations name) :
    (PropertyGraph.empty.storing a).shown (procedureKey e o name) "returnType" =
      .ofText? ((o.declarations name).filterMap (·.returnType)).getLast? := by
  obtain ⟨hp, rfl⟩ := Object.mem_declarations.1 hdeclared
  have hset (q : Procedure) : lastValue? (Element.procedure e o q).properties "returnType" =
      q.returnType.map .string := by
    have hmem : ("returnType", Json.ofText? q.returnType) ∈
        procedureProperties o (e.address o) q := by
      simp [procedureProperties]
    rw [lastValue?_procedure hmem]
    cases q.returnType <;> rfl
  rw [h.shown_declarations he ho hp, lookup_singleton_of_ne (by decide), Option.or_none]
  simp only [hset]
  rw [← List.map_filterMap, List.getLast?_map]
  cases ((o.declarations p.name).filterMap (·.returnType)).getLast? <;> rfl

end ToldApart

/-- The procedures of extensions that were read from source texts and are stored on the empty graph
have one node for each name in each object. So each has a node of its own exactly if no object
declares a name twice. The node of a name shows the last declaration of it, but for the return type,
which is that of the last declaration that has one. -/
theorem card_nodesOf_graphAfter (database : Database) (schema : Schema) {a : Analysis}
    (hread : ∀ e ∈ a.extensions, ∃ source path, Extension.ofSource source path = .ok e)
    (hname : ∀ e ∈ a.extensions, e.name ≠ "")
    (hids : (a.extensions.flatMap fun e => e.objects.map e.objectId).Nodup) :
    let store : Store := { database, schema := schema.statements.map .ok }
    let g := store.graphAfter a .empty
    let objects := a.extensions.flatMap (·.objects)
    ((store.save a).run.run {}).1 = .ok () ∧
      (g.nodesOf .procedure).card =
        (objects.flatMap fun o => firstOccurrences (o.procedures.map (·.name))).length ∧
      ((g.nodesOf .procedure).card = (objects.flatMap (·.procedures)).length ↔
        ∀ o ∈ objects, (o.procedures.map (·.name)).Nodup) ∧
      ∀ e ∈ a.extensions, ∀ o ∈ e.objects, ∀ name p, (o.declarations name).getLast? = some p →
        (∀ property value, (property, value) ∈ procedureProperties o (e.address o) p →
          property ≠ "returnType" → g.shown (procedureKey e o name) property = value) ∧
        g.shown (procedureKey e o name) "returnType" =
          .ofText? ((o.declarations name).filterMap (·.returnType)).getLast? := by
  intro store g objects
  have hslash : ∀ e ∈ a.extensions, '/' ∉ e.name.toList := fun e he =>
    have ⟨_, _, h⟩ := hread e he
    Extension.slash_notMem_name h
  have hapart : ToldApart a.extensions := .of_ofSource hread hname hslash hids
  have hstored : g = PropertyGraph.empty.storing a :=
    Store.graphAfter_eq_storing (s := store) rfl rfl a _
  have hcard : (g.nodesOf .procedure).card =
      (objects.flatMap fun o => firstOccurrences (o.procedures.map (·.name))).length := by
    rw [hstored, hapart.card_nodesOf_procedure]
  refine ⟨(Store.run_save_eq_ok_iff rfl rfl a).2 hapart.storable, hcard, ?_,
    fun e he o ho name p hlast => ⟨fun property value hmem hreturn => ?_, ?_⟩⟩
  · have hiff := length_flatMap_firstOccurrences_eq_iff
      (objects.map fun o => o.procedures.map (·.name))
    have hall : (objects.map fun o => o.procedures.map (·.name)).flatten.length =
        (objects.flatMap (·.procedures)).length := by
      rw [← List.flatMap_def, ← List.map_flatMap, List.length_map]
    rw [List.flatMap_map, hall, List.forall_mem_map] at hiff
    rw [hcard, hiff]
  · rw [hstored]
    exact hapart.shown_of_last he ho hlast hmem hreturn
  · rw [hstored]
    exact hapart.shown_returnType he ho (List.mem_of_getLast? hlast)

/-- A file with an object that declares one of its names twice. -/
def overloadingFile : Extension where
  name := "Posting"
  path := "Posting.al"
  objects := [⟨.codeunit, 80, "Post", none, [], [
    { name := "Run", returnType := some "Boolean" },
    { name := "Run", parameters := [{ name := "Amount", type := "Decimal" }], isLocal := true },
    { name := "Check" }]⟩]
  source := "codeunit 80 Post \x7b procedure Run(): Boolean; " ++
    "local procedure Run(Amount: Decimal); procedure Check(); \x7d"

theorem ofSource_overloadingFile :
    Extension.ofSource overloadingFile.source overloadingFile.path = .ok overloadingFile := by
  decide +kernel

/-- The node of the name that is declared twice shows the parameter of the second declaration and
the return type of the first. -/
theorem card_nodesOf_graphAfter_overloading :
    let a : Analysis := { extensions := [overloadingFile] }
    let store : Store := { database := .standard, schema := Schema.standard.statements.map .ok }
    let g := store.graphAfter a .empty
    let key : NodeKey := ("Procedure", .string "Posting/codeunit/80/Run")
    (∀ e ∈ a.extensions, ∃ source path, Extension.ofSource source path = .ok e) ∧
      (∀ e ∈ a.extensions, e.name ≠ "") ∧
      (a.extensions.flatMap fun e => e.objects.map e.objectId).Nodup ∧
      (g.nodesOf .procedure).card = 2 ∧
      g.shown key "parameters" = .array [.string "Amount: Decimal"] ∧
      g.shown key "isLocal" = .bool true ∧ g.shown key "returnType" = .string "Boolean" := by
  intro a store g key
  have hread : ∀ e ∈ a.extensions, ∃ source path, Extension.ofSource source path = .ok e := by
    intro e he
    cases List.mem_singleton.1 he
    exact ⟨_, _, ofSource_overloadingFile⟩
  have hname : ∀ e ∈ a.extensions, e.name ≠ "" := by decide
  have hids : (a.extensions.flatMap fun e => e.objects.map e.objectId).Nodup := by decide +kernel
  obtain ⟨-, hcard, -, hshown⟩ :=
    card_nodesOf_graphAfter .standard Schema.standard hread hname hids
  have hkey (o : Object) (ho : o ∈ overloadingFile.objects) :
      procedureKey overloadingFile o "Run" = key := by
    revert o
    decide +kernel
  obtain ⟨hlast, hreturn⟩ := hshown _ (.head _) _ (.head _) "Run" _ rfl
  rw [hkey _ (.head _)] at hlast hreturn
  refine ⟨hread, hname, hids, hcard.trans (by decide +kernel), hlast _ _ ?_ (by decide),
    hlast _ _ ?_ (by decide), hreturn.trans (by decide +kernel)⟩ <;> decide +kernel

/-- Such a file has a procedure without a node of its own. -/
theorem card_nodesOf_graphAfter_ne :
    let a : Analysis := { extensions := [overloadingFile] }
    let store : Store := { database := .standard, schema := Schema.standard.statements.map .ok }
    Extension.ofSource overloadingFile.source overloadingFile.path = .ok overloadingFile ∧
      (∀ e ∈ a.extensions, e.name ≠ "") ∧
      (a.extensions.flatMap fun e => e.objects.map e.objectId).Nodup ∧
      ((store.graphAfter a .empty).nodesOf .procedure).card = 2 ∧
      ((a.extensions.flatMap (·.objects)).flatMap (·.procedures)).length = 3 := by
  refine ⟨ofSource_overloadingFile, ?_⟩
  decide +kernel

end Graph

end ExtensionAtlas
