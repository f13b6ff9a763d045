import ExtensionAtlas.Proofs.Graph.Precedence
import ExtensionAtlas.Proofs.Source.OptionalTexts

/-! The formulas of calculated fields in the graph. The node of a field shows the method and the
source of a formula. Which formula that is, is found out by name: of the calculated fields of the
file that have the name of the field, in objects that have the name of its object, the last one
counts. So a node shows the formula of its own field if there is no other calculated field of that
name, and may show that of another one otherwise. -/

namespace ExtensionAtlas.Graph

/-- The calculated fields of an extension, each with its object and its formula. -/
def calculated (e : Extension) : List (Object × Field × String) :=
  e.objects.flatMap fun o => o.flowfields.map (o, ·)

/-- The calculated fields of an extension that share the names of a field and of its object. -/
def namesakes (e : Extension) (o : Object) (f : Field) : List (Object × Field × String) :=
  (calculated e).filter fun x => x.1.name == o.name && x.2.1.name == f.name

/-- What is derived from the formula of a calculated field. -/
def derivation (x : Object × Field × String) : DerivedField :=
  let reading := Formula.read x.2.2.toList
  ⟨x.2.1.name, x.1.name, reading.method, reading.sourceTable, reading.sourceField⟩

/-- Properties that show what a formula says, or nothing if there is no formula. -/
structure Shows (properties : Properties) (reading : Option Formula.Reading) : Prop where
  method : properties.lookup "calcMethod" = reading.map fun r => .string r.method.label
  table : properties.lookup "sourceTable" = (reading.bind (·.sourceTable)).map .string
  field : properties.lookup "sourceField" = (reading.bind (·.sourceField)).map .string

theorem mem_flowfields {o : Object} {f : Field} {formula : String} :
    (f, formula) ∈ o.flowfields ↔
      f ∈ o.fields ∧ f.calcFormula = some formula ∧ f.isFlowfield = true ∧ formula ≠ "" := by
  rw [Object.flowfields, List.mem_filterMap]
  constructor
  · rintro ⟨g, hg, h⟩
    split at h
    · next own hown =>
        split at h
        · next hflow =>
            obtain ⟨rfl, rfl⟩ := Prod.mk.inj (Option.some.inj h)
            exact ⟨hg, hown, by simpa using hflow⟩
        · cases h
    · cases h
  · rintro ⟨hf, hown, hflow, hne⟩
    exact ⟨f, hf, by simp [hown, hflow, hne]⟩

theorem shows_derivedProperties (d : Option DerivedField) :
    Shows (presentProperties (derivedProperties d))
      (d.map fun d => ⟨d.method, d.sourceTable, d.sourceField⟩) := by
  cases d with
  | none => exact ⟨rfl, rfl, rfl⟩
  | some d =>
      refine ⟨?_, ?_, ?_⟩
      · rfl
      · have hrest : (presentProperties [("sourceField", .ofText? d.sourceField)]).lookup
            "sourceTable" = none := lookup_presentProperties_of_ne (by decide) _ _
        rw [derivedProperties, lookup_presentProperties_of_ne (by decide),
          lookup_presentProperties_ofText? _ hrest]
        rfl
      · rw [derivedProperties, lookup_presentProperties_of_ne (by decide),
          lookup_presentProperties_of_ne (by decide), lookup_presentProperties_ofText? _ rfl]
        rfl

section

variable {e : Extension} (h : e.flowfields = e.objects.flatMap Object.derivedFields)

include h

/-- What counts for a field is the last calculated field of its name. -/
theorem derivedField?_eq (o : Object) (f : Field) :
    derivedField? e o f = (namesakes e o f).getLast?.map derivation := by
  have hflowfields : e.flowfields = (calculated e).map derivation := by
    rw [h, calculated, List.map_flatMap]
    exact List.flatMap_congr fun o _ => by rw [Object.derivedFields, List.map_map]; rfl
  rw [derivedField?, hflowfields, List.filter_map, List.getLast?_map]
  rfl

/-- The node of a field shows the formula of the last calculated field of its name. -/
theorem shows_properties (o : Object) (f : Field) : Shows (Element.field e o f).properties
    ((namesakes e o f).getLast?.map fun x => Formula.read x.2.2.toList) := by
  have hshows := shows_derivedProperties (derivedField? e o f)
  rw [derivedField?_eq h, Option.map_map] at hshows
  have hfront {property : String}
      (hproperty : property ∈ ["calcMethod", "sourceTable", "sourceField"]) :
      (Element.field e o f).properties.lookup property =
        (presentProperties (derivedProperties (derivedField? e o f))).lookup property := by
    simp only [List.mem_cons, List.not_mem_nil, or_false] at hproperty
    rcases hproperty with rfl | rfl | rfl <;>
      simp (disch := decide) only [Element.properties, Element.entries, fieldProperties,
        List.cons_append, List.nil_append, lookup_presentProperties_of_ne]
  rw [derivedField?_eq h] at hfront
  exact ⟨(hfront (by simp)).trans hshows.method, (hfront (by simp)).trans hshows.table,
    (hfront (by simp)).trans hshows.field⟩

end

theorem lookup_calcFormula (e : Extension) (o : Object) (f : Field) :
    (Element.field e o f).properties.lookup "calcFormula" = f.calcFormula.map .string := by
  have hrest : (presentProperties (derivedProperties (derivedField? e o f))).lookup
      "calcFormula" = none := by
    cases derivedField? e o f with
    | none => rfl
    | some d =>
        simp (disch := decide) only [derivedProperties, lookup_presentProperties_of_ne]
        rfl
  rw [← lookup_presentProperties_ofText? f.calcFormula hrest]
  simp (disch := decide) only [Element.properties, Element.entries, fieldProperties,
    List.cons_append, List.nil_append, lookup_presentProperties_of_ne]

/-- The node and the properties of a statement that merges the node of a field. -/
def Statement.fieldNode? : Statement → Option (Json × Properties)
  | mergeNode label id properties =>
    if label = NodeLabel.field.text then some (id, properties) else none
  | _ => none

theorem Statement.fieldNode?_eq_none {s : Statement} (h : s.merged? = none) :
    s.fieldNode? = none := by
  cases s with
  | mergeNode label id properties => cases h
  | _ => rfl

/-- The fields of a batch, each with its extension and its object, in the order in which they are
stored. -/
def placedFields (batch : List Extension) : List (Extension × Object × Field) :=
  batch.flatMap fun e => e.objects.flatMap fun o => o.fields.map fun f => (e, o, f)

theorem filterMap_fieldNode?_elements (batch : List Extension) :
    ((elements batch).flatMap Element.statements).filterMap Statement.fieldNode? =
      (placedFields batch).map fun x => (.string (memberId (x.1.address x.2.1) x.2.2.name),
        (Element.field x.1 x.2.1 x.2.2).properties) := by
  have hfields (e : Extension) (o : Object) :
      ((o.fields.map (.field e o)).flatMap Element.statements).filterMap Statement.fieldNode? =
        o.fields.map fun f =>
          (.string (memberId (e.address o) f.name), (Element.field e o f).properties) := by
    rw [List.flatMap_map, List.filterMap_flatMap, List.map_eq_flatMap]
    exact List.flatMap_congr fun f _ => rfl
  have hprocedures (e : Extension) (o : Object) :
      ((o.procedures.map (.procedure e o)).flatMap Element.statements).filterMap
        Statement.fieldNode? = [] := by
    rw [List.flatMap_map, List.filterMap_flatMap, List.flatMap_eq_nil_iff]
    exact fun p _ => rfl
  rw [elements, List.flatMap_assoc, List.filterMap_flatMap, placedFields, List.map_flatMap]
  refine List.flatMap_congr fun e _ => ?_
  rw [elementsOf, List.flatMap_cons, List.filterMap_append, List.flatMap_assoc,
    List.filterMap_flatMap, List.map_flatMap]
  refine (List.nil_append _).trans (List.flatMap_congr fun o _ => ?_)
  rw [objectElements, List.flatMap_cons, List.filterMap_append, List.flatMap_append,
    List.filterMap_append, hfields, hprocedures, List.append_nil, List.map_map]
  rfl

/-- Among what is recorded for a batch that can be stored, the nodes of fields are those of its
fields. -/
theorem filterMap_fieldNode?_complete (schema : Schema) (a : Analysis) :
    (complete schema a).filterMap Statement.fieldNode? =
      (placedFields a.extensions).map fun x => (.string (memberId (x.1.address x.2.1) x.2.2.name),
        (Element.field x.1 x.2.1 x.2.2).properties) := by
  have hschema : schema.statements.filterMap Statement.fieldNode? = [] := by
    refine List.filterMap_eq_nil_iff.2 fun s hs => Statement.fieldNode?_eq_none ?_
    obtain ⟨label, property, rfl | rfl⟩ := mem_schemaStatements hs <;> rfl
  have hconnections : (connections a).filterMap Statement.fieldNode? = [] :=
    List.filterMap_eq_nil_iff.2 fun s hs =>
      Statement.fieldNode?_eq_none (merged?_of_mem_connections hs)
  rw [complete, List.filterMap_append, List.filterMap_append, hschema, hconnections,
    List.nil_append, List.append_nil, filterMap_fieldNode?_elements]

/-- If no other field of the same name has another formula, the last one of them has that of the
field itself. -/
theorem getLast?_namesakes {e : Extension} {o : Object} (ho : o ∈ e.objects) {f : Field}
    (hf : f ∈ o.fields) (hread : ∀ formula ∈ f.calcFormula, f.isFlowfield = true ∧ formula ≠ "")
    (halone : ∀ o' ∈ e.objects, ∀ f' ∈ o'.fields, o'.name = o.name → f'.name = f.name →
      f'.calcFormula = f.calcFormula) :
    (namesakes e o f).getLast?.map (·.2.2) = f.calcFormula := by
  have hnamesake : ∀ x ∈ namesakes e o f, f.calcFormula = some x.2.2 := by
    rintro ⟨o', f', formula⟩ hx
    obtain ⟨hx, hname⟩ := List.mem_filter.1 hx
    obtain ⟨_, ho', hx⟩ := List.mem_flatMap.1 hx
    obtain ⟨_, hx, heq⟩ := List.mem_map.1 hx
    cases heq
    rw [Bool.and_eq_true, beq_iff_eq, beq_iff_eq] at hname
    obtain ⟨hf', hformula, -, -⟩ := mem_flowfields.1 hx
    rw [← halone o' ho' f' hf' hname.1 hname.2, hformula]
  cases hlast : (namesakes e o f).getLast? with
  | some x => exact (hnamesake x (List.mem_of_getLast? hlast)).symm
  | none =>
      cases hformula : f.calcFormula with
      | none => rfl
      | some formula =>
          have hown : (o, f, formula) ∈ namesakes e o f := by
            obtain ⟨hflow, hne⟩ := hread formula hformula
            refine List.mem_filter.2 ⟨List.mem_flatMap.2 ⟨o, ho, ?_⟩, by simp⟩
            exact List.mem_map_of_mem (mem_flowfields.2 ⟨hf, hformula, hflow, hne⟩)
          rw [List.getLast?_eq_none_iff.1 hlast] at hown
          exact absurd hown List.not_mem_nil

/-- How the node of a field is merged. Only a flowfield has a formula. The node shows the formula of
the last calculated field of the same name, and so that of its own field if no other field of the
name has another formula. -/
structure MergedField (e : Extension) (o : Object) (f : Field) (merged : Json × Properties) :
    Prop where
  id : merged.1 = .string (memberId (e.address o) f.name)
  formula : merged.2.lookup "calcFormula" = f.calcFormula.map .string
  flowfield : ∀ formula ∈ f.calcFormula, f.isFlowfield = true ∧ formula ≠ ""
  last : Shows merged.2 ((namesakes e o f).getLast?.map fun x => Formula.read x.2.2.toList)
  own : (∀ o' ∈ e.objects, ∀ f' ∈ o'.fields, o'.name = o.name → f'.name = f.name →
    f'.calcFormula = f.calcFormula) → Shows merged.2 (f.calcFormula.map (Formula.read ·.toList))

/-- Storing a batch of extensions that were read from source texts and have names merges the node of
each field once for the field, in order, with the formula that is found for its name. -/
theorem merged_fields (database : Database) (schema : Schema) {a : Analysis}
    (h : ∀ e ∈ a.extensions, e.name ≠ "" ∧ ∃ source path, Extension.ofSource source path = .ok e) :
    let store : Store := { database, schema := schema.statements.map .ok }
    ((store.save a).run.run {}).1 = .ok () ∧
      List.Forall₂ (fun x merged => MergedField x.1 x.2.1 x.2.2 merged) (placedFields a.extensions)
        ((store.statements a).filterMap Statement.fieldNode?) := by
  intro store
  have hstorable : Storable a.extensions := .of_ofSource h
  refine ⟨(Store.run_save_eq_ok_iff rfl rfl a).2 hstorable, ?_⟩
  rw [Store.statements_eq_recorded rfl rfl, recorded_of_storable schema hstorable,
    filterMap_fieldNode?_complete, List.forall₂_map_right_iff, List.forall₂_same]
  rintro ⟨e, o, f⟩ hplaced
  obtain ⟨he, ho, hf⟩ : e ∈ a.extensions ∧ o ∈ e.objects ∧ f ∈ o.fields := by
    simpa [placedFields, and_comm] using hplaced
  obtain ⟨-, source, path, hsource⟩ := h e he
  have hflowfield : ∀ formula ∈ f.calcFormula, f.isFlowfield = true ∧ formula ≠ "" := by
    intro formula hformula
    obtain ⟨hflow, hpresent⟩ :=
      Source.calcFormula_of_ofSource hsource ho hf formula hformula
    exact ⟨hflow, hpresent.ne_empty⟩
  have hflowfields : e.flowfields = e.objects.flatMap Object.derivedFields := by
    obtain ⟨objects, -, rfl⟩ := Extension.ofSource_eq_ok_iff.1 hsource
    rfl
  have hshows := shows_properties hflowfields o f
  refine ⟨rfl, ?_, hflowfield, hshows, fun halone => ?_⟩
  · exact lookup_calcFormula e o f
  · have hlast := getLast?_namesakes ho hf hflowfield halone
    rw [← hlast, Option.map_map]
    exact hshows

/-- A file with a table and a table extension of one name, and a field of one name in each. -/
def loyaltyFile : Extension where
  name := "Loyalty"
  path := "Loyalty.al"
  objects := [
    { kind := .table
      id := 1
      name := "Card"
      fields := [⟨2, "Total", "FlowField", true, "Sum(Entry.Due)"⟩] },
    { kind := .tableExtension
      id := 3
      name := "Card"
      base := "Buyer"
      fields := [⟨2, "Total", "FlowField", true, "Count(Visit.Day)"⟩] }]
  flowfields := [⟨"Total", "Card", .sum, "Entry", "Due"⟩, ⟨"Total", "Card", .count, "Visit", "Day"⟩]
  source := "table 1 Card \x7b\n" ++
    "field(2; Total; FlowField) \x7b CalcFormula = Sum(Entry.Due); \x7d\n\x7d\n" ++
    "tableextension 3 Card extends Buyer \x7b\n" ++
    "field(2; Total; FlowField) \x7b CalcFormula = Count(Visit.Day); \x7d\n\x7d\n"

theorem ofSource_loyaltyFile :
    Extension.ofSource loyaltyFile.source loyaltyFile.path = .ok loyaltyFile := by
  decide +kernel

theorem merged_fields_loyalty :
    let a : Analysis := { extensions := [loyaltyFile] }
    let store : Store := { database := .standard, schema := Schema.standard.statements.map .ok }
    (∀ e ∈ a.extensions, e.name ≠ "" ∧ ∃ source path, Extension.ofSource source path = .ok e) ∧
      ((store.save a).run.run {}).1 = .ok () ∧
      List.Forall₂ (fun x merged => MergedField x.1 x.2.1 x.2.2 merged) (placedFields a.extensions)
        ((store.statements a).filterMap Statement.fieldNode?) := by
  intro a store
  have hread : ∀ e ∈ a.extensions,
      e.name ≠ "" ∧ ∃ source path, Extension.ofSource source path = .ok e := by
    intro e he
    obtain rfl := List.mem_singleton.1 he
    exact ⟨by decide, _, _, ofSource_loyaltyFile⟩
  exact ⟨hread, merged_fields .standard Schema.standard hread⟩

/-- The node of the field of the table shows its formula, a sum, and the method of the formula of
the other field, which counts. -/
theorem method_loyaltyFile :
    let a : Analysis := { extensions := [loyaltyFile] }
    let store : Store := { database := .standard, schema := Schema.standard.statements.map .ok }
    Extension.ofSource loyaltyFile.source loyaltyFile.path = .ok loyaltyFile ∧
      ∃ properties, .mergeNode "Field" (.string "Loyalty/table/1/Total") properties ∈
          store.statements a ∧
        properties.lookup "calcFormula" = some (.string "Sum(Entry.Due)") ∧
        properties.lookup "calcMethod" = some (.string "Count") ∧
        (Formula.read "Sum(Entry.Due)".toList).method.label = "Sum" := by
  intro a store
  let table : Object :=
    ⟨.table, 1, "Card", none, [⟨2, "Total", "FlowField", true, "Sum(Entry.Due)"⟩], []⟩
  let total : Element := .field loyaltyFile table ⟨2, "Total", "FlowField", true, "Sum(Entry.Due)"⟩
  have hlog : store.statements a = complete Schema.standard a :=
    (Store.statements_eq_recorded rfl rfl a).trans
      (recorded_of_storable Schema.standard ⟨by decide, by decide⟩)
  have htotal : total ∈ elements a.extensions :=
    mem_elements_field.2 ⟨.head _, .head _, .head _⟩
  have hid : total.id = "Loyalty/table/1/Total" := by decide +kernel
  refine ⟨ofSource_loyaltyFile, total.properties, ?_, ?_, ?_, by decide +kernel⟩
  · rw [hlog, ← hid]
    exact List.mem_append_right _ (List.mem_append_left _
      (List.mem_flatMap.2 ⟨total, htotal, List.mem_cons_self⟩))
  · exact lookup_calcFormula _ _ _
  · rfl

end ExtensionAtlas.Graph
