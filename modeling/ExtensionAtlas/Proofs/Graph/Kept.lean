import ExtensionAtlas.Proofs.Graph.Elements
import ExtensionAtlas.Proofs.Graph.Recording
import ExtensionAtlas.Proofs.Source.Legible

/-! How much of a batch is stored. An extension needs a name for its identifier, and the number of
an object has to be short enough to be written; the elements in front of the first that lacks this
are stored, and that one ends the work. Only behind all elements are they connected. -/

namespace ExtensionAtlas.Graph

namespace Element

/-- Why an element cannot be stored. -/
def fault? : Element → Option Fault
  | extension e => if e.name = "" then some (.nodeWithoutId NodeLabel.extension.text) else none
  | object _ o => if Text.IsWritable o.id then none else some .numeralUnwritable
  | field _ _ _ => none
  | procedure _ _ _ => none

/-- What is ordered for an element. -/
def orders (x : Element) : List Order :=
  match x.fault? with
  | some fault => [.error fault]
  | none => x.statements.map .ok

theorem fault?_eq_none_iff {x : Element} : x.fault? = none ↔
    (∀ e, x = extension e → e.name ≠ "") ∧ ∀ e o, x = object e o → Text.IsWritable o.id := by
  cases x <;> simp [fault?]

/-- The number is all that can be wrong with an object, a field or a procedure. -/
theorem eq_of_fault?_eq_some {x : Element} {fault : Fault} (h : x.fault? = some fault)
    (hname : ∀ e, x = extension e → e.name ≠ "") : fault = .numeralUnwritable := by
  cases x with
  | extension e =>
      rw [fault?, if_neg (hname e rfl)] at h
      cases h
  | object e o =>
      rw [fault?] at h
      split at h <;> cases h
      rfl
  | field _ _ _ => cases h
  | procedure _ _ _ => cases h

end Element

section Orders

/-- A node with an identifier is merged. -/
theorem mergeNode_eq_ok (label : NodeLabel) {id : String} (h : id ≠ "") (rest : Properties) :
    mergeNode label (("id", .string id) :: rest) =
      .ok (.mergeNode label.text (.string id) (("id", .string id) :: presentProperties rest)) := by
  simp [mergeNode, Statement.ofNode, presentProperties, Json.isEmptyValue, h]

variable {e : Extension} (h : e.name ≠ "") (o : Object)

include h

theorem memberId_ne_empty (name : String) : memberId (e.address o) name ≠ "" := by
  by_cases hname : name = ""
  · rw [hname, memberId_empty h]
    exact Extension.address_ne_empty h o
  · rw [← String.toList_inj.ne, toList_memberId h o hname]
    simp

/-- An object of an extension with a name is ordered with its members, if its number can be
written. -/
theorem runsAlike_objectOrders :
    RunsAlike (objectOrders e o) ((objectElements e o).flatMap Element.orders) := by
  by_cases hid : Text.IsWritable o.id
  · have hfields : o.fields.flatMap (fieldOrders e o (e.address o)) =
        (o.fields.map (.field e o)).flatMap Element.orders := by
      rw [List.flatMap_map]
      refine List.flatMap_congr fun f _ => ?_
      rw [fieldOrders, fieldProperties, List.cons_append,
        mergeNode_eq_ok .field (memberId_ne_empty h o f.name)]
      rfl
    have hprocedures : o.procedures.flatMap (procedureOrders o (e.address o)) =
        (o.procedures.map (.procedure e o)).flatMap Element.orders := by
      rw [List.flatMap_map]
      refine List.flatMap_congr fun p _ => ?_
      rw [procedureOrders, procedureProperties,
        mergeNode_eq_ok .procedure (memberId_ne_empty h o p.name)]
      rfl
    have hobject : (Element.object e o).orders = [mergeNode .object (objectProperties e o
        (e.address o)), .ok (.mergeContainment .declares (.string e.name)
          (.string (e.address o)))] := by
      rw [Element.orders, Element.fault?, if_pos hid, objectProperties,
        mergeNode_eq_ok .object (Extension.address_ne_empty h o)]
      rfl
    have heq : objectOrders e o = (objectElements e o).flatMap Element.orders := by
      rw [objectOrders, Extension.objectId_of_isWritable e hid, objectElements, List.flatMap_cons,
        List.flatMap_append, ← hfields, ← hprocedures, hobject, ← List.append_assoc]
      rfl
    rw [heq]
    exact ⟨rfl, rfl⟩
  · have hobject : (Element.object e o).orders = [.error .numeralUnwritable] := by
      rw [Element.orders, Element.fault?, if_neg hid]
    rw [objectOrders, Extension.objectId_of_not_isWritable e hid, objectElements,
      List.flatMap_cons, hobject]
    exact .of_error _ _ _

end Orders

/-- What is ordered for an extension comes to what is ordered for its elements. -/
theorem runsAlike_extensionOrders (e : Extension) :
    RunsAlike (extensionOrders e) ((elementsOf e).flatMap Element.orders) := by
  rw [extensionOrders, elementsOf, List.flatMap_cons, List.flatMap_assoc]
  by_cases h : e.name = ""
  · have hnode : mergeNode .extension (extensionProperties e) =
        .error (.nodeWithoutId NodeLabel.extension.text) := by
      simp [mergeNode, Statement.ofNode, extensionProperties, presentProperties,
        Json.isEmptyValue, h]
    have hextension : (Element.extension e).orders =
        [.error (.nodeWithoutId NodeLabel.extension.text)] := by
      rw [Element.orders, Element.fault?, if_pos h]
    rw [hnode, hextension]
    exact .of_error _ _ _
  · have hextension : (Element.extension e).orders =
        [mergeNode .extension (extensionProperties e)] := by
      rw [Element.orders, Element.fault?, if_neg h, extensionProperties,
        mergeNode_eq_ok .extension h]
      rfl
    have hsame : RunsAlike [mergeNode .extension (extensionProperties e)]
        [mergeNode .extension (extensionProperties e)] := ⟨rfl, rfl⟩
    rw [hextension]
    exact hsame.append fun _ => .flatMap fun o _ => runsAlike_objectOrders h o

/-- The elements of a batch in front of the first that cannot be stored. -/
def kept (batch : List Extension) : List Element :=
  (elements batch).takeWhile (·.fault?.isNone)

/-- How storing a batch ends: with the fault of the first element that has one. -/
def verdict (batch : List Extension) : Except Fault Unit :=
  ((elements batch).findSome? Element.fault?).elim (.ok ()) .error

/-- Extensions whose objects have numbers that can be written. -/
def WritableNumbers (batch : List Extension) : Prop :=
  ∀ e ∈ batch, ∀ o ∈ e.objects, Text.IsWritable o.id

instance (batch : List Extension) : Decidable (WritableNumbers batch) :=
  inferInstanceAs (Decidable (∀ e ∈ batch, ∀ o ∈ e.objects, Text.IsWritable o.id))

/-- Extensions all of whose elements can be stored. -/
structure Storable (batch : List Extension) : Prop where
  name_ne_empty : ∀ e ∈ batch, e.name ≠ ""
  isWritable : WritableNumbers batch

section Batch

variable {batch : List Extension}

/-- Extensions that were read from source texts need only names. -/
theorem Storable.of_ofSource (h : ∀ e ∈ batch, e.name ≠ "" ∧
    ∃ source path, Extension.ofSource source path = .ok e) : Storable batch := by
  refine ⟨fun e he => (h e he).1, fun e he o ho => ?_⟩
  obtain ⟨-, source, path, hsource⟩ := h e he
  exact Source.isWritable_of_ofSource hsource ho

theorem storable_iff : Storable batch ↔ ∀ x ∈ elements batch, x.fault? = none := by
  simp only [Element.fault?_eq_none_iff]
  constructor
  · refine fun h x hx => ⟨?_, ?_⟩
    · rintro e rfl
      exact h.name_ne_empty e (mem_elements_extension.1 hx)
    · rintro e o rfl
      exact h.isWritable e (mem_elements_object.1 hx).1 o (mem_elements_object.1 hx).2
  · refine fun h => ⟨fun e he => ?_, fun e he o ho => ?_⟩
    · exact (h _ (mem_elements_extension.2 he)).1 e rfl
    · exact (h _ (mem_elements_object.2 ⟨he, ho⟩)).2 e o rfl

theorem verdict_eq_ok_iff : verdict batch = .ok () ↔ Storable batch := by
  rw [storable_iff, ← List.findSome?_eq_none_iff, verdict]
  cases (elements batch).findSome? Element.fault? <;> simp

/-- Where all extensions have names, only a number can be in the way. -/
theorem verdict_of_named (h : ∀ e ∈ batch, e.name ≠ "") :
    verdict batch = if WritableNumbers batch then .ok () else .error .numeralUnwritable := by
  split
  · next hwritable => exact verdict_eq_ok_iff.2 ⟨h, hwritable⟩
  · next hwritable =>
      rw [verdict]
      cases hfault : (elements batch).findSome? Element.fault? with
      | none =>
          have hstorable := storable_iff.2 (List.findSome?_eq_none_iff.1 hfault)
          exact absurd hstorable.isWritable hwritable
      | some fault =>
          obtain ⟨x, hx, hown⟩ := List.exists_of_findSome?_eq_some hfault
          rw [Option.elim_some, Element.eq_of_fault?_eq_some hown fun e hextension =>
            h e (mem_elements_extension.1 (hextension ▸ hx))]

theorem kept_of_storable (h : Storable batch) : kept batch = elements batch :=
  List.takeWhile_eq_self_iff.2 fun x hx => Option.isNone_iff_eq_none.2 (storable_iff.1 h x hx)

theorem mem_elements_of_mem_kept {x : Element} (h : x ∈ kept batch) : x ∈ elements batch :=
  (List.takeWhile_prefix _).subset h

theorem rooted_kept (known : NodeKey → Prop) (batch : List Extension) :
    Rooted known (kept batch) := by
  have hall := rooted_elements known batch
  rw [← List.takeWhile_append_dropWhile (p := (·.fault?.isNone)) (l := elements batch)] at hall
  exact hall.of_append

/-- Orders for elements run up to the first of them that cannot be stored. -/
theorem run_elementOrders (xs : List Element) :
    outcome (xs.flatMap Element.orders) = (xs.findSome? Element.fault?).elim (.ok ()) .error ∧
      completed (xs.flatMap Element.orders) =
        (xs.takeWhile (·.fault?.isNone)).flatMap Element.statements := by
  induction xs with
  | nil => exact ⟨rfl, rfl⟩
  | cons x xs ih =>
      obtain ⟨houtcome, hcompleted⟩ := ih
      rw [List.flatMap_cons, List.findSome?_cons, List.takeWhile_cons, Element.orders]
      cases hfault : x.fault? with
      | some fault => exact ⟨rfl, rfl⟩
      | none =>
          rw [outcome_append, completed_append, outcome_map_ok, completed_map_ok, hcompleted]
          exact ⟨houtcome, rfl⟩

end Batch

/-- The statements that draw the edges to the bases of the objects of an extension. -/
def baseStatements (e : Extension) : List Statement :=
  e.objects.filterMap fun o =>
    match o.base with
    | some base =>
      if base.isEmpty then none else some (.mergeExtends (.string (e.address o)) (.string base))
    | none => none

theorem mem_baseStatements {e : Extension} {s : Statement} :
    s ∈ baseStatements e ↔ ∃ o ∈ e.objects, ∃ base, o.base = some base ∧ base ≠ "" ∧
      s = .mergeExtends (.string (e.address o)) (.string base) := by
  rw [baseStatements, List.mem_filterMap]
  refine exists_congr fun o => and_congr_right fun _ => ?_
  cases o.base with
  | none => simp
  | some base => by_cases h : base = "" <;> simp [h, eq_comm (a := s)]

theorem baseOrders_eq {e : Extension} (h : ∀ o ∈ e.objects, Text.IsWritable o.id) :
    baseOrders e = (baseStatements e).map .ok := by
  rw [baseOrders, baseStatements, List.map_filterMap, List.filterMap_eq_flatMap_toList]
  refine List.flatMap_congr fun o ho => ?_
  rw [baseOrdersOf, Extension.objectId_of_isWritable e (h o ho)]
  cases o.base with
  | none => rfl
  | some base => by_cases hempty : base.isEmpty <;> simp [hempty, ordersFrom]

/-- The statement that draws an edge between extensions with its number. -/
def integrationStatement (entry : Integration × Nat) : Statement :=
  .mergeIntegration (.string entry.1.source) (.string entry.1.target) entry.1.kind
    (.string entry.1.description) entry.2

/-- The statements that connect the elements of an analysis, when all of them are there. -/
def connections (a : Analysis) : List Statement :=
  a.extensions.flatMap baseStatements ++ (tally a.integrations).map integrationStatement

theorem mem_connections {a : Analysis} {s : Statement} :
    s ∈ connections a ↔ (∃ e ∈ a.extensions, s ∈ baseStatements e) ∨
      ∃ entry ∈ tally a.integrations, integrationStatement entry = s := by
  rw [connections, List.mem_append, List.mem_flatMap, List.mem_map]

/-- The statements that connect the elements of an analysis, if all of them are stored. -/
def linked (a : Analysis) : List Statement :=
  match verdict a.extensions with
  | .ok _ => connections a
  | .error _ => []

theorem linked_of_storable {a : Analysis} (h : Storable a.extensions) :
    linked a = connections a := by
  rw [linked, verdict_eq_ok_iff.2 h]

theorem linked_of_not_storable {a : Analysis} (h : ¬Storable a.extensions) : linked a = [] := by
  rw [linked]
  cases hverdict : verdict a.extensions with
  | ok _ => exact absurd (verdict_eq_ok_iff.1 hverdict) h
  | error _ => rfl

theorem storable_of_mem_linked {a : Analysis} {s : Statement} (h : s ∈ linked a) :
    Storable a.extensions := by
  by_contra hstorable
  rw [linked_of_not_storable hstorable] at h
  cases h

theorem mem_connections_of_mem_linked {a : Analysis} {s : Statement} (h : s ∈ linked a) :
    s ∈ connections a :=
  linked_of_storable (storable_of_mem_linked h) ▸ h

/-- Storing an analysis runs the statements of the elements that are stored, and those that connect
the elements if that is all of them. -/
theorem run_storageOrders (a : Analysis) : outcome (storageOrders a) = verdict a.extensions ∧
    completed (storageOrders a) =
      (kept a.extensions).flatMap Element.statements ++ linked a := by
  obtain ⟨houtcome, hcompleted⟩ := run_elementOrders (elements a.extensions)
  change outcome _ = verdict a.extensions at houtcome
  change completed _ = (kept a.extensions).flatMap _ at hcompleted
  have hextensions : RunsAlike (a.extensions.flatMap extensionOrders)
      ((elements a.extensions).flatMap Element.orders) := by
    rw [elements, List.flatMap_assoc]
    exact .flatMap fun e _ => runsAlike_extensionOrders e
  have hconnections (h : outcome ((elements a.extensions).flatMap Element.orders) = .ok ()) :
      RunsAlike (a.extensions.flatMap baseOrders ++
        (tally a.integrations).map fun entry => integrationOrder entry.1 entry.2)
        ((connections a).map .ok) := by
    have hstorable := verdict_eq_ok_iff.1 (houtcome ▸ h)
    have hbases : a.extensions.flatMap baseOrders =
        (a.extensions.flatMap baseStatements).map .ok := by
      rw [List.map_flatMap]
      exact List.flatMap_congr fun e he => baseOrders_eq (hstorable.isWritable e he)
    rw [hbases, connections, List.map_append, List.map_map]
    exact ⟨rfl, rfl⟩
  have hall := hextensions.append hconnections
  rw [← List.append_assoc] at hall
  refine ⟨hall.outcome_eq.trans ?_, hall.completed_eq.trans ?_⟩
  · rw [outcome_append, outcome_map_ok, houtcome]
    cases verdict a.extensions <;> rfl
  · rw [completed_append, completed_map_ok, houtcome, hcompleted]
    rfl

/-- The statements that are recorded for an analysis: the schema, the elements that are stored with
the edges between them, and what connects them. -/
def recorded (schema : Schema) (a : Analysis) : List Statement :=
  schema.statements ++ ((kept a.extensions).flatMap Element.statements ++ linked a)

/-- The statements that are recorded for an analysis if all its elements can be stored. -/
def complete (schema : Schema) (a : Analysis) : List Statement :=
  schema.statements ++ ((elements a.extensions).flatMap Element.statements ++ connections a)

theorem recorded_of_storable (schema : Schema) {a : Analysis} (h : Storable a.extensions) :
    recorded schema a = complete schema a := by
  rw [recorded, kept_of_storable h, linked_of_storable h, complete]

/-- What is recorded before a fault is the front of what would be recorded without one. -/
theorem recorded_prefix_complete (schema : Schema) (a : Analysis) :
    recorded schema a <+: complete schema a := by
  by_cases h : Storable a.extensions
  · rw [recorded_of_storable schema h]
  · obtain ⟨rest, hrest⟩ : kept a.extensions <+: elements a.extensions := List.takeWhile_prefix _
    rw [recorded, linked_of_not_storable h, List.append_nil, complete, ← hrest,
      List.flatMap_append, List.append_assoc]
    exact (List.prefix_append_right_inj _).2 (List.prefix_append _ _)

/-- On a connection on which nothing fails, storing an analysis ends with the fault of the first
element that cannot be stored. -/
theorem Store.run_save_recorded {s : Store} {schema : Schema} (hconnected : s.connected = true)
    (hschema : s.schema = schema.statements.map .ok) (a : Analysis) {c : Connection}
    (hc : c.capacity = none) :
    ((s.save a).run.run c).1 = verdict a.extensions ∧
      ((s.save a).run.run c).2.statements = c.statements ++ recorded schema a := by
  obtain ⟨houtcome, hcompleted⟩ := run_storageOrders a
  obtain ⟨hresult, hstatements⟩ := Store.run_save hconnected a hc
  rw [hschema, outcome_append, outcome_map_ok] at hresult
  rw [hschema, completed_append, outcome_map_ok, completed_map_ok] at hstatements
  exact ⟨hresult.trans houtcome, hstatements.trans (by rw [hcompleted, recorded])⟩

/-- Storing an analysis whose extensions have names fails only for the number of an object. -/
theorem Store.run_save_of_named {s : Store} {schema : Schema} (hconnected : s.connected = true)
    (hschema : s.schema = schema.statements.map .ok) {a : Analysis}
    (h : ∀ e ∈ a.extensions, e.name ≠ "") : ((s.save a).run.run {}).1 =
      if WritableNumbers a.extensions then .ok () else .error .numeralUnwritable := by
  have hempty : ({} : Connection).capacity = none := rfl
  rw [(Store.run_save_recorded hconnected hschema a hempty).1, verdict_of_named h]

/-- Storing an analysis succeeds exactly if all its elements can be stored. -/
theorem Store.run_save_eq_ok_iff {s : Store} {schema : Schema} (hconnected : s.connected = true)
    (hschema : s.schema = schema.statements.map .ok) (a : Analysis) :
    ((s.save a).run.run {}).1 = .ok () ↔ Storable a.extensions := by
  have hempty : ({} : Connection).capacity = none := rfl
  rw [(Store.run_save_recorded hconnected hschema a hempty).1, verdict_eq_ok_iff]

/-- What storing an analysis leaves on a connection on which nothing fails. -/
theorem Store.statements_eq_recorded {s : Store} {schema : Schema}
    (hconnected : s.connected = true) (hschema : s.schema = schema.statements.map .ok)
    (a : Analysis) : s.statements a = recorded schema a := by
  have hempty : ({} : Connection).capacity = none := rfl
  exact (Store.run_save_recorded hconnected hschema a hempty).2.trans (List.nil_append _)

end ExtensionAtlas.Graph
