import ExtensionAtlas.Proofs.Graph.PropertyGraph
import ExtensionAtlas.Proofs.Model.ElementId

/-! The elements of a batch: its extensions and their objects, fields and procedures. Each has a
node, and each but the extensions lies in another one, whose node is merged in front of its own. -/

namespace ExtensionAtlas.Graph

theorem mem_presentProperties {properties : Properties} {entry : String × Json} :
    entry ∈ presentProperties properties ↔ entry ∈ properties ∧ entry.2 ≠ .null := by
  obtain ⟨key, value⟩ := entry
  cases value <;> simp [presentProperties]

/-- The value of a property is the first one given for it that is not null. -/
theorem lookup_presentProperties_cons (property own : String) (value : Json) (rest : Properties) :
    (presentProperties ((own, value) :: rest)).lookup property =
      if property = own ∧ value ≠ .null then some value
      else (presentProperties rest).lookup property := by
  by_cases hnull : value = .null
  · rw [hnull, if_neg (by simp)]
    rfl
  · have hpresent : presentProperties ((own, value) :: rest) =
        (own, value) :: presentProperties rest := by
      cases value with
      | null => exact absurd rfl hnull
      | _ => rfl
    rw [hpresent, List.lookup_cons]
    by_cases hown : property = own
    · rw [if_pos ⟨hown, hnull⟩, hown, beq_self_eq_true]
    · rw [if_neg fun h => hown h.1, beq_false_of_ne hown]

theorem lookup_presentProperties_of_ne {property own : String} (h : property ≠ own) (value : Json)
    (rest : Properties) : (presentProperties ((own, value) :: rest)).lookup property =
      (presentProperties rest).lookup property := by
  rw [lookup_presentProperties_cons, if_neg fun heq => h heq.1]

/-- A property that may be absent is there exactly if it has a value. -/
theorem lookup_presentProperties_ofText? {property : String} (text : Option String)
    {rest : Properties} (h : (presentProperties rest).lookup property = none) :
    (presentProperties ((property, .ofText? text) :: rest)).lookup property =
      text.map .string := by
  rw [lookup_presentProperties_cons]
  cases text with
  | none => rw [if_neg (by simp [Json.ofText?]), h, Option.map_none]
  | some value => rw [if_pos (by simp [Json.ofText?]), Option.map_some, Json.ofText?]

theorem NodeLabel.text_injective {label label' : NodeLabel} (h : label.text = label'.text) :
    label = label' := by
  cases label <;> cases label' <;> first | rfl | simp [NodeLabel.text] at h

/-- What has a node of its own. -/
inductive Element where
  | extension (e : Extension)
  | object (e : Extension) (o : Object)
  | field (e : Extension) (o : Object) (f : Field)
  | procedure (e : Extension) (o : Object) (p : Procedure)

namespace Element

def label : Element → NodeLabel
  | extension _ => .extension
  | object _ _ => .object
  | field _ _ _ => .field
  | procedure _ _ _ => .procedure

def id : Element → String
  | extension e => e.name
  | object e o => e.address o
  | field e o f => memberId (e.address o) f.name
  | procedure e o p => memberId (e.address o) p.name

/-- The node of an element. -/
def key (x : Element) : NodeKey := (x.label.text, .string x.id)

/-- What is known about an element; what it has not is null. -/
def entries : Element → Properties
  | extension e => extensionProperties e
  | object e o => objectProperties e o (e.address o)
  | field e o f => fieldProperties e o (e.address o) f
  | procedure e o p => procedureProperties o (e.address o) p

/-- The properties that the node of an element gets. -/
def properties (x : Element) : Properties := presentProperties x.entries

/-- How an element lies in another one, with the identifier of that one. -/
def place? : Element → Option (Containment × String)
  | extension _ => none
  | object e _ => some (.declares, e.name)
  | field e o _ => some (.hasField, e.address o)
  | procedure e o _ => some (.declaresProcedure, e.address o)

/-- The node that contains that of an element. -/
def container? (x : Element) : Option NodeKey :=
  x.place?.map fun (type, outer) => (type.outer.text, .string outer)

/-- The edge to an element from the one that it lies in. -/
def edge? (x : Element) : Option Edge :=
  x.place?.map fun (type, outer) => .containment type (.string outer) (.string x.id)

/-- The statements that put an element into a graph. -/
def statements (x : Element) : List Statement :=
  .mergeNode x.label.text (.string x.id) x.properties ::
    (x.place?.map fun (type, outer) =>
      .mergeContainment type (.string outer) (.string x.id)).toList

theorem inner_of_place? {x : Element} {type : Containment} {outer : String}
    (h : x.place? = some (type, outer)) : type.inner = x.label := by
  cases x <;> simp only [place?, Option.some.injEq, Prod.mk.injEq, reduceCtorEq] at h <;>
    simp [← h.1, label, Containment.inner]

/-- An element is put into a graph as a node and, if it lies in another one, an edge from there. -/
theorem mem_statements {x : Element} {s : Statement} : s ∈ x.statements ↔
    s = .mergeNode x.label.text (.string x.id) x.properties ∨ ∃ type outer,
      x.place? = some (type, outer) ∧
        s = .mergeContainment type (.string outer) (.string x.id) := by
  rw [statements, List.mem_cons, Option.mem_toList, Option.map_eq_some_iff, Prod.exists]
  simp only [eq_comm (b := s)]

end Element

/-- An object and its members in the order in which they are stored. -/
def objectElements (e : Extension) (o : Object) : List Element :=
  .object e o :: (o.fields.map (.field e o) ++ o.procedures.map (.procedure e o))

/-- The elements of an extension in the order in which they are stored. -/
def elementsOf (e : Extension) : List Element :=
  .extension e :: e.objects.flatMap (objectElements e)

def elements (batch : List Extension) : List Element := batch.flatMap elementsOf

section Members

variable {batch : List Extension} {e : Extension} {o : Object}

@[simp]
theorem mem_elements_extension : .extension e ∈ elements batch ↔ e ∈ batch := by
  simp [elements, elementsOf, objectElements]

@[simp]
theorem mem_elements_object : .object e o ∈ elements batch ↔ e ∈ batch ∧ o ∈ e.objects := by
  simp [elements, elementsOf, objectElements, and_comm]

@[simp]
theorem mem_elements_field {f : Field} :
    .field e o f ∈ elements batch ↔ e ∈ batch ∧ o ∈ e.objects ∧ f ∈ o.fields := by
  simp [elements, elementsOf, objectElements, and_comm]

@[simp]
theorem mem_elements_procedure {p : Procedure} :
    .procedure e o p ∈ elements batch ↔ e ∈ batch ∧ o ∈ e.objects ∧ p ∈ o.procedures := by
  simp [elements, elementsOf, objectElements, and_comm, and_left_comm]

end Members

/-- The objects of a batch, each with its extension. -/
def placedObjects (batch : List Extension) : List (Extension × Object) :=
  batch.flatMap fun e => e.objects.map (e, ·)

theorem mem_placedObjects {batch : List Extension} {e : Extension} {o : Object} :
    (e, o) ∈ placedObjects batch ↔ e ∈ batch ∧ o ∈ e.objects := by
  simp [placedObjects]

/-- Every element comes behind the one that it lies in, unless that one is known already. -/
def Rooted (known : NodeKey → Prop) : List Element → Prop
  | [] => True
  | x :: xs => (∀ k ∈ x.container?, known k) ∧ Rooted (fun k => k = x.key ∨ known k) xs

namespace Rooted

variable {known known' : NodeKey → Prop}

theorem mono {xs : List Element} (h : ∀ k, known k → known' k) (hrooted : Rooted known xs) :
    Rooted known' xs := by
  induction xs generalizing known known' with
  | nil => trivial
  | cons x xs ih =>
      exact ⟨fun k hk => h k (hrooted.1 k hk), ih (fun k => Or.imp_right (h k)) hrooted.2⟩

theorem of_forall {xs : List Element} (h : ∀ x ∈ xs, ∀ k ∈ x.container?, known k) :
    Rooted known xs := by
  induction xs generalizing known with
  | nil => trivial
  | cons x xs ih =>
      rw [List.forall_mem_cons] at h
      exact ⟨h.1, ih fun y hy k hk => .inr (h.2 y hy k hk)⟩

theorem append {xs ys : List Element} (hxs : Rooted known xs) (hys : Rooted known ys) :
    Rooted known (xs ++ ys) := by
  induction xs generalizing known with
  | nil => exact hys
  | cons x xs ih => exact ⟨hxs.1, ih hxs.2 (hys.mono fun _ => .inr)⟩

theorem flatMap {α : Type} {xs : List α} {block : α → List Element}
    (h : ∀ x ∈ xs, Rooted known (block x)) : Rooted known (xs.flatMap block) := by
  induction xs with
  | nil => trivial
  | cons x xs ih =>
      rw [List.forall_mem_cons] at h
      exact h.1.append (ih h.2)

/-- The front of such a list is one as well. -/
theorem of_append {xs ys : List Element} (h : Rooted known (xs ++ ys)) : Rooted known xs := by
  induction xs generalizing known with
  | nil => trivial
  | cons x xs ih => exact ⟨h.1, ih h.2⟩

theorem known_or_exists {xs : List Element} (h : Rooted known xs) {x : Element} (hx : x ∈ xs)
    {key : NodeKey} (hkey : key ∈ x.container?) : known key ∨ ∃ y ∈ xs, y.key = key := by
  induction xs generalizing known with
  | nil => cases hx
  | cons y ys ih =>
      rw [List.exists_mem_cons_iff]
      rcases List.mem_cons.1 hx with rfl | hx
      · exact .inl (h.1 key hkey)
      · rcases ih h.2 hx with (heq | hknown) | hexists
        · exact .inr (.inl heq.symm)
        · exact .inl hknown
        · exact .inr (.inr hexists)

end Rooted

theorem rooted_elements (known : NodeKey → Prop) (batch : List Extension) :
    Rooted known (elements batch) := by
  refine .flatMap fun e _ => ⟨?_, .flatMap fun o _ => ⟨?_, .of_forall ?_⟩⟩
  · rintro k ⟨⟩
  · rintro k ⟨⟩
    exact .inl rfl
  · intro x hx
    simp only [List.mem_append, List.mem_map] at hx
    rcases hx with ⟨f, -, rfl⟩ | ⟨p, -, rfl⟩ <;>
      · rintro k ⟨⟩
        exact .inl rfl

end ExtensionAtlas.Graph
