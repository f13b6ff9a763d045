import ExtensionAtlas.Proofs.Graph.Contents

/-! How the elements of a stored analysis lie in each other. Every object lies in one extension and
every field and procedure in one object, as the identifier of an element tells which one that is.
Several elements may share a node; what contains them is shared as well. -/

namespace ExtensionAtlas.Graph

/-- Extensions that have names without slashes. Names that differ do so in more than the blanks
around them. -/
structure Addressed (batch : List Extension) : Prop where
  name_ne_empty : ∀ e ∈ batch, e.name ≠ ""
  slash_notMem : ∀ e ∈ batch, '/' ∉ e.name.toList
  name_eq : ∀ e ∈ batch, ∀ d ∈ batch, Text.strip e.name.toList = Text.strip d.name.toList →
    e.name = d.name

namespace Addressed

variable {batch : List Extension} {x y : Element}

theorem name_eq_of_address_eq (h : Addressed batch) {e d : Extension} {o p : Object}
    (he : e ∈ batch) (hd : d ∈ batch) (hid : e.address o = d.address p) : e.name = d.name :=
  h.name_eq e he d hd
    ((Extension.address_eq_iff (h.name_ne_empty e he) (h.name_ne_empty d hd)).1 hid).1

theorem address_eq (h : Addressed batch) {e d : Extension} {o p : Object} {name name' : String}
    (he : e ∈ batch) (hd : d ∈ batch)
    (hid : memberId (e.address o) name = memberId (d.address p) name') :
    e.address o = d.address p :=
  ((memberId_eq_iff (h.name_ne_empty e he) (h.name_ne_empty d hd) (h.slash_notMem e he)
    (h.slash_notMem d hd)).1 hid).1

/-- Elements that share a node lie in the same element. -/
theorem place?_eq_of_key_eq (h : Addressed batch) (hx : x ∈ elements batch)
    (hy : y ∈ elements batch) (hkey : x.key = y.key) : x.place? = y.place? := by
  obtain ⟨hlabel, hid⟩ : x.label.text = y.label.text ∧ x.id = y.id := by
    simpa [Element.key] using hkey
  cases x <;> cases y <;>
    simp only [Element.label, NodeLabel.text, String.reduceEq] at hlabel
  case extension.extension => rfl
  case object.object e o d p =>
    have hname := h.name_eq_of_address_eq (mem_elements_object.1 hx).1
      (mem_elements_object.1 hy).1 hid
    simp only [Element.place?, hname]
  case field.field e o f d p k =>
    have hobject := h.address_eq (mem_elements_field.1 hx).1 (mem_elements_field.1 hy).1 hid
    simp only [Element.place?, hobject]
  case procedure.procedure e o f d p k =>
    have hobject := h.address_eq (mem_elements_procedure.1 hx).1
      (mem_elements_procedure.1 hy).1 hid
    simp only [Element.place?, hobject]

end Addressed

/-- What contains an element that is stored is stored in front of it. -/
theorem exists_container {batch : List Extension} {x : Element} (hx : x ∈ kept batch)
    {key : NodeKey} (hkey : key ∈ x.container?) : ∃ y ∈ kept batch, y.key = key := by
  have hrooted := rooted_kept (fun _ => False) batch
  obtain ⟨y, hy, hkey⟩ := (hrooted.known_or_exists hx hkey).resolve_left id
  exact ⟨y, hy, hkey⟩

/-- The inner elements of a containment lie in others by it. -/
theorem Element.exists_place {x : Element} {type : Containment} (h : x.label = type.inner) :
    ∃ outer, x.place? = some (type, outer) := by
  cases x with
  | extension e => cases type <;> cases h
  | object e o => cases type <;> cases h; exact ⟨e.name, rfl⟩
  | field e o f => cases type <;> cases h; exact ⟨e.address o, rfl⟩
  | procedure e o p => cases type <;> cases h; exact ⟨e.address o, rfl⟩

namespace PropertyGraph

variable {a : Analysis} {type : Containment} {outer inner : Json}

/-- The statements that connect the elements draw no edge from an element to one inside it. -/
theorem containment_notMem_draws (g : PropertyGraph) {s : Statement} (h : s ∈ linked a) :
    .containment type outer inner ∉ g.draws s := by
  rcases mem_connections.1 (mem_connections_of_mem_linked h) with ⟨e, -, h⟩ | ⟨entry, -, rfl⟩
  · obtain ⟨o, -, base, -, -, rfl⟩ := mem_baseStatements.1 h
    simp only [draws]
    split <;> simp
  · simp only [integrationStatement, draws]
    split <;> simp

/-- The edges of containment are those between the elements and what they lie in. -/
theorem containment_mem_edges_storing :
    .containment type outer inner ∈ (empty.storing a).edges ↔
      ∃ x ∈ kept a.extensions, ∃ container, x.place? = some (type, container) ∧
        outer = .string container ∧ inner = .string x.id := by
  have hedge (x : Element) : .containment type outer inner ∈ x.edge? ↔
      ∃ container, x.place? = some (type, container) ∧
        outer = .string container ∧ inner = .string x.id := by
    rw [Element.edge?]
    cases x.place? with
    | none => simp
    | some place =>
        obtain ⟨own, container⟩ := place
        simp [eq_comm, and_assoc]
  rw [mem_edges_storing, or_iff_right (show _ ∉ empty.edges from Finset.notMem_empty _),
    or_iff_left fun ⟨s, hs, hdrawn⟩ => containment_notMem_draws _ hs hdrawn]
  exact exists_congr fun x => and_congr_right fun _ => hedge x

end PropertyGraph

/-- A batch of extensions with addresses is stored on the empty graph exactly if the numbers of its
objects can be written, and then every element gets a node there. However far that goes, every
object lies in exactly one extension, and every field and procedure in exactly one object, whatever
the names of objects, fields and procedures are. -/
theorem existsUnique_container (database : Database) (schema : Schema) {a : Analysis}
    (h : Addressed a.extensions) :
    let store : Store := { database, schema := schema.statements.map .ok }
    let g := store.graphAfter a .empty
    ((store.save a).run.run {}).1 =
        (if WritableNumbers a.extensions then .ok () else .error .numeralUnwritable) ∧
      (WritableNumbers a.extensions → ∀ x ∈ elements a.extensions, x.key ∈ g.nodes) ∧
      (∀ type outer inner, .containment type outer inner ∈ g.edges →
        (type.outer.text, outer) ∈ g.nodes ∧ (type.inner.text, inner) ∈ g.nodes) ∧
      ∀ type inner, (type.inner.text, inner) ∈ g.nodes →
        ∃! outer, .containment type outer inner ∈ g.edges := by
  intro store g
  have hstored : g = PropertyGraph.empty.storing a :=
    Store.graphAfter_eq_storing (s := store) rfl rfl a _
  rw [hstored]
  refine ⟨Store.run_save_of_named (s := store) rfl rfl h.name_ne_empty, fun hwritable x hx => ?_,
    ?_, ?_⟩
  · rw [PropertyGraph.mem_nodes_storing_empty, kept_of_storable ⟨h.name_ne_empty, hwritable⟩]
    exact ⟨x, hx, rfl⟩
  · intro type outer inner hedge
    obtain ⟨x, hx, container, hplace, rfl, rfl⟩ :=
      PropertyGraph.containment_mem_edges_storing.1 hedge
    have hinner : x.key = (type.inner.text, .string x.id) := by
      rw [Element.key, Element.inner_of_place? hplace]
    have hcontainer : (type.outer.text, .string container) ∈ x.container? := by
      rw [Element.container?, hplace]
      rfl
    exact ⟨(PropertyGraph.mem_nodes_storing_empty a _).2 (exists_container hx hcontainer),
      (PropertyGraph.mem_nodes_storing_empty a _).2 ⟨x, hx, hinner⟩⟩
  · intro type inner hnode
    obtain ⟨x, hx, hkey⟩ := (PropertyGraph.mem_nodes_storing_empty a _).1 hnode
    obtain ⟨hlabel, rfl⟩ : x.label.text = type.inner.text ∧ .string x.id = inner := by
      simpa [Element.key] using hkey
    obtain ⟨container, hplace⟩ := Element.exists_place (NodeLabel.text_injective hlabel)
    refine ⟨.string container,
      PropertyGraph.containment_mem_edges_storing.2 ⟨x, hx, container, hplace, rfl, rfl⟩, ?_⟩
    intro outer hedge
    obtain ⟨y, hy, container', hplace', rfl, hid⟩ :=
      PropertyGraph.containment_mem_edges_storing.1 hedge
    have hshared : x.key = y.key := by
      rw [Element.key, Element.key, ← Element.inner_of_place? hplace,
        ← Element.inner_of_place? hplace', hid]
    have hsame := h.place?_eq_of_key_eq (mem_elements_of_mem_kept hx) (mem_elements_of_mem_kept hy)
      hshared
    rw [hplace, hplace'] at hsame
    cases hsame
    rfl

def slashedField : Field := ⟨1, "table/1", "Code[20]", false, none⟩

def slashedTable : Object :=
  ⟨.table, 1, "Item/Part", none, [slashedField, { slashedField with name := "/" }],
    [{ name := "table/1" }]⟩

/-- A file with a table whose fields and procedure have slashes in their names. -/
def slashedFile : Extension := { name := "Stock", path := "Stock.al", objects := [slashedTable] }

/-- That file twice, and one with the same table under another name. -/
def slashedAnalysis : Analysis where
  extensions := [slashedFile, { slashedFile with path := "copy/Stock.al" },
    { slashedFile with name := " Sales" }]

/-- A field whose name looks like the address of an object lies in one object, even when its file is
stored twice and another extension has an object of the same number. -/
theorem existsUnique_container_slashed :
    let store : Store := { database := .standard, schema := Schema.standard.statements.map .ok }
    let g := store.graphAfter slashedAnalysis .empty
    let field : Json := .string "Stock/table/1/table/1"
    Addressed slashedAnalysis.extensions ∧ ("Field", field) ∈ g.nodes ∧
      ∃! outer, .containment .hasField outer field ∈ g.edges := by
  have haddressed : Addressed slashedAnalysis.extensions := ⟨by decide, by decide, by decide⟩
  have hstored := existsUnique_container .standard Schema.standard haddressed
  dsimp only at hstored ⊢
  -- from here on the graph is only known by what holds of it, so nothing evaluates it
  generalize Store.graphAfter _ slashedAnalysis .empty = g at hstored ⊢
  obtain ⟨-, hnodes, -, hunique⟩ := hstored
  have hkey : (Element.field slashedFile slashedTable slashedField).key =
      ("Field", .string "Stock/table/1/table/1") := by
    decide +kernel
  have hnode := hnodes (by decide) (.field slashedFile slashedTable slashedField)
    (mem_elements_field.2 ⟨.head _, .head _, .head _⟩)
  rw [hkey] at hnode
  exact ⟨haddressed, hnode, hunique .hasField _ hnode⟩

end ExtensionAtlas.Graph
