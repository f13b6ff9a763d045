import ExtensionAtlas.Proofs.Graph.Answers
import ExtensionAtlas.Proofs.Integration.EventNames
import ExtensionAtlas.Proofs.Source.Legible

/-! The procedures of an event, read back. Procedures share a node only if they share an object and
a name; if they were read from source texts they share their role as well, so what a node shows is
true of each of them. Names match in the graph as they do where extensions are coupled. -/

namespace ExtensionAtlas

theorem EventRole.label_beq (role role' : EventRole) :
    (role.label == role'.label) = (role == role') := by
  cases role <;> cases role' <;> rfl

namespace Graph

/-- Whether the node of a procedure is read as a procedure of some role. -/
def ReadsAs (node : Json) (ref : ProcedureRef) (own : EventRole) : Prop :=
  ProcedureRef.ofRecord node = .ok ref ∧ ∀ role, hasRole role node = .ok (own == role)

theorem ReadsAs.unique {node : Json} {ref ref' : ProcedureRef} {own own' : EventRole}
    (h : ReadsAs node ref own) (h' : ReadsAs node ref' own') : ref = ref' ∧ own = own' := by
  obtain ⟨href, hrole⟩ := h
  rw [h'.1] at href
  have hown := (hrole own').symm.trans (h'.2 own')
  rw [beq_self_eq_true] at hown
  cases href
  exact ⟨rfl, beq_iff_eq.1 (Except.ok.inj hown)⟩

theorem readsAs_object {members : Properties} {id name objectName : String} {own : EventRole}
    (hid : members.lookup "id" = some (.string id))
    (hname : members.lookup "name" = some (.string name))
    (hobject : members.lookup "objectName" = some (.string objectName))
    (hrole : members.lookup "eventRole" = some (.string own.label)) :
    ReadsAs (.object members) ⟨id, name, objectName, some own.label⟩ own := by
  constructor
  · simp only [ProcedureRef.ofRecord, needed, hid, hname, hobject, Json.get?, hrole]
    rfl
  · intro role
    simp only [hasRole, hrole, EventRole.label_beq]

/-- The procedures of some role among nodes are read from the nodes that have that role. -/
theorem exists_proceduresIn (role : EventRole) {nodes : List Json}
    (h : ∀ node ∈ nodes, ∃ ref own, ReadsAs node ref own) :
    ∃ refs, proceduresIn role nodes = .ok refs ∧
      ∀ ref, ref ∈ refs ↔ ∃ node ∈ nodes, ReadsAs node ref role := by
  induction nodes with
  | nil => exact ⟨[], rfl, by simp⟩
  | cons node nodes ih =>
      rw [List.forall_mem_cons] at h
      obtain ⟨⟨first, own, hfirst⟩, hnodes⟩ := h
      obtain ⟨refs, hrefs, hmem⟩ := ih hnodes
      by_cases hown : own = role
      · subst hown
        refine ⟨first :: refs, ?_, fun ref => ?_⟩
        · rw [proceduresIn, hfirst.2, hrefs, hfirst.1, beq_self_eq_true]
          rfl
        · rw [List.mem_cons, List.exists_mem_cons_iff, hmem]
          refine or_congr_left ⟨?_, fun hread => (hread.unique hfirst).1⟩
          rintro rfl
          exact hfirst
      · refine ⟨refs, ?_, fun ref => ?_⟩
        · rw [proceduresIn, hfirst.2, hrefs, beq_false_of_ne hown]
          rfl
        · rw [List.exists_mem_cons_iff, hmem]
          exact (or_iff_right fun hread => hown (hfirst.unique hread).2).symm

/-- The event procedures of a batch that have some role and whose names match a name. -/
structure Fits (batch : List Extension) (name : String) (role : EventRole) (e : Extension)
    (o : Object) (p : Procedure) : Prop where
  extension : e ∈ batch
  object : o ∈ e.objects
  procedure : p ∈ o.procedures
  eventRole : p.eventRole = some role
  name : eventNamesMatch p.name name = true

/-- A procedure as it is listed among those of its role. -/
def ProcedureRef.of (e : Extension) (o : Object) (p : Procedure) (role : EventRole) :
    ProcedureRef :=
  ⟨memberId (e.address o) p.name, p.name, o.name, some role.label⟩

/-- Extensions that were read from source texts and whose objects have identifiers of their own. -/
structure ToldApart (batch : List Extension) : Prop where
  isRead : ∀ e ∈ batch, e.IsRead
  name_ne_empty : ∀ e ∈ batch, e.name ≠ ""
  slash_notMem : ∀ e ∈ batch, '/' ∉ e.name.toList
  isWritable : WritableNumbers batch
  nodup : (batch.flatMap fun e => e.objects.map e.objectId).Nodup

namespace ToldApart

variable {batch : List Extension}

theorem of_ofSource (hread : ∀ e ∈ batch, ∃ source path, Extension.ofSource source path = .ok e)
    (hname : ∀ e ∈ batch, e.name ≠ "") (hslash : ∀ e ∈ batch, '/' ∉ e.name.toList)
    (hids : (batch.flatMap fun e => e.objects.map e.objectId).Nodup) : ToldApart batch := by
  have hstorable : Storable batch := .of_ofSource fun e he => ⟨hname e he, hread e he⟩
  refine ⟨fun e he => ?_, hname, hslash, hstorable.isWritable, hids⟩
  obtain ⟨source, path, hsource⟩ := hread e he
  exact Extension.isRead_of_ofSource hsource

theorem storable (h : ToldApart batch) : Storable batch := ⟨h.name_ne_empty, h.isWritable⟩

theorem nodup_address (h : ToldApart batch) :
    ((placedObjects batch).map fun (e, o) => e.address o).Nodup := by
  have hids : batch.flatMap (fun e => e.objects.map e.objectId) =
      ((placedObjects batch).map fun (e, o) => e.address o).map .ok := by
    rw [placedObjects, List.map_flatMap, List.map_flatMap]
    refine List.flatMap_congr fun e he => ?_
    rw [List.map_map, List.map_map]
    exact List.map_congr_left fun o ho => e.objectId_of_isWritable (h.isWritable e he o ho)
  exact .of_map _ (hids ▸ h.nodup)

theorem eq_of_address_eq (h : ToldApart batch) {e e' : Extension} {o o' : Object} (he : e ∈ batch)
    (ho : o ∈ e.objects) (he' : e' ∈ batch) (ho' : o' ∈ e'.objects)
    (hid : e.address o = e'.address o') : e = e' ∧ o = o' :=
  Prod.mk.inj (List.inj_on_of_nodup_map h.nodup_address (mem_placedObjects.2 ⟨he, ho⟩)
    (mem_placedObjects.2 ⟨he', ho'⟩) hid)

/-- The elements that share the node of a procedure are procedures of that name in its object. -/
theorem eq_of_key_eq (h : ToldApart batch) {e : Extension} {o : Object} {p : Procedure}
    (hp : .procedure e o p ∈ elements batch) {x : Element} (hx : x ∈ elements batch)
    (hkey : x.key = (Element.procedure e o p).key) :
    ∃ q ∈ o.procedures, x = .procedure e o q ∧ q.name = p.name := by
  rw [mem_elements_procedure] at hp
  obtain ⟨he, ho, hp⟩ := hp
  cases x with
  | procedure e' o' q =>
      rw [mem_elements_procedure] at hx
      obtain ⟨he', ho', hq⟩ := hx
      have hid : memberId (e'.address o') q.name = memberId (e.address o) p.name := by
        simpa [Element.key, Element.id, Element.label] using hkey
      obtain ⟨hobject, hname⟩ := eq_of_memberId_eq (h.name_ne_empty e' he') (h.name_ne_empty e he)
        (h.slash_notMem e' he') (h.slash_notMem e he) ((h.isRead e' he').trimmed_name ho' hq)
        ((h.isRead e he).trimmed_name ho hp) hid
      obtain ⟨rfl, rfl⟩ := h.eq_of_address_eq he' ho' he ho hobject
      exact ⟨q, hq, rfl, hname⟩
  | extension _ | object _ _ | field _ _ _ =>
      simp [Element.key, Element.label, NodeLabel.text] at hkey

variable {a : Analysis} {e : Extension} {o : Object} {p : Procedure}

/-- The node of a procedure shows a property on which the procedures of its name agree. -/
theorem shown_procedure (h : ToldApart a.extensions)
    (hp : .procedure e o p ∈ elements a.extensions) {property : String} {value : Json}
    (hmem : (property, value) ∈ procedureProperties o (e.address o) p) (hne : value ≠ .null)
    (hagree : ∀ q ∈ o.procedures, q.name = p.name → q.eventRole = p.eventRole →
      q.isEvent = p.isEvent → ∀ other, (property, other) ∈ procedureProperties o (e.address o) q →
      other = value) :
    (PropertyGraph.empty.storing a).shown (Element.procedure e o p).key property = value := by
  have hkept : .procedure e o p ∈ kept a.extensions := by
    rw [kept_of_storable h.storable]
    exact hp
  refine PropertyGraph.shown_storing _ a hkept (mem_presentProperties.2 ⟨hmem, hne⟩) ?_
  intro x hx hkey other hother
  -- the two procedures were read from one body, so their role depends on their name alone
  obtain ⟨q, hq, rfl, hname⟩ := h.eq_of_key_eq hp hx hkey
  rw [mem_elements_procedure] at hp
  obtain ⟨he, ho, hp⟩ := hp
  have hread := h.isRead e he
  have hrole := hread.eventRole_eq ho hq hp hname
  refine hagree q hq hname hrole ?_ other (mem_presentProperties.1 hother).1
  rw [hread.isEvent_eq ho hq, hread.isEvent_eq ho hp, hrole]

theorem shown_isEvent (h : ToldApart a.extensions)
    (hp : .procedure e o p ∈ elements a.extensions) :
    (PropertyGraph.empty.storing a).shown (Element.procedure e o p).key "isEvent" =
      .bool p.isEvent := by
  refine h.shown_procedure hp (by simp [procedureProperties]) (by simp) ?_
  rintro q - - - hevent other hother
  simpa [procedureProperties, hevent] using hother

theorem shown_name (h : ToldApart a.extensions) (hp : .procedure e o p ∈ elements a.extensions) :
    (PropertyGraph.empty.storing a).shown (Element.procedure e o p).key "name" =
      .string p.name := by
  refine h.shown_procedure hp (by simp [procedureProperties]) (by simp) ?_
  rintro q - hname - - other hother
  simpa [procedureProperties, hname] using hother

/-- The node of an event procedure is read as that procedure. -/
theorem readsAs_of_showsNode (h : ToldApart a.extensions)
    (hp : .procedure e o p ∈ elements a.extensions) {own : EventRole}
    (hown : p.eventRole = some own) {node : Json}
    (hnode : (PropertyGraph.empty.storing a).ShowsNode (Element.procedure e o p).key node) :
    ReadsAs node (.of e o p own) own := by
  have hmembers := hnode
  obtain ⟨-, members, -, rfl, -⟩ := hmembers
  have hid : (PropertyGraph.empty.storing a).shown (Element.procedure e o p).key "id" =
      .string (memberId (e.address o) p.name) := by
    refine h.shown_procedure hp (by simp [procedureProperties]) (by simp) ?_
    rintro q - hname - - other hother
    simpa [procedureProperties, hname] using hother
  have hobject : (PropertyGraph.empty.storing a).shown (Element.procedure e o p).key "objectName" =
      .string o.name := by
    refine h.shown_procedure hp (by simp [procedureProperties]) (by simp) ?_
    rintro q - - - - other hother
    simpa [procedureProperties] using hother
  have hrole : (PropertyGraph.empty.storing a).shown (Element.procedure e o p).key "eventRole" =
      .string own.label := by
    refine h.shown_procedure hp (by simp [procedureProperties, hown, Json.ofText?]) (by simp) ?_
    rintro q - - hrole - other hother
    simpa [procedureProperties, hrole, hown, Json.ofText?] using hother
  exact readsAs_object (PropertyGraph.lookup_of_showsNode hnode hid (by simp))
    (PropertyGraph.lookup_of_showsNode hnode (h.shown_name hp) (by simp))
    (PropertyGraph.lookup_of_showsNode hnode hobject (by simp))
    (PropertyGraph.lookup_of_showsNode hnode hrole (by simp))

/-- The nodes that are found for the name of an event are those of its procedures. -/
theorem isEventLike_iff (h : ToldApart a.extensions) {name : String} {key : NodeKey} :
    (PropertyGraph.empty.storing a).IsEventLike (.string name) key ↔
      ∃ role e o p, Fits a.extensions name role e o p ∧ (Element.procedure e o p).key = key := by
  constructor
  · rintro ⟨hlabel, hevent, own, asked, hown, hasked, hmatch⟩
    have hnode : key ∈ (PropertyGraph.empty.storing a).nodes :=
      PropertyGraph.mem_nodes_of_shown_ne (by rw [hevent]; simp)
    rw [PropertyGraph.mem_nodes_storing_empty, kept_of_storable h.storable] at hnode
    obtain ⟨x, hx, rfl⟩ := hnode
    cases x with
    | procedure e o p =>
        rw [h.shown_isEvent hx, Json.bool.injEq] at hevent
        rw [h.shown_name hx, Json.string.injEq] at hown
        subst hown
        cases hasked
        obtain ⟨he, ho, hp⟩ := mem_elements_procedure.1 hx
        rw [(h.isRead e he).isEvent_eq ho hp, Option.isSome_iff_exists] at hevent
        obtain ⟨role, hrole⟩ := hevent
        exact ⟨role, e, o, p, ⟨he, ho, hp, hrole, eventNamesMatch_iff.2 hmatch⟩, rfl⟩
    | extension _ | object _ _ | field _ _ _ =>
        simp [Element.key, Element.label, NodeLabel.text] at hlabel
  · rintro ⟨role, e, o, p, ⟨he, ho, hp, hrole, hmatch⟩, rfl⟩
    have hx := mem_elements_procedure.2 ⟨he, ho, hp⟩
    have hevent : p.isEvent = true := by
      rw [(h.isRead e he).isEvent_eq ho hp, hrole]
      rfl
    refine ⟨rfl, ?_, p.name, name, h.shown_name hx, rfl, eventNamesMatch_iff.1 hmatch⟩
    rw [h.shown_isEvent hx, hevent]

/-- Some event of a batch has a name that matches exactly if some procedure has. -/
theorem exists_event_iff (h : ToldApart batch) {name : String} :
    (∃ e ∈ batch, ∃ event ∈ e.events, eventNamesMatch event.name name = true) ↔
      ∃ role e o p, Fits batch name role e o p := by
  constructor
  · rintro ⟨e, he, event, hevent, hmatch⟩
    obtain ⟨o, ho, p, hp, role, hname, -, -, hrole⟩ := (h.isRead e he).exists_procedure hevent
    exact ⟨role, e, o, p, he, ho, hp, hrole, hname ▸ hmatch⟩
  · rintro ⟨role, e, o, p, he, ho, hp, hrole, hmatch⟩
    obtain ⟨event, hevent, hname⟩ := (h.isRead e he).exists_event ho hp hrole
    exact ⟨e, he, event, hevent, hname ▸ hmatch⟩

/-- A subscriber that couples an extension to a publisher fits the name of the publisher. -/
theorem exists_fits (h : ToldApart batch) {e other : Extension} {publisher subscriber : Event}
    (hother : other ∈ e.others batch) (hsubscriber : subscriber ∈ other.events)
    (hanswers : subscriber.answers publisher = true) :
    ∃ o p, Fits batch publisher.name .subscriber other o p ∧
      p.name = subscriber.name ∧ o.name = subscriber.objectName := by
  have hmem := List.mem_of_mem_filter hother
  rw [Event.answers, Bool.and_eq_true, beq_iff_eq] at hanswers
  obtain ⟨o, ho, p, hp, role, hname, hobject, hown, hrole⟩ :=
    (h.isRead other hmem).exists_procedure hsubscriber
  rw [hanswers.1] at hown
  cases hown
  refine ⟨o, p, ⟨hmem, ho, hp, hrole, ?_⟩, hname, hobject⟩
  rw [hname]
  exact eventNamesMatch_comm.1 hanswers.2

/-- The procedures of some role among the nodes that are found for the name of an event. -/
theorem exists_proceduresIn_of_lists (h : ToldApart a.extensions) (role : EventRole)
    {name : String} {nodes : List Json}
    (hnodes : Lists ((PropertyGraph.empty.storing a).IsEventLike (.string name))
      (PropertyGraph.empty.storing a).ShowsNode nodes) :
    ∃ refs, proceduresIn role nodes = .ok refs ∧
      ∀ ref, ref ∈ refs ↔ ∃ e o p, Fits a.extensions name role e o p ∧ ref = .of e o p role := by
  have hread {own : EventRole} {e : Extension} {o : Object} {p : Procedure} {node : Json}
      (hfits : Fits a.extensions name own e o p)
      (hshows : (PropertyGraph.empty.storing a).ShowsNode (Element.procedure e o p).key node) :
      ReadsAs node (.of e o p own) own :=
    h.readsAs_of_showsNode
      (mem_elements_procedure.2 ⟨hfits.extension, hfits.object, hfits.procedure⟩)
      hfits.eventRole hshows
  have hfound {node : Json} (hnode : node ∈ nodes) : ∃ own e o p,
      Fits a.extensions name own e o p ∧ ReadsAs node (.of e o p own) own := by
    obtain ⟨key, hkey, hshows⟩ := hnodes.exists_found hnode
    obtain ⟨own, e, o, p, hfits, rfl⟩ := h.isEventLike_iff.1 hkey
    exact ⟨own, e, o, p, hfits, hread hfits hshows⟩
  obtain ⟨refs, hrefs, hmem⟩ := exists_proceduresIn role fun node hnode =>
    have ⟨own, e, o, p, _, hreads⟩ := hfound hnode
    ⟨_, own, hreads⟩
  refine ⟨refs, hrefs, fun ref => (hmem ref).trans ?_⟩
  constructor
  · rintro ⟨node, hnode, hreads⟩
    obtain ⟨own, e, o, p, hfits, hown⟩ := hfound hnode
    obtain ⟨rfl, rfl⟩ := hreads.unique hown
    exact ⟨e, o, p, hfits, rfl⟩
  · rintro ⟨e, o, p, hfits, rfl⟩
    obtain ⟨node, hnode, hshows⟩ :=
      hnodes.exists_record (h.isEventLike_iff.2 ⟨role, e, o, p, hfits, rfl⟩)
    exact ⟨node, hnode, hread hfits hshows⟩

/-- What is read from the answer to the question on an event. -/
theorem ofRecords_of_answers (h : ToldApart a.extensions) {name : String} {records : List Json}
    (hanswer : (PropertyGraph.empty.storing a).Answers (.eventProcedures (.string name)) records) :
    ((¬∃ role e o p, Fits a.extensions name role e o p) →
      EventLinks.ofRecords (.string name) records = .error (.eventUnknown name)) ∧
    ((∃ role e o p, Fits a.extensions name role e o p) → ∃ publishers subscribers,
      EventLinks.ofRecords (.string name) records = .ok ⟨name, publishers, subscribers⟩ ∧
      (∀ ref, ref ∈ publishers ↔
        ∃ e o p, Fits a.extensions name .publisher e o p ∧ ref = .of e o p .publisher) ∧
      ∀ ref, ref ∈ subscribers ↔
        ∃ e o p, Fits a.extensions name .subscriber e o p ∧ ref = .of e o p .subscriber) := by
  obtain ⟨nodes, hneeded, hnodes⟩ := PropertyGraph.exists_mapM_needed hanswer
  constructor
  · intro hnone
    have hempty : nodes = [] := List.eq_nil_iff_forall_not_mem.2 fun node hnode => by
      obtain ⟨key, hkey, -⟩ := hnodes.exists_found hnode
      obtain ⟨role, e, o, p, hfits, -⟩ := h.isEventLike_iff.1 hkey
      exact hnone ⟨role, e, o, p, hfits⟩
    rw [EventLinks.ofRecords, hneeded, hempty]
    rfl
  · rintro ⟨role, e, o, p, hfits⟩
    obtain ⟨node, hnode, -⟩ :=
      hnodes.exists_record (h.isEventLike_iff.2 ⟨role, e, o, p, hfits, rfl⟩)
    obtain ⟨publishers, hpublishers, hmem⟩ := h.exists_proceduresIn_of_lists .publisher hnodes
    obtain ⟨subscribers, hsubscribers, hmem'⟩ := h.exists_proceduresIn_of_lists .subscriber hnodes
    refine ⟨publishers, subscribers, ?_, hmem, hmem'⟩
    have hpresent : nodes.isEmpty = false := by
      cases nodes with
      | nil => exact absurd hnode List.not_mem_nil
      | cons _ _ => rfl
    rw [EventLinks.ofRecords, hneeded]
    change (if nodes.isEmpty then _ else _) = _
    rw [hpresent, hpublishers, hsubscribers]
    rfl

end ToldApart

/-- The question on an event, and what comes of it. -/
theorem run_eventLinks (database : Database) (event : Json) (answers : List (List Json)) :
    let run := (eventLinks database event).run.run { answers }
    run.1 = EventLinks.ofRecords event (answers.head?.getD []) ∧
      run.2.statements = [.eventProcedures event] := by
  rw [eventLinks, run_ask_bind rfl]
  exact ⟨rfl, rfl⟩

/-- The procedures of an event can be read back once extensions that were read from source texts
have been stored on the empty graph. An event is unknown exactly if no event of the batch has a name
that matches; of any other the procedures of both roles are listed. Among them are all subscribers
that couple an extension to a publisher of that name. -/
theorem eventLinks_save (database : Database) (schema : Schema) (references : Bool)
    (failedPaths : List String) {batch : List Extension}
    (hread : ∀ e ∈ batch, ∃ source path, Extension.ofSource source path = .ok e)
    (hname : ∀ e ∈ batch, e.name ≠ "") (hslash : ∀ e ∈ batch, '/' ∉ e.name.toList)
    (hids : (batch.flatMap fun e => e.objects.map e.objectId).Nodup) (name : String) :
    let store : Store := { database, schema := schema.statements.map .ok }
    let a := Analysis.ofExtensions references batch failedPaths
    let g := store.graphAfter a .empty
    let work := eventLinks database (.string name)
    let known := ∃ e ∈ batch, ∃ event ∈ e.events, eventNamesMatch event.name name = true
    ((store.save a).run.run {}).1 = .ok () ∧ (∃ answers, g.AnswersTo work answers) ∧
      ∀ answers, g.AnswersTo work answers →
        ((work.run.run { answers }).1 = .error (.eventUnknown name) ↔ ¬known) ∧
        (known → ∃ links, (work.run.run { answers }).1 = .ok links ∧ links.event = name ∧
          (∀ ref, ref ∈ links.publishers ↔
            ∃ e o p, Fits batch name .publisher e o p ∧ ref = .of e o p .publisher) ∧
          (∀ ref, ref ∈ links.subscribers ↔
            ∃ e o p, Fits batch name .subscriber e o p ∧ ref = .of e o p .subscriber) ∧
          ∀ e ∈ batch, ∀ publisher ∈ e.events, publisher.role = some .publisher →
            publisher.name = name → ∀ other ∈ e.others batch, ∀ subscriber ∈ other.events,
            subscriber.answers publisher = true → ∃ o ∈ other.objects, ∃ p ∈ o.procedures,
              p.name = subscriber.name ∧ o.name = subscriber.objectName ∧
              .of other o p .subscriber ∈ links.subscribers) := by
  intro store a g work known
  have hapart : ToldApart a.extensions := .of_ofSource hread hname hslash hids
  have hstored : g = PropertyGraph.empty.storing a :=
    Store.graphAfter_eq_storing (s := store) rfl rfl a _
  refine ⟨(Store.run_save_eq_ok_iff rfl rfl a).2 hapart.storable, ?_, fun answers hanswers => ?_⟩
  · obtain ⟨records, hrecords⟩ := g.exists_answers (.eventProcedures (.string name))
    refine ⟨[records], ?_⟩
    rw [PropertyGraph.AnswersTo, (run_eventLinks database (.string name) [records]).2]
    exact .cons hrecords .nil
  have hrun := run_eventLinks database (.string name) answers
  rw [PropertyGraph.AnswersTo, hrun.2] at hanswers
  cases hanswers with
  | cons hanswer _ =>
      rw [hstored] at hanswer
      obtain ⟨hunknown, hlinks⟩ := hapart.ofRecords_of_answers hanswer
      have hknown : known ↔ ∃ role e o p, Fits batch name role e o p := hapart.exists_event_iff
      refine ⟨⟨fun herror hk => ?_, fun hk => hrun.1.trans (hunknown (mt hknown.2 hk))⟩,
        fun hk => ?_⟩
      · obtain ⟨publishers, subscribers, hok, -⟩ := hlinks (hknown.1 hk)
        rw [hrun.1, List.head?_cons, Option.getD_some, hok] at herror
        cases herror
      · obtain ⟨publishers, subscribers, hok, hpublishers, hsubscribers⟩ := hlinks (hknown.1 hk)
        refine ⟨⟨name, publishers, subscribers⟩, hrun.1.trans hok, rfl, hpublishers, hsubscribers,
          ?_⟩
        rintro e - publisher - - rfl other hother subscriber hsubscriber hanswers
        obtain ⟨o, p, hfits, hp, ho⟩ := hapart.exists_fits hother hsubscriber hanswers
        exact ⟨o, hfits.object, p, hfits.procedure, hp, ho,
          (hsubscribers _).2 ⟨other, o, p, hfits, rfl⟩⟩

/-- What is read from a file with one event procedure. -/
def eventFile (name mark procedure : String) (role : EventRole) : Extension where
  name
  path := name ++ ".al"
  objects := [⟨.codeunit, 80, "Post", none, [],
    [{ name := procedure, isEvent := true, eventRole := some role }]⟩]
  events := [⟨procedure, some role, .codeunit, "Post", []⟩]
  source := "codeunit 80 Post \x7b [" ++ mark ++ "] procedure " ++ procedure ++ "(); \x7d"

/-- A publisher and a subscriber whose name contains its name are listed for that name. -/
theorem eventLinks_save_post :
    let raising := eventFile "Sales" "IntegrationEvent" "OnPost" .publisher
    let reacting := eventFile "Stock" "EventSubscriber" "HandleOnPost" .subscriber
    let batch := [raising, reacting]
    let store : Store := { database := .standard, schema := Schema.standard.statements.map .ok }
    let g := store.graphAfter (.ofExtensions false batch []) .empty
    let work := eventLinks .standard (.string "onpost")
    (∀ e ∈ batch, ∃ source path, Extension.ofSource source path = .ok e) ∧
      (∀ e ∈ batch, e.name ≠ "") ∧ (∀ e ∈ batch, '/' ∉ e.name.toList) ∧
      (batch.flatMap fun e => e.objects.map e.objectId).Nodup ∧
      ∃ answers links, g.AnswersTo work answers ∧ (work.run.run { answers }).1 = .ok links ∧
        ⟨"Sales/codeunit/80/OnPost", "OnPost", "Post", some "publisher"⟩ ∈ links.publishers ∧
        ⟨"Stock/codeunit/80/HandleOnPost", "HandleOnPost", "Post", some "subscriber"⟩ ∈
          links.subscribers := by
  intro raising reacting batch store g work
  have hsources : ∀ e ∈ batch, Extension.ofSource e.source e.path = .ok e := by decide +kernel
  have hread : ∀ e ∈ batch, ∃ source path, Extension.ofSource source path = .ok e :=
    fun e he => ⟨_, _, hsources e he⟩
  have hname : ∀ e ∈ batch, e.name ≠ "" := by decide
  have hslash : ∀ e ∈ batch, '/' ∉ e.name.toList := by decide
  have hids : (batch.flatMap fun e => e.objects.map e.objectId).Nodup := by decide +kernel
  have hknown : ∃ e ∈ batch, ∃ event ∈ e.events, eventNamesMatch event.name "onpost" = true := by
    decide +kernel
  obtain ⟨-, ⟨answers, hanswers⟩, hall⟩ :=
    eventLinks_save .standard Schema.standard false [] hread hname hslash hids "onpost"
  obtain ⟨links, hok, -, hpublishers, hsubscribers, -⟩ := (hall answers hanswers).2 hknown
  refine ⟨hread, hname, hslash, hids, answers, links, hanswers, hok, (hpublishers _).2 ?_,
    (hsubscribers _).2 ?_⟩
  · exact ⟨raising, _, _, ⟨List.mem_cons_self, List.mem_singleton_self _,
      List.mem_singleton_self _, rfl, by decide +kernel⟩, by decide +kernel⟩
  · exact ⟨reacting, _, _, ⟨List.mem_cons_of_mem _ (List.mem_singleton_self _),
      List.mem_singleton_self _, List.mem_singleton_self _, rfl, by decide +kernel⟩,
      by decide +kernel⟩

end Graph

end ExtensionAtlas
