import ExtensionAtlas.Proofs.Files.Path
import ExtensionAtlas.Proofs.Text.Trimming
import ExtensionAtlas.Proofs.Traversal
import ExtensionAtlas.Source.File

/-! What holds of all that is read from source texts, whatever they say. The names of procedures are
trimmed, and the role of a procedure depends on its name and the body around it alone, so procedures
of one object that share a name share a role. The events of an extension are the procedures that
have one. -/

namespace ExtensionAtlas

/-- What holds of a procedure that was read from a body. -/
structure Procedure.IsRead (body : List Char) (p : Procedure) : Prop where
  trimmed : Text.Trimmed p.name.toList
  role : p.eventRole = EventRole.find? body p.name.toList
  isEvent : p.isEvent = p.eventRole.isSome

theorem Procedure.isRead_of_mem_scan {body : List Char} {p : Procedure} (h : p ∈ scan body) :
    p.IsRead body := by
  obtain ⟨m, -, rfl⟩ := List.mem_map.1 h
  have hname : (ofMatch body m).name.toList = Text.strip (m.text .name) := String.toList_ofList
  refine ⟨?_, ?_, rfl⟩
  · rw [hname]
    exact Text.trimmed_strip _
  · rw [hname]
    rfl

theorem Object.ofBody_eq_ok_iff {header : Header} {body : List Char} {o : Object} :
    ofBody header body = .ok o ↔ ∃ fields, Field.scan body = .ok fields ∧
      o = ⟨header.kind, header.id, header.name, header.base, fields, Procedure.scan body⟩ := by
  rw [ofBody]
  cases Field.scan body <;> simp [eq_comm]

theorem Object.scan_eq_ok_iff {source : List Char} {objects : List Object} :
    scan source = .ok objects ↔ ∃ headers, Header.scan source = .ok headers ∧
      headers.mapM (fun header => ofBody header (Source.body source header.bodyStart)) =
        .ok objects := by
  rw [scan]
  cases Header.scan source <;> simp

/-- The procedures of an object that was found are those in its body. -/
theorem Object.exists_body {source : List Char} {objects : List Object}
    (h : scan source = .ok objects) {o : Object} (ho : o ∈ objects) :
    ∃ body, o.procedures = Procedure.scan body := by
  obtain ⟨headers, -, hbodies⟩ := scan_eq_ok_iff.1 h
  obtain ⟨header, -, hbody⟩ := exists_of_mem_mapM hbodies ho
  obtain ⟨fields, -, rfl⟩ := ofBody_eq_ok_iff.1 hbody
  exact ⟨_, rfl⟩

theorem Extension.ofSource_eq_ok_iff {source path : String} {e : Extension} :
    ofSource source path = .ok e ↔ ∃ objects, Object.scan source.toList = .ok objects ∧
      e = ⟨nameOfPath path, path, objects, objects.flatMap Object.events,
        objects.flatMap Object.derivedFields, Dependency.scan source.toList, source⟩ := by
  rw [ofSource]
  cases Object.scan source.toList <;> simp [eq_comm]

/-- What holds of an extension that was read from a source text. -/
structure Extension.IsRead (e : Extension) : Prop where
  procedures : ∀ o ∈ e.objects, ∃ body, ∀ p ∈ o.procedures, p.IsRead body
  events : e.events = e.objects.flatMap Object.events

theorem Extension.isRead_of_ofSource {source path : String} {e : Extension}
    (h : ofSource source path = .ok e) : e.IsRead := by
  obtain ⟨objects, hscan, rfl⟩ := ofSource_eq_ok_iff.1 h
  refine ⟨fun o ho => ?_, rfl⟩
  obtain ⟨body, hbody⟩ := Object.exists_body hscan ho
  exact ⟨body, fun p hp => Procedure.isRead_of_mem_scan (hbody ▸ hp)⟩

/-- An extension is named after a file, whose name holds no slash. -/
theorem Extension.slash_notMem_name {source path : String} {e : Extension}
    (h : ofSource source path = .ok e) : '/' ∉ e.name.toList := by
  obtain ⟨objects, -, rfl⟩ := ofSource_eq_ok_iff.1 h
  have hslash := Path.slash_notMem_name path
  show '/' ∉ (nameOfPath path).toList
  rw [nameOfPath]
  split
  · rw [String.toList_ofList]
    exact fun hmem => hslash (List.mem_of_mem_take hmem)
  · rwa [String.ofList_toList]

namespace Extension.IsRead

variable {e : Extension} {o : Object}

/-- Procedures of one object that share a name share a role. -/
theorem eventRole_eq (h : e.IsRead) (ho : o ∈ e.objects) {p q : Procedure} (hp : p ∈ o.procedures)
    (hq : q ∈ o.procedures) (hname : p.name = q.name) : p.eventRole = q.eventRole := by
  obtain ⟨body, hbody⟩ := h.procedures o ho
  rw [(hbody p hp).role, (hbody q hq).role, hname]

theorem isEvent_eq (h : e.IsRead) (ho : o ∈ e.objects) {p : Procedure} (hp : p ∈ o.procedures) :
    p.isEvent = p.eventRole.isSome :=
  have ⟨_, hbody⟩ := h.procedures o ho
  (hbody p hp).isEvent

theorem trimmed_name (h : e.IsRead) (ho : o ∈ e.objects) {p : Procedure}
    (hp : p ∈ o.procedures) : Text.Trimmed p.name.toList :=
  have ⟨_, hbody⟩ := h.procedures o ho
  (hbody p hp).trimmed

/-- Every event of an extension is a procedure that has a role. -/
theorem exists_procedure (h : e.IsRead) {event : Event} (hevent : event ∈ e.events) :
    ∃ o ∈ e.objects, ∃ p ∈ o.procedures, ∃ role, p.name = event.name ∧
      o.name = event.objectName ∧ event.role = some role ∧ p.eventRole = some role := by
  rw [h.events] at hevent
  obtain ⟨o, ho, hevent⟩ := List.mem_flatMap.1 hevent
  obtain ⟨p, hp, rfl⟩ := List.mem_map.1 hevent
  obtain ⟨hp, hisEvent⟩ := List.mem_filter.1 hp
  rw [h.isEvent_eq ho hp] at hisEvent
  obtain ⟨role, hrole⟩ := Option.isSome_iff_exists.1 hisEvent
  exact ⟨o, ho, p, hp, role, rfl, rfl, hrole, hrole⟩

/-- Every procedure that has a role is an event. -/
theorem exists_event (h : e.IsRead) (ho : o ∈ e.objects) {p : Procedure} (hp : p ∈ o.procedures)
    {role : EventRole} (hrole : p.eventRole = some role) :
    ∃ event ∈ e.events, event.name = p.name := by
  have hisEvent : p.isEvent = true := by
    rw [h.isEvent_eq ho hp, hrole]
    rfl
  rw [h.events]
  exact ⟨_, List.mem_flatMap.2 ⟨o, ho, List.mem_map_of_mem (List.mem_filter.2 ⟨hp, hisEvent⟩)⟩, rfl⟩

end Extension.IsRead

end ExtensionAtlas
