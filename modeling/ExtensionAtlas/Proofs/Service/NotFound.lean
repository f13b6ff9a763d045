import ExtensionAtlas.Proofs.Graph.EventLinks
import ExtensionAtlas.Proofs.Graph.ExtensionEdges
import ExtensionAtlas.Proofs.Service.Handling

/-! When a question to the graph is answered that something is not found. That is so if nothing is
found, and also if reading the records stops at one that lacks a member. A record that is no object
or has a member of the wrong type is never reported in this way. -/

namespace ExtensionAtlas.Service

open Document (Checked)
open ExtensionAtlas.Graph

/-- Whether a record is an object without one of some members. -/
def Lacks (keys : List String) (record : Json) : Prop :=
  ∃ members, record = .object members ∧ ∃ key ∈ keys, members.lookup key = none

/-- Reading the records of edges stops at one that lacks a member. -/
def EdgesLack (records : List Json) : Prop :=
  StopsAt EdgeRow.ofRecord (Lacks ["source", "target", "kind", "description"]) records

/-- Reads the node of a procedure if it has some role. -/
def procedureIn (role : EventRole) (node : Json) : Except Fault (Option ProcedureRef) := do
  if ← hasRole role node then some <$> ProcedureRef.ofRecord node else pure none

/-- Reading the nodes of procedures, for the one role and then for the other, stops at one of that
role that lacks a member. -/
def ProceduresLack (nodes : List Json) : Prop :=
  StopsAt (fun (role, node) => procedureIn role node)
    (fun (role, node) => node.get? "eventRole" = some (.string role.label) ∧
      Lacks ["id", "name", "objectName"] node)
    (nodes.map (Prod.mk EventRole.publisher) ++ nodes.map (Prod.mk .subscriber))

/-- Reading the records of objects stops at one that lacks its node or whose node lacks a member. -/
def ObjectsLack (records : List Json) : Prop :=
  StopsAt (fun record => needed "o" record >>= ObjectRef.ofRecord)
    (fun record => Lacks ["o"] record ∨
      ∃ node, record.get? "o" = some node ∧ Lacks ["id", "name", "kind", "extension"] node)
    records

/-- Whether a result is a fault that is reported as something that is not found. -/
def IsNotFound {α : Type} (result : Except Fault α) : Prop :=
  ∃ fault, result = .error fault ∧ (ofFault fault).status = 404

section Results

variable {α β : Type} {x : Except Fault α} {f : α → Except Fault β}

theorem isNotFound_error_iff {fault : Fault} :
    IsNotFound (.error fault : Except Fault α) ↔ (ofFault fault).status = 404 := by
  simp [IsNotFound]

theorem not_isNotFound_ok (a : α) : ¬IsNotFound (.ok a) := by
  rintro ⟨fault, hfault, -⟩
  cases hfault

theorem isNotFound_bind :
    IsNotFound (x >>= f) ↔ IsNotFound x ∨ ∃ a, x = .ok a ∧ IsNotFound (f a) := by
  cases x with
  | error fault => simp [isNotFound_error_iff, bind, Except.bind]
  | ok a => simp [not_isNotFound_ok, bind, Except.bind]

theorem isNotFound_map {g : α → β} : IsNotFound (g <$> x) ↔ IsNotFound x := by
  cases x <;> simp [IsNotFound, Functor.map, Except.map]

/-- The check of a document has issues, but finds everything. -/
theorem not_isNotFound_orFault (checked : Checked α) : ¬IsNotFound checked.orFault := by
  cases checked with
  | valid value => exact not_isNotFound_ok value
  | refused issues =>
      rw [Checked.orFault, Checked.toExcept, Except.mapError, isNotFound_error_iff]
      simp [ofFault, Response.status]

theorem isNotFound_mapM {xs : List α} :
    IsNotFound (xs.mapM f) ↔ StopsAt f (fun x => IsNotFound (f x)) xs := by
  simp only [IsNotFound, mapM_eq_error_iff, StopsAt]
  constructor
  · rintro ⟨fault, ⟨front, x, back, hxs, hfront, hx⟩, hstatus⟩
    exact ⟨front, x, back, hxs, hfront, fault, hx, hstatus⟩
  · rintro ⟨front, x, back, hxs, hfront, fault, hx, hstatus⟩
    exact ⟨fault, ⟨front, x, back, hxs, hfront, hx⟩, hstatus⟩

end Results

section Records

variable {α : Type} {record : Json}

theorem not_lacks_nil : ¬Lacks [] record := by
  rintro ⟨_, -, key, hkey, -⟩
  cases hkey

theorem lacks_object_cons {members : List (String × Json)} {key : String} {keys : List String} :
    Lacks (key :: keys) (.object members) ↔
      members.lookup key = none ∨ Lacks keys (.object members) := by
  simp [Lacks]

theorem isNotFound_needed {key : String} : IsNotFound (needed key record) ↔ Lacks [key] record := by
  cases record with
  | object members =>
      rw [needed]
      cases hlookup : members.lookup key with
      | none => simp [isNotFound_error_iff, ofFault, Response.status, lacks_object_cons, hlookup]
      | some value => simp [not_isNotFound_ok, lacks_object_cons, hlookup, not_lacks_nil]
  | _ => simp [needed, isNotFound_error_iff, ofFault, Response.status, Lacks]

/-- Members are needed one after another. -/
theorem isNotFound_needed_bind {key : String} {keys : List String} {f : Json → Except Fault α}
    (h : ∀ value, IsNotFound (f value) ↔ Lacks keys record) :
    IsNotFound (needed key record >>= f) ↔ Lacks (key :: keys) record := by
  rw [isNotFound_bind, isNotFound_needed]
  simp only [h]
  cases record with
  | object members =>
      cases hlookup : members.lookup key <;>
        simp [lacks_object_cons, not_lacks_nil, needed, hlookup]
  | _ => simp [Lacks]

theorem isNotFound_ofRecord_edge : IsNotFound (EdgeRow.ofRecord record) ↔
    Lacks ["source", "target", "kind", "description"] record := by
  refine isNotFound_needed_bind fun source => isNotFound_needed_bind fun target =>
    isNotFound_needed_bind fun kind => isNotFound_needed_bind fun description => ?_
  exact iff_of_false (not_isNotFound_orFault _) not_lacks_nil

theorem isNotFound_ofRecord_procedure : IsNotFound (ProcedureRef.ofRecord record) ↔
    Lacks ["id", "name", "objectName"] record := by
  refine isNotFound_needed_bind fun id => isNotFound_needed_bind fun name =>
    isNotFound_needed_bind fun object => ?_
  exact iff_of_false (not_isNotFound_orFault _) not_lacks_nil

theorem isNotFound_ofRecord_object : IsNotFound (ObjectRef.ofRecord record) ↔
    Lacks ["id", "name", "kind", "extension"] record := by
  refine isNotFound_needed_bind fun id => isNotFound_needed_bind fun name =>
    isNotFound_needed_bind fun kind => isNotFound_needed_bind fun extension => ?_
  exact iff_of_false (not_isNotFound_orFault _) not_lacks_nil

/-- The node in a record, read as an object. -/
theorem isNotFound_needed_object :
    IsNotFound (needed "o" record >>= ObjectRef.ofRecord) ↔ Lacks ["o"] record ∨
      ∃ node, record.get? "o" = some node ∧ Lacks ["id", "name", "kind", "extension"] node := by
  rw [isNotFound_bind, isNotFound_needed]
  simp only [isNotFound_ofRecord_object]
  cases record with
  | object members =>
      cases hlookup : members.lookup "o" <;> simp [needed, Json.get?, hlookup]
  | _ => simp [needed, Json.get?]

theorem proceduresIn_eq (role : EventRole) (nodes : List Json) :
    proceduresIn role nodes =
      (fun found => found.flatMap Option.toList) <$> nodes.mapM (procedureIn role) := by
  induction nodes with
  | nil => rfl
  | cons node nodes ih =>
      have hcons : proceduresIn role (node :: nodes) = procedureIn role node >>= fun first =>
          (first.toList ++ ·) <$> proceduresIn role nodes := by
        rw [proceduresIn, procedureIn, bind_assoc]
        refine bind_congr fun has => ?_
        cases has <;> simp
      rw [hcons, ih, List.mapM_cons]
      simp

theorem not_isNotFound_hasRole (role : EventRole) (node : Json) :
    ¬IsNotFound (hasRole role node) := by
  cases node with
  | object members =>
      rw [hasRole]
      split <;> exact not_isNotFound_ok _
  | _ => simp [hasRole, isNotFound_error_iff, ofFault, Response.status]

theorem hasRole_eq_true_iff {role : EventRole} {node : Json} :
    hasRole role node = .ok true ↔ node.get? "eventRole" = some (.string role.label) := by
  cases node with
  | object members =>
      rw [hasRole, Json.get?]
      split <;> simp_all
  | _ => simp [hasRole, Json.get?]

theorem isNotFound_procedureIn {role : EventRole} {node : Json} :
    IsNotFound (procedureIn role node) ↔
      node.get? "eventRole" = some (.string role.label) ∧
        Lacks ["id", "name", "objectName"] node := by
  rw [procedureIn, isNotFound_bind, or_iff_right (not_isNotFound_hasRole role node),
    ← hasRole_eq_true_iff, ← isNotFound_ofRecord_procedure]
  constructor
  · rintro ⟨has, hrole, hread⟩
    cases has with
    | false => exact absurd hread (not_isNotFound_ok none)
    | true => exact ⟨hrole, isNotFound_map.1 hread⟩
  · rintro ⟨hrole, hread⟩
    exact ⟨true, hrole, isNotFound_map.2 hread⟩

theorem isNotFound_edgesOfRecords (extension : Json) (outgoing incoming : List Json) :
    IsNotFound (ExtensionEdges.ofRecords extension outgoing incoming) ↔
      EdgesLack (outgoing ++ incoming) := by
  rw [EdgesLack, ← stopsAt_congr fun _ => isNotFound_ofRecord_edge, ← isNotFound_mapM,
    List.mapM_append]
  simp [ExtensionEdges.ofRecords, isNotFound_bind, not_isNotFound_orFault, not_isNotFound_ok, pure,
    Except.pure]

/-- The nodes of procedures are read twice, for the one role and then for the other. -/
theorem isNotFound_bothRoles (event : Json) (nodes : List Json) :
    IsNotFound (do
        let publishers ← proceduresIn .publisher nodes
        let subscribers ← proceduresIn .subscriber nodes
        Checked.orFault ((EventLinks.mk · publishers subscribers) <$>
          Document.member Document.textOf "event" (some event))) ↔
      ProceduresLack nodes := by
  rw [ProceduresLack, ← stopsAt_congr fun _ => isNotFound_procedureIn, ← isNotFound_mapM,
    List.mapM_append, List.mapM_map, List.mapM_map]
  simp [proceduresIn_eq, isNotFound_bind, not_isNotFound_orFault, not_isNotFound_ok, pure,
    Except.pure, Function.comp_def]

theorem isNotFound_linksOfRecords (event : Json) (records : List Json) :
    IsNotFound (EventLinks.ofRecords event records) ↔ records = [] ∨
      StopsAt (needed "p") (Lacks ["p"]) records ∨
      ∃ nodes, records.mapM (needed "p") = .ok nodes ∧ ProceduresLack nodes := by
  rw [← stopsAt_congr fun _ => isNotFound_needed, ← isNotFound_mapM]
  simp only [← isNotFound_bothRoles event]
  rw [EventLinks.ofRecords, isNotFound_bind]
  cases records with
  | nil => simp [isNotFound_error_iff, ofFault, Response.status, pure, Except.pure]
  | cons record records =>
      rw [eq_false (List.cons_ne_nil record records), false_or]
      refine or_congr_right (exists_congr fun nodes => and_congr_right fun hnodes => ?_)
      have hsome : nodes.isEmpty = false := by
        obtain ⟨_, _, -, -, rfl⟩ := List.forall₂_cons_left_iff.1 (mapM_eq_ok_iff.1 hnodes)
        rfl
      rw [hsome]
      rfl

theorem isNotFound_extensionsOfRecords (base : Json) (records : List Json) :
    IsNotFound (ObjectExtensions.ofRecords base records) ↔
      records = [] ∨ ObjectsLack records := by
  rw [ObjectsLack, ← stopsAt_congr fun _ => isNotFound_needed_object, ← isNotFound_mapM]
  cases records with
  | nil => simp [ObjectExtensions.ofRecords, isNotFound_error_iff, ofFault, Response.status]
  | cons record records =>
      have hread : ObjectExtensions.ofRecords base (record :: records) =
          (record :: records).mapM (fun record => needed "o" record >>= ObjectRef.ofRecord) >>=
            fun extensions => Checked.orFault ((ObjectExtensions.mk · extensions) <$>
              Document.member Document.textOf "base" (some base)) := rfl
      rw [hread, isNotFound_bind]
      simp [not_isNotFound_orFault]

end Records

section Answers

variable {app : App} {database : Database} {x : String}

theorem status_ask (question : Work Json) :
    ((App.ask question).run app).1.status = 404 ↔
      IsNotFound (question.run.run app.connection).1 := by
  rw [App.run_ask]
  cases (question.run.run app.connection).1 with
  | error fault => exact isNotFound_error_iff.symm
  | ok document => exact iff_of_false (by simp [Response.status]) (not_isNotFound_ok document)

/-- An endpoint that is asked about a value answers as the question on the value comes out. -/
theorem status_askAbout {r : Request} {key : String} (hdatabase : app.database = some database)
    (hvalue : r.parameter? key = some x) {α : Type} (document : α → Json)
    (question : Database → Json → Work α) :
    ((App.askAbout r key fun database value => document <$> question database value).run app
      ).1.status = 404 ↔
      IsNotFound ((question database (.string x)).run.run app.connection).1 := by
  have hask :
      (App.askAbout r key fun database value => document <$> question database value).run app =
        (App.ask (document <$> question database (.string x))).run app := by
    rw [App.askAbout, hvalue, StateT.run_bind, App.run_connected, hdatabase]
    rfl
  have hresult : ((document <$> question database (.string x)).run.run app.connection).1 =
      document <$> ((question database (.string x)).run.run app.connection).1 := by
    rw [ExceptT.run_map, StateT.run_map]
    rfl
  rw [hask, status_ask, hresult, isNotFound_map]

theorem findsSomething_eq_not (records : List Json) :
    findsSomething records = !records.head?.all Json.isEmptyValue := by
  cases records <;> rfl

theorem isNotFound_run_extensionEdges (database : Database) (extension : Json)
    (answers : List (List Json)) :
    IsNotFound ((extensionEdges database extension).run.run { answers }).1 ↔
      (answers.head?.getD []).head?.all Json.isEmptyValue = true ∨
      EdgesLack ((answers.drop 1).head?.getD [] ++ (answers.drop 2).head?.getD []) := by
  have hfinds := findsSomething_eq_not (answers.head?.getD [])
  cases hempty : (answers.head?.getD []).head?.all Json.isEmptyValue with
  | true =>
      rw [hempty] at hfinds
      rw [(run_extensionEdges_of_absent database extension answers hfinds).1, isNotFound_error_iff]
      exact iff_of_true rfl (.inl rfl)
  | false =>
      rw [hempty] at hfinds
      rw [(run_extensionEdges_of_found database extension answers hfinds).1,
        isNotFound_edgesOfRecords, or_iff_right Bool.false_ne_true]

theorem run_objectExtensions (database : Database) (base : Json) (answers : List (List Json)) :
    ((objectExtensions database base).run.run { answers }).1 =
      ObjectExtensions.ofRecords base (answers.head?.getD []) := by
  rw [objectExtensions, run_ask_bind rfl]
  rfl

theorem Request.parameter?_singleton (method path key value : String) :
    (⟨method, path, [(key, value)], none⟩ : Request).parameter? key = some value := by
  simp [parameter?]

end Answers

/-- A service with a connection answers a question on a value that something is not found exactly if
nothing is found or the first record that cannot be read is an object without a member that is
needed. A record of another kind and a member of the wrong type are not reported in this way. -/
theorem status_eq_notFound_iff (settings : Option ConnectionSettings) (env : Environment)
    (database : Database) (answers : List (List Json)) (x : String) :
    let app : App := { settings, env, database := some database, connection := { answers } }
    let status (e : Endpoint) (key : String) : Nat :=
      ((App.handle { method := "GET", path := e.path, parameters := [(key, x)] }).run app).1.status
    let records (i : Nat) : List Json := (answers.drop i).head?.getD []
    (status .integrations "extension" = 404 ↔
      (records 0).head?.all Json.isEmptyValue = true ∨ EdgesLack (records 1 ++ records 2)) ∧
    (status .events "name" = 404 ↔ records 0 = [] ∨
      StopsAt (needed "p") (Lacks ["p"]) (records 0) ∨
      ∃ nodes, (records 0).mapM (needed "p") = .ok nodes ∧ ProceduresLack nodes) ∧
    (status .objectExtensions "name" = 404 ↔ records 0 = [] ∨ ObjectsLack (records 0)) := by
  intro app status records
  have hstatus (e : Endpoint) (key : String) (hmethod : e.method = "GET") :
      status e key = ((App.serve ⟨"GET", e.path, [(key, x)], none⟩ e).run app).1.status := by
    rw [← App.handle_of_endpoint (Request.endpoint?_of_path rfl hmethod.symm)]
  refine ⟨?_, ?_, ?_⟩
  · rw [hstatus _ _ rfl, App.serve, status_askAbout rfl (Request.parameter?_singleton _ _ _ _),
      isNotFound_run_extensionEdges]
    rfl
  · rw [hstatus _ _ rfl, App.serve, status_askAbout rfl (Request.parameter?_singleton _ _ _ _),
      (run_eventLinks database (.string x) answers).1, isNotFound_linksOfRecords]
    rfl
  · rw [hstatus _ _ rfl, App.serve, status_askAbout rfl (Request.parameter?_singleton _ _ _ _),
      run_objectExtensions, isNotFound_extensionsOfRecords]
    rfl

/-- An object that extends the one asked about is found, but its node has no extension. -/
theorem status_eq_notFound_of_found :
    let node : Json := .object [
      ("id", .string "Sales/tableextension/50100"), ("name", .string "Vendor"),
      ("kind", .string "tableextension")]
    let records : List Json := [.object [("o", node)]]
    let app : App := { database := some .standard, connection := { answers := [records] } }
    let r : Request := {
      method := "GET", path := "/object-extensions", parameters := [("name", "Customer")] }
    records ≠ [] ∧ ((App.handle r).run app).1.status = 404 := by
  decide +kernel

end ExtensionAtlas.Service
