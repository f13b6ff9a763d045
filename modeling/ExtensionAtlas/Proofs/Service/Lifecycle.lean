import ExtensionAtlas.Proofs.Graph.Interruption
import ExtensionAtlas.Proofs.Service.Handling
import Mathlib.Data.List.Forall2

/-! The connection of a running service. Whatever requests come, the service makes a connection at
most once, for the first request that asks the graph while there are settings to make it with, and
closes it when it stops. Settings that are refused are tried again by each such request. A
connection that it was started with is neither made nor closed by it. What a request that does not
ask the graph is answered has nothing to do with any of this. -/

namespace ExtensionAtlas

namespace Graph.Work.KeepsOpen

theorem ask (database : Database) (statement : Statement) : KeepsOpen (ask database statement) :=
  bind (openSession database) fun _ => execute statement

theorem extensionEdges (database : Database) (extension : Json) :
    KeepsOpen (extensionEdges database extension) := by
  refine (ask _ _).bind fun found => ?_
  have hread : KeepsOpen (do
      let outgoing ← Graph.ask database (.outgoing extension)
      let incoming ← Graph.ask database (.incoming extension)
      ExceptT.mk (pure (ExtensionEdges.ofRecords extension outgoing incoming))) :=
    (ask _ _).bind fun _ => (ask _ _).bind fun _ => result _
  split
  · exact bind (result (.error _)) fun _ => hread
  · exact hread

theorem eventLinks (database : Database) (event : Json) : KeepsOpen (eventLinks database event) :=
  (ask _ _).bind fun _ => result _

theorem objectExtensions (database : Database) (base : Json) :
    KeepsOpen (objectExtensions database base) :=
  (ask _ _).bind fun _ => result _

end Graph.Work.KeepsOpen

namespace ConnectionSettings

/-- The settings that a connection can be made with: those that are passed in, or else those of the
environment. -/
def available? (settings : Option ConnectionSettings) (env : Environment) :
    Option ConnectionSettings :=
  (settings.elim (load env) .ok).toOption

end ConnectionSettings

namespace Service

open Graph.Work (KeepsOpen)

namespace App

section Run

/-- The settings that a service tries to connect with as long as it has no connection. -/
def candidate? (start : App) : Option ConnectionSettings :=
  if start.database.isSome then none
  else ConnectionSettings.available? start.settings start.env

/-- The settings of the connections that a service has made when some requests have asked the graph
since its start. -/
def connectionsMade (start : App) (asked : Nat) : List ConnectionSettings :=
  (start.candidate?.filter fun found =>
    (start.connection.complaint? found).isNone && asked != 0).toList

/-- The settings that a service has had refused when some requests have asked the graph since its
start. -/
def connectionsRefused (start : App) (asked : Nat) : List ConnectionSettings :=
  (start.candidate?.filter fun found => (start.connection.complaint? found).isSome).elim []
    (List.replicate asked)

/-- How a service stands after some requests have asked the graph since its start. -/
structure Stands (start : App) (asked : Nat) (app : App) : Prop where
  settings_eq : app.settings = start.settings
  env_eq : app.env = start.env
  complaint_eq : app.connection.complaint? = start.connection.complaint?
  opened_eq : app.connection.opened = connectionsMade start asked
  refused_eq : app.connection.refused = connectionsRefused start asked
  database_eq : app.database =
    start.database.or ((connectionsMade start asked).head?.map (·.database))
  ownsConnection_eq : app.ownsConnection = !(connectionsMade start asked).isEmpty
  closed_eq : app.connection.closed = 0

variable {start app : App} {asked : Nat} {found : ConnectionSettings}

/-- Without settings nothing is tried. -/
theorem connections_of_none (h : start.candidate? = none) (asked : Nat) :
    connectionsMade start asked = [] ∧ connectionsRefused start asked = [] := by
  simp [connectionsMade, connectionsRefused, h]

/-- With settings that are accepted the first question makes the connection. -/
theorem connections_of_accepted (h : start.candidate? = some found)
    (haccepted : start.connection.complaint? found = none) (asked : Nat) :
    connectionsMade start asked = (if asked = 0 then [] else [found]) ∧
      connectionsRefused start asked = [] := by
  cases asked <;> simp [connectionsMade, connectionsRefused, h, haccepted, Option.filter]

/-- Settings that are refused are tried for every question. -/
theorem connections_of_refused (h : start.candidate? = some found) {complaint : String}
    (hrefused : start.connection.complaint? found = some complaint) (asked : Nat) :
    connectionsMade start asked = [] ∧
      connectionsRefused start asked = List.replicate asked found := by
  simp [connectionsMade, connectionsRefused, h, hrefused, Option.filter]

/-- A service with a connection tries no other one. -/
theorem connections_succ_of_reached
    (h : start.database.isSome = true ∨ connectionsMade start asked ≠ []) :
    connectionsMade start (asked + 1) = connectionsMade start asked ∧
      connectionsRefused start (asked + 1) = connectionsRefused start asked := by
  cases hcandidate : start.candidate? with
  | none =>
      have hnone := connections_of_none hcandidate
      rw [(hnone _).1, (hnone _).1, (hnone _).2, (hnone _).2]
      exact ⟨rfl, rfl⟩
  | some found =>
      have hdatabase : ¬start.database.isSome = true := fun hsome => by
        rw [candidate?, if_pos hsome] at hcandidate
        cases hcandidate
      have hmade := h.resolve_left hdatabase
      cases hcomplaint : start.connection.complaint? found with
      | some complaint =>
          exact absurd (connections_of_refused hcandidate hcomplaint asked).1 hmade
      | none =>
          have haccepted := connections_of_accepted hcandidate hcomplaint
          rw [(haccepted asked).1] at hmade
          rw [(haccepted _).1, (haccepted _).1, (haccepted _).2, (haccepted _).2]
          exact ⟨(if_neg (Nat.succ_ne_zero _)).trans
            (if_neg fun hzero => hmade (if_pos hzero)).symm, rfl⟩

namespace Stands

/-- A service that goes on as it is stands as before if that makes no difference. -/
theorem congr {asked' : Nat} (h : Stands start asked app)
    (hmade : connectionsMade start asked' = connectionsMade start asked)
    (hrefused : connectionsRefused start asked' = connectionsRefused start asked) :
    Stands start asked' app where
  settings_eq := h.settings_eq
  env_eq := h.env_eq
  complaint_eq := h.complaint_eq
  opened_eq := h.opened_eq.trans hmade.symm
  refused_eq := h.refused_eq.trans hrefused.symm
  database_eq := hmade ▸ h.database_eq
  ownsConnection_eq := hmade ▸ h.ownsConnection_eq
  closed_eq := h.closed_eq

/-- A connection is made for the first question if the settings are accepted. -/
theorem accepted (h : Stands start asked app) (hcandidate : start.candidate? = some found)
    (haccepted : start.connection.complaint? found = none) (hdatabase : app.database = none) :
    Stands start (asked + 1) { app with
      database := some found.database
      ownsConnection := true
      connection := app.connection.make found } := by
  obtain ⟨hstart, hmade⟩ := Option.or_eq_none_iff.1 (h.database_eq.symm.trans hdatabase)
  rw [Option.map_eq_none_iff, List.head?_eq_none_iff] at hmade
  have hconnections := connections_of_accepted hcandidate haccepted
  have hone : connectionsMade start (asked + 1) = [found] := (hconnections _).1
  refine ⟨h.settings_eq, h.env_eq, h.complaint_eq, ?_, ?_, ?_, ?_, h.closed_eq⟩
  · change app.connection.opened ++ [found] = _
    rw [h.opened_eq, hmade, hone, List.nil_append]
  · exact h.refused_eq.trans ((hconnections _).2.trans (hconnections _).2.symm)
  · rw [hone, hstart]
    rfl
  · rw [hone]
    rfl

/-- Settings that are refused leave the service as it was. -/
theorem refused (h : Stands start asked app) (hcandidate : start.candidate? = some found)
    {complaint : String} (hrefused : start.connection.complaint? found = some complaint) :
    Stands start (asked + 1) { app with
      connection := { app.connection with refused := app.connection.refused ++ [found] } } := by
  have hconnections := connections_of_refused hcandidate hrefused
  have hmade : connectionsMade start (asked + 1) = connectionsMade start asked :=
    (hconnections _).1.trans (hconnections _).1.symm
  refine ⟨h.settings_eq, h.env_eq, h.complaint_eq, h.opened_eq.trans hmade.symm, ?_,
    hmade ▸ h.database_eq, hmade ▸ h.ownsConnection_eq, h.closed_eq⟩
  change app.connection.refused ++ [found] = _
  rw [h.refused_eq, (hconnections _).2, (hconnections _).2, List.replicate_succ']

/-- Before a question there is a connection, unless there is nothing to make it with. -/
theorem connected (h : Stands start asked app) :
    Stands start (asked + 1) (connected.run app).2 := by
  have hcandidate (hdatabase : start.database = none) : start.candidate? =
      (app.settings.elim (ConnectionSettings.load app.env) .ok).toOption := by
    rw [candidate?, hdatabase, h.settings_eq, h.env_eq]
    rfl
  rw [run_connected]
  rcases hdatabase : app.database with _ | reached
  · have hstart := (Option.or_eq_none_iff.1 (h.database_eq.symm.trans hdatabase)).1
    rcases hfound : app.settings.elim (ConnectionSettings.load app.env) .ok with fault | found
    · have hnone := connections_of_none ((hcandidate hstart).trans (by rw [hfound]; rfl))
      exact h.congr ((hnone _).1.trans (hnone _).1.symm) ((hnone _).2.trans (hnone _).2.symm)
    · have hsome : start.candidate? = some found := (hcandidate hstart).trans (by rw [hfound]; rfl)
      rcases hcomplaint : app.connection.complaint? found with _ | complaint
      · simpa only [hcomplaint] using h.accepted hsome (h.complaint_eq ▸ hcomplaint) hdatabase
      · simpa only [hcomplaint, hdatabase] using h.refused hsome (h.complaint_eq ▸ hcomplaint)
  · have hreached : start.database.isSome = true ∨ connectionsMade start asked ≠ [] := by
      by_contra hnot
      rw [not_or, Bool.not_eq_true, Option.isSome_eq_false_iff, Option.isNone_iff_eq_none,
        not_not] at hnot
      rw [h.database_eq, hnot.1, hnot.2] at hdatabase
      cases hdatabase
    exact h.congr (connections_succ_of_reached hreached).1 (connections_succ_of_reached hreached).2

theorem ask (h : Stands start asked app) {question : Graph.Work Json}
    (hquestion : question.KeepsOpen) : Stands start asked ((App.ask question).run app).2 := by
  rw [run_ask]
  exact ⟨h.settings_eq, h.env_eq, (hquestion.complaint _).trans h.complaint_eq,
    (hquestion.opened _).trans h.opened_eq, (hquestion.refused _).trans h.refused_eq,
    h.database_eq, h.ownsConnection_eq, (hquestion.closed _).trans h.closed_eq⟩

theorem askAbout (h : Stands start asked app) (r : Request) (key : String)
    {question : Database → Json → Graph.Work Json}
    (hquestion : ∀ database value, (question database value).KeepsOpen) :
    Stands start (asked + 1) ((App.askAbout r key question).run app).2 := by
  have hconnected := h.connected
  rw [App.askAbout, StateT.run_bind]
  rcases hrun : App.connected.run app with ⟨response | reached, app'⟩ <;>
    rw [hrun] at hconnected
  · exact hconnected
  · cases r.parameter? key with
    | none => exact hconnected
    | some value => exact hconnected.ask (hquestion reached (.string value))

/-- A request counts if it asks the graph. -/
theorem handle (h : Stands start asked app) (r : Request) :
    Stands start (asked + if r.asksGraph then 1 else 0) ((App.handle r).run app).2 := by
  cases hasks : r.asksGraph with
  | false =>
      obtain ⟨response, hhandle⟩ := handle_of_not_asksGraph hasks
      rw [hhandle]
      exact h
  | true =>
      obtain ⟨e, hendpoint, hasks⟩ := (Option.any_eq_true _ _).1 hasks
      rw [handle_of_endpoint hendpoint]
      cases e with
      | health | analyze => cases hasks
      | integrations =>
          rw [serve]
          exact h.askAbout r "extension" fun _ _ => (KeepsOpen.extensionEdges _ _).map _
      | events =>
          rw [serve]
          exact h.askAbout r "name" fun _ _ => (KeepsOpen.eventLinks _ _).map _
      | objectExtensions =>
          rw [serve]
          exact h.askAbout r "name" fun _ _ => (KeepsOpen.objectExtensions _ _).map _

/-- A service closes what it made when it stops. -/
theorem stop (h : Stands start asked app) (hmade : (connectionsMade start asked).length ≤ 1) :
    app.stop.connection.opened = connectionsMade start asked ∧
      app.stop.connection.closed = (connectionsMade start asked).length := by
  rw [App.stop, h.ownsConnection_eq]
  match hmade' : connectionsMade start asked, hmade with
  | [], _ => exact ⟨h.opened_eq.trans hmade', h.closed_eq⟩
  | [_], _ => exact ⟨h.opened_eq.trans hmade', congrArg (· + 1) h.closed_eq⟩

end Stands

end Run

end App

end Service

end ExtensionAtlas
