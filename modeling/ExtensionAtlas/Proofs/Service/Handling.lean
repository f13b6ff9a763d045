import ExtensionAtlas.Service.App

/-! How a request is handled. A request that reaches an endpoint is served there; one that reaches
none, or an endpoint that puts no question to the graph, is answered alike in every state of the
service. -/

namespace ExtensionAtlas.Service

/-- Whether an endpoint puts a question to the graph. -/
def Endpoint.asksGraph : Endpoint → Bool
  | health | analyze => false
  | integrations | events | objectExtensions => true

namespace Request

/-- The endpoint that a request reaches. -/
def endpoint? (r : Request) : Option Endpoint :=
  (Endpoint.ofPath? r.path).filter (·.method == r.method)

/-- Whether a request reaches an endpoint that puts a question to the graph. -/
def asksGraph (r : Request) : Bool :=
  r.endpoint?.any (·.asksGraph)

end Request

theorem Endpoint.ofPath?_path (e : Endpoint) : ofPath? e.path = some e := by
  cases e <;> decide +kernel

theorem Request.endpoint?_of_path {r : Request} {e : Endpoint} (hpath : r.path = e.path)
    (hmethod : r.method = e.method) : r.endpoint? = some e := by
  rw [endpoint?, hpath, Endpoint.ofPath?_path, Option.filter_some, hmethod, beq_self_eq_true]
  rfl

namespace App

theorem handle_of_endpoint {r : Request} {e : Endpoint} (h : r.endpoint? = some e) :
    handle r = serve r e := by
  obtain ⟨hpath, hmethod⟩ := Option.filter_eq_some_iff.1 h
  have hhead : (r.method == "HEAD") = false := by
    rw [← beq_iff_eq.1 hmethod]
    cases e <;> decide
  rw [handle, hhead, hpath]
  exact if_pos hmethod

/-- A request that reaches no endpoint is refused, whatever the state of the service. -/
theorem handle_of_no_endpoint {r : Request} (h : r.endpoint? = none) :
    ∃ response, handle r = pure response := by
  have hanswer (answer : Response) : ∃ response,
      (if r.method == "HEAD" then (fun answer => .bare answer.status) <$> pure answer
        else pure answer : Serving Response) = pure response := by
    split
    · exact ⟨_, map_pure _ _⟩
    · exact ⟨_, rfl⟩
  rw [handle]
  cases hpath : Endpoint.ofPath? r.path with
  | none => exact hanswer _
  | some e =>
      have hmethod : ¬(e.method == r.method) = true := by
        simpa [Request.endpoint?, hpath, Option.filter] using h
      dsimp only
      rw [if_neg hmethod]
      exact hanswer _

/-- A request that does not ask the graph is answered alike in every state of the service, and
leaves it as it is. -/
theorem handle_of_not_asksGraph {r : Request} (h : r.asksGraph = false) :
    ∃ response, handle r = pure response := by
  cases hendpoint : r.endpoint? with
  | none => exact handle_of_no_endpoint hendpoint
  | some e =>
      rw [handle_of_endpoint hendpoint]
      cases e with
      | health | analyze => exact ⟨_, rfl⟩
      | integrations | events | objectExtensions =>
          simp [Request.asksGraph, hendpoint, Endpoint.asksGraph] at h

/-- A question leaves everything but the connection as it is. -/
theorem run_ask (question : Graph.Work Json) (app : App) :
    (ask question).run app =
      ((match (question.run.run app.connection).1 with
        | .ok document => .document document
        | .error fault => ofFault fault),
        { app with connection := (question.run.run app.connection).2 }) := by
  rcases hrun : question.run.run app.connection with ⟨fault | document, c⟩ <;>
    simp only [ask, StateT.run_bind, StateT.run_get, pure_bind, hrun] <;> rfl

/-- A connection is asked for if there is none and there are settings to make it with. -/
theorem run_connected (app : App) :
    connected.run app =
      match app.database, app.settings.elim (ConnectionSettings.load app.env) .ok with
      | some database, _ => (.ok database, app)
      | none, .error fault => (.error (.detail 503 fault.message), app)
      | none, .ok settings =>
        match app.connection.complaint? settings with
        | none =>
          (.ok settings.database,
            { app with
              database := some settings.database
              ownsConnection := true
              connection := app.connection.make settings })
        | some _ =>
          (.error .crash,
            { app with
              connection := { app.connection with
                refused := app.connection.refused ++ [settings] } }) := by
  rcases hdatabase : app.database with _ | database
  · rcases hfound : app.settings.elim (ConnectionSettings.load app.env) .ok with _ | settings
    · simp only [connected, StateT.run_bind, StateT.run_get, pure_bind, hdatabase, hfound]
      rfl
    · rcases hcomplaint : app.connection.complaint? settings with _ | complaint <;>
        simp only [connected, StateT.run_bind, StateT.run_get, pure_bind, hdatabase, hfound,
          Graph.Connection.attempt, hcomplaint] <;> rfl
  · simp only [connected, StateT.run_bind, StateT.run_get, pure_bind, hdatabase]
    rfl

end App

end ExtensionAtlas.Service
