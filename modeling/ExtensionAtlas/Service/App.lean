import ExtensionAtlas.Document.Export
import ExtensionAtlas.Graph.Query
import ExtensionAtlas.Service.Body
import ExtensionAtlas.Service.Request
import ExtensionAtlas.Source.File

/-! The service. It answers that it is alive, analyses single source texts, and puts questions to
the graph. The connection to the graph is made for the first request that needs one, unless the
service was started with one, and is closed when the service stops if it was made by it. As long as
it cannot be made, every request that needs one tries again. -/

namespace ExtensionAtlas.Service

open Document (Checked Issue IssueKind member textOf)

/-- An answer to a request. -/
inductive Response where
  | document (content : Json)
  | detail (status : Nat) (text : String)
  /-- The issues of a request that does not have the shape asked for. -/
  | refused (issues : List Issue)
  | crash
  | bare (status : Nat)

def Response.status : Response → Nat
  | document _ => 200
  | detail status _ => status
  | refused _ => 422
  | crash => 500
  | bare status => status

/-- What the service does at its paths. -/
inductive Endpoint where
  | health
  | analyze
  | integrations
  | events
  | objectExtensions
  deriving DecidableEq, Repr

namespace Endpoint

def all : List Endpoint := [health, analyze, integrations, events, objectExtensions]

def path : Endpoint → String
  | health => "/health"
  | analyze => "/analyze"
  | integrations => "/integrations"
  | events => "/events"
  | objectExtensions => "/object-extensions"

def method : Endpoint → String
  | analyze => "POST"
  | _ => "GET"

/-- Whether an endpoint is at a path; a line feed may end the path. -/
def isAt (path : String) (e : Endpoint) : Bool :=
  path == e.path || path == e.path ++ "\n"

/-- The endpoint at a path, or else at the path without the slashes that end it. -/
def ofPath? (path : String) : Option Endpoint :=
  let trimmed := String.ofList (Text.trimEnd (· == '/') path.toList)
  (all.find? (isAt path)).or (all.find? (isAt trimmed))

end Endpoint

/-- The state of the service. -/
structure App where
  settings : Option ConnectionSettings := none
  env : Environment := []
  /-- The database that questions are put to, once there is a connection. -/
  database : Option Database := none
  /-- Whether the service made the connection itself. -/
  ownsConnection : Bool := false
  connection : Graph.Connection := {}

/-- The state of the service as requests change it. -/
abbrev Serving := StateM App

/-- The name and the source text in a document. -/
def sourceOf : Json → Except (List Issue) (String × String)
  | .object members =>
    (Prod.mk <$> member textOf "name" (members.lookup "name")
      <*> member textOf "source" (members.lookup "source")).toExcept
  | _ => .error [⟨[], .notObject⟩]

/-- The part of a document that an issue is about: a member for one of the wrong type, and the whole
document for anything else. -/
def partOf (document : Json) (issue : Issue) : Json :=
  match issue.kind, issue.location with
  | .missing, _ | _, [] => document
  | _, step :: _ =>
    match step with
    | .key name => (document.get? name).getD .null
    | .index _ => document

/-- An issue of a part of a request. -/
def within (part : String) (issue : Issue) : Issue :=
  { issue with location := .key part :: issue.location }

/-- Refuses a document; the answer has to show what the issues are about. -/
def refuse (document : Json) (issues : List Issue) : Response :=
  if issues.all fun issue => Body.canReturn (partOf document issue) then
    .refused (issues.map (within "body"))
  else .crash

/-- Analyses the source text in the body of a request. -/
def analyzeBody (body : Option String) : Response :=
  match body.getD "" with
  | "" => .refused [⟨[.key "body"], .missing⟩]
  | body =>
    match Body.read body with
    | .error .malformed => .refused [⟨[.key "body"], .invalidJson⟩]
    | .error .unreadable => .detail 400 "There was an error parsing the body"
    | .ok document =>
      match sourceOf document with
      | .error issues => refuse document issues
      | .ok (name, source) =>
        match Extension.ofSource source name with
        | .ok e => .document (e.document true)
        | .error _ => .crash

/-- The answer that a failed question gets: what is not found is reported with its name. -/
def ofFault (fault : Fault) : Response :=
  match fault with
  | .extensionUnknown _ | .eventUnknown _ | .extensionsUnknown _ | .memberAbsent _ =>
    .detail 404 fault.message
  | _ => .crash

namespace App

/-- The database that questions are put to, or the answer to a request that there is none for. A
connection is made if there is none yet. -/
def connected : Serving (Except Response Database) := do
  let app ← get
  match app.database with
  | some database => return .ok database
  | none =>
    match app.settings.elim (ConnectionSettings.load app.env) .ok with
    | .error fault => return .error (.detail 503 fault.message)
    | .ok settings =>
      let (result, connection) := app.connection.attempt settings
      match result with
      | .error fault =>
        set { app with connection }
        return .error (ofFault fault)
      | .ok () =>
        set { app with database := some settings.database, ownsConnection := true, connection }
        return .ok settings.database

def ask (question : Graph.Work Json) : Serving Response := do
  let app ← get
  let (result, connection) := question.run.run app.connection
  set { app with connection }
  match result with
  | .ok document => return .document document
  | .error fault => return ofFault fault

/-- Answers a request with a question about the value of one parameter. -/
def askAbout (r : Request) (key : String) (question : Database → Json → Graph.Work Json) :
    Serving Response := do
  match ← connected with
  | .error response => return response
  | .ok database =>
    match r.parameter? key with
    | none => return .refused [⟨[.key "query", .key key], .missing⟩]
    | some value => ask (question database (.string value))

def serve (r : Request) : Endpoint → Serving Response
  | .health => return .document (.object [("status", .string "ok")])
  | .analyze => return analyzeBody r.body
  | .integrations =>
    askAbout r "extension" fun database extension =>
      Graph.ExtensionEdges.document <$> Graph.extensionEdges database extension
  | .events =>
    askAbout r "name" fun database name =>
      Graph.EventLinks.document <$> Graph.eventLinks database name
  | .objectExtensions =>
    askAbout r "name" fun database name =>
      Graph.ObjectExtensions.document <$> Graph.objectExtensions database name

def handle (r : Request) : Serving Response :=
  let respond : Serving Response :=
    match Endpoint.ofPath? r.path with
    | none => return .detail 404 "Not Found"
    | some endpoint =>
      if endpoint.method == r.method then serve r endpoint
      else return .detail 405 "Method Not Allowed"
  if r.method == "HEAD" then (fun response => .bare response.status) <$> respond else respond

def stop (app : App) : App :=
  if app.ownsConnection then
    { app with connection := { app.connection with closed := app.connection.closed + 1 } }
  else app

end App

end ExtensionAtlas.Service
