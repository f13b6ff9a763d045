import ExtensionAtlas.Document.Checked
import ExtensionAtlas.Graph.Connection
import ExtensionAtlas.Json.Shown

/-! Questions to the graph. Each is put as one or more statements, every one in a session of its
own; the records of the answers are then read. A record without a member that is needed, a value
that has no members and a member of the wrong type are faults, and so is an answer that finds
nothing. The graph is asked about any value; what is found is described only for a text. -/

namespace ExtensionAtlas.Graph

open Document (Checked member textOf optionalTextOf integerOf)

/-- An edge between two extensions as the graph holds it. -/
structure EdgeRow where
  source : String
  target : String
  type : String
  description : String
  count : Int
  deriving DecidableEq, Repr

/-- A procedure in the graph. -/
structure ProcedureRef where
  id : String
  name : String
  objectName : String
  eventRole : Option String
  deriving DecidableEq, Repr

/-- An object in the graph. -/
structure ObjectRef where
  id : String
  name : String
  kind : String
  extension : String
  deriving DecidableEq, Repr

/-- The edges of an extension. -/
structure ExtensionEdges where
  extension : String
  outgoing : List EdgeRow
  incoming : List EdgeRow
  deriving DecidableEq, Repr

/-- The procedures that raise an event and those that react to it. -/
structure EventLinks where
  event : String
  publishers : List ProcedureRef
  subscribers : List ProcedureRef
  deriving DecidableEq, Repr

/-- The objects that extend an object. -/
structure ObjectExtensions where
  base : String
  extensions : List ObjectRef
  deriving DecidableEq, Repr

/-- The value of a member that a record needs. -/
def needed (key : String) : Json → Except Fault Json
  | .object members =>
    match members.lookup key with
    | some value => .ok value
    | none => .error (.memberAbsent key)
  | record => .error (.misused record.kindName .member)

/-- How often an edge is there; an edge without a number is there once. -/
def countOf (record : Json) : Json :=
  match record.get? "count" with
  | some count => if count.isEmptyValue then .int 1 else count
  | none => .int 1

/-- Reads an edge; all members but the number are needed. -/
def EdgeRow.ofRecord (record : Json) : Except Fault EdgeRow := do
  let source ← needed "source" record
  let target ← needed "target" record
  let kind ← needed "kind" record
  let description ← needed "description" record
  Checked.orFault <| EdgeRow.mk
    <$> member textOf "source" (some source)
    <*> member textOf "target" (some target)
    <*> member textOf "type" (some kind)
    <*> member textOf "description" (some description)
    <*> member integerOf "count" (some (countOf record))

/-- Reads a procedure; all members but the role are needed. -/
def ProcedureRef.ofRecord (node : Json) : Except Fault ProcedureRef := do
  let id ← needed "id" node
  let name ← needed "name" node
  let objectName ← needed "objectName" node
  Checked.orFault <| ProcedureRef.mk
    <$> member textOf "id" (some id)
    <*> member textOf "name" (some name)
    <*> member textOf "objectName" (some objectName)
    <*> member optionalTextOf "eventRole" (some ((node.get? "eventRole").getD .null))

/-- Reads an object; all members are needed. -/
def ObjectRef.ofRecord (node : Json) : Except Fault ObjectRef := do
  let id ← needed "id" node
  let name ← needed "name" node
  let kind ← needed "kind" node
  let extension ← needed "extension" node
  Checked.orFault <| ObjectRef.mk
    <$> member textOf "id" (some id)
    <*> member textOf "name" (some name)
    <*> member textOf "kind" (some kind)
    <*> member textOf "extension" (some extension)

/-- Whether the node of a procedure has some role. -/
def hasRole (role : EventRole) : Json → Except Fault Bool
  | .object members =>
    match members.lookup "eventRole" with
    | some (.string word) => .ok (word == role.label)
    | _ => .ok false
  | node => .error (.misused node.kindName (.part "get"))

/-- The procedures among nodes that have some role. -/
def proceduresIn (role : EventRole) : List Json → Except Fault (List ProcedureRef)
  | [] => .ok []
  | node :: nodes => do
    let first ← if ← hasRole role node then some <$> ProcedureRef.ofRecord node else pure none
    return first.toList ++ (← proceduresIn role nodes)

def ExtensionEdges.ofRecords (extension : Json) (outgoing incoming : List Json) :
    Except Fault ExtensionEdges := do
  let outgoing ← outgoing.mapM EdgeRow.ofRecord
  let incoming ← incoming.mapM EdgeRow.ofRecord
  Checked.orFault <| (ExtensionEdges.mk · outgoing incoming) <$>
    member textOf "extension" (some extension)

/-- The links of an event that records of procedures describe. -/
def EventLinks.ofRecords (event : Json) (records : List Json) : Except Fault EventLinks := do
  let nodes ← records.mapM (needed "p")
  if nodes.isEmpty then .error (.eventUnknown event.inText)
  else
    let publishers ← proceduresIn .publisher nodes
    let subscribers ← proceduresIn .subscriber nodes
    Checked.orFault <| (EventLinks.mk · publishers subscribers) <$>
      member textOf "event" (some event)

/-- The extensions of an object that records of objects describe. -/
def ObjectExtensions.ofRecords (base : Json) (records : List Json) :
    Except Fault ObjectExtensions := do
  if records.isEmpty then .error (.extensionsUnknown base.inText)
  else
    let extensions ← records.mapM fun record => do ObjectRef.ofRecord (← needed "o" record)
    Checked.orFault <| (ObjectExtensions.mk · extensions) <$> member textOf "base" (some base)

/-- Puts one statement to a database in a session of its own. -/
def ask (database : Database) (statement : Statement) : Work (List Json) := do
  Work.openSession database
  Work.execute statement

/-- Whether an answer has a first record that says something. -/
def findsSomething (records : List Json) : Bool :=
  match records.head? with
  | some record => !record.isEmptyValue
  | none => false

def extensionEdges (database : Database) (extension : Json) : Work ExtensionEdges := do
  let found ← ask database (.findExtension extension)
  if !findsSomething found then throw (.extensionUnknown extension.inText)
  let outgoing ← ask database (.outgoing extension)
  let incoming ← ask database (.incoming extension)
  ExceptT.mk (pure (ExtensionEdges.ofRecords extension outgoing incoming))

def eventLinks (database : Database) (event : Json) : Work EventLinks := do
  let records ← ask database (.eventProcedures event)
  ExceptT.mk (pure (EventLinks.ofRecords event records))

def objectExtensions (database : Database) (base : Json) : Work ObjectExtensions := do
  let records ← ask database (.objectsExtending base)
  ExceptT.mk (pure (ObjectExtensions.ofRecords base records))

def EdgeRow.document (row : EdgeRow) : Json :=
  .object [
    ("source", .string row.source), ("target", .string row.target), ("type", .string row.type),
    ("description", .string row.description), ("count", .int row.count)]

def ProcedureRef.document (p : ProcedureRef) : Json :=
  .object [
    ("id", .string p.id), ("name", .string p.name), ("objectName", .string p.objectName),
    ("eventRole", .ofText? p.eventRole)]

def ObjectRef.document (o : ObjectRef) : Json :=
  .object [
    ("id", .string o.id), ("name", .string o.name), ("kind", .string o.kind),
    ("extension", .string o.extension)]

/-- The edges of an extension as a document. -/
def ExtensionEdges.document (e : ExtensionEdges) : Json :=
  .object [
    ("extension", .string e.extension), ("outgoing", .array (e.outgoing.map EdgeRow.document)),
    ("incoming", .array (e.incoming.map EdgeRow.document))]

/-- The links of an event as a document. -/
def EventLinks.document (e : EventLinks) : Json :=
  .object [
    ("event", .string e.event), ("publishers", .array (e.publishers.map ProcedureRef.document)),
    ("subscribers", .array (e.subscribers.map ProcedureRef.document))]

/-- The extensions of an object as a document. -/
def ObjectExtensions.document (e : ObjectExtensions) : Json :=
  .object [
    ("base", .string e.base), ("extensions", .array (e.extensions.map ObjectRef.document))]

end ExtensionAtlas.Graph
