import ExtensionAtlas.Fault
import ExtensionAtlas.Graph.Schema
import ExtensionAtlas.Json.Value
import ExtensionAtlas.Model.Extension

/-! Statements to the graph database, by what they do. Each has a text in the query language of the
database and parameters that fill the places the text leaves open. -/

namespace ExtensionAtlas.Graph

abbrev Properties := List (String × Json)

/-- What the database can be asked to do. -/
inductive Statement where
  /-- Nodes of a label are told apart by a property. -/
  | uniqueKey (label property : String)
  /-- Nodes of a label are found by a property. -/
  | index (label property : String)
  /-- There is a node of a label with an identifier, and it has these properties. -/
  | mergeNode (label : String) (id : Json) (properties : Properties)
  | mergeContainment (edge : Containment) (outerId innerId : Json)
  /-- An object extends the objects of some name that stand on their own. -/
  | mergeExtends (objectId baseName : Json)
  | mergeIntegration (source target : Json) (kind : IntegrationKind) (description : Json)
    (count : Nat)
  | findExtension (id : Json)
  | outgoing (id : Json)
  | incoming (id : Json)
  /-- The event procedures whose names match a name. -/
  | eventProcedures (name : Json)
  /-- The objects that extend the object of some name. -/
  | objectsExtending (name : Json)

namespace Statement

/-- The pattern of a node whose property stands in a parameter. -/
def node (place label property parameter : String) : String :=
  "(" ++ place ++ ":" ++ label ++ " \x7b" ++ property ++ ": $" ++ parameter ++ "\x7d)"

/-- The columns that describe an edge between two extensions. -/
def edgeColumns : String :=
  "RETURN source.name AS source, target.name AS target, r.kind AS kind, " ++
    "r.description AS description, r.count AS count ORDER BY "

def text : Statement → String
  | uniqueKey label property =>
    "CREATE CONSTRAINT IF NOT EXISTS FOR (n:" ++ label ++ ") REQUIRE n." ++ property ++ " IS UNIQUE"
  | index label property =>
    "CREATE INDEX IF NOT EXISTS FOR (n:" ++ label ++ ") ON (n." ++ property ++ ")"
  | mergeNode label _ _ => "MERGE " ++ node "n" label "id" "id" ++ " SET n += $props"
  | mergeContainment edge _ _ =>
    "MATCH " ++ node "start" edge.outer.text "id" "start_id" ++ " MATCH "
      ++ node "end" edge.inner.text "id" "end_id" ++ " MERGE (start)-[r:" ++ edge.type ++ "]->(end)"
  | mergeExtends _ _ =>
    "MATCH " ++ node "ext" "Object" "id" "id" ++ " MATCH " ++ node "base" "Object" "name" "baseName"
      ++ " WHERE NOT base.kind ENDS WITH 'extension' MERGE (ext)-[:EXTENDS]->(base)"
  | mergeIntegration _ _ _ _ _ =>
    "MATCH " ++ node "source" "Extension" "id" "sourceId" ++ " MATCH "
      ++ node "target" "Extension" "id" "targetId"
      ++ " MERGE (source)-[r:INTEGRATES_WITH \x7bkind: $kind, description: $description\x7d]"
      ++ "->(target) SET r.count = $count"
  | findExtension _ => "MATCH " ++ node "e" "Extension" "id" "id" ++ " RETURN e"
  | outgoing _ =>
    "MATCH " ++ node "source" "Extension" "id" "id"
      ++ "-[r:INTEGRATES_WITH]->(target:Extension) " ++ edgeColumns ++ "target, kind, description"
  | incoming _ =>
    "MATCH (source:Extension)-[r:INTEGRATES_WITH]->" ++ node "target" "Extension" "id" "id" ++ " "
      ++ edgeColumns ++ "source, kind, description"
  | eventProcedures _ =>
    "MATCH (p:Procedure) WHERE p.isEvent = true AND (toLower(p.name) CONTAINS toLower($name) "
      ++ "OR toLower($name) CONTAINS toLower(p.name)) RETURN p ORDER BY p.objectName, p.name"
  | objectsExtending _ =>
    "MATCH (o:Object) WHERE o.extends = $name RETURN o ORDER BY o.extension, o.objectId"

def parameters : Statement → List (String × Json)
  | uniqueKey _ _ | index _ _ => []
  | mergeNode _ id properties => [("id", id), ("props", .object properties)]
  | mergeContainment _ outerId innerId => [("start_id", outerId), ("end_id", innerId)]
  | mergeExtends objectId baseName => [("id", objectId), ("baseName", baseName)]
  | mergeIntegration source target kind description count =>
    [("sourceId", source), ("targetId", target), ("kind", .string kind.label),
      ("description", description), ("count", .int count)]
  | findExtension id | outgoing id | incoming id => [("id", id)]
  | eventProcedures name | objectsExtending name => [("name", name)]

/-- The statement that puts a node into the graph; a node needs an identifier that is not empty. -/
def ofNode (label : String) (properties : Properties) : Except Fault Statement :=
  match properties.lookup "id" with
  | some id =>
    if id.isEmptyValue then .error (.nodeWithoutId label) else .ok (.mergeNode label id properties)
  | none => .error (.nodeWithoutId label)

end Statement

/-- Properties that have a value: null is no value. -/
def presentProperties (properties : Properties) : Properties :=
  properties.filter fun (_, value) =>
    match value with
    | .null => false
    | _ => true

end ExtensionAtlas.Graph
