import ExtensionAtlas.Graph.Statement
import ExtensionAtlas.Model.ElementId

/-! How an analysis is put into the graph. Extensions come first, each with its objects, their
fields and their procedures, every node before the edge that leads to it. Edges to extended objects
follow, since those may be declared in any extension. Integrations come last, equal ones as one edge
that carries their number. A node without an identifier cannot be stored, nor can an object whose
number is too long for one; the statements up to there can. -/

namespace ExtensionAtlas

/-- The distinct values of a list in the order of their first occurrences, each with its number of
occurrences. -/
def tally {α : Type} [BEq α] (xs : List α) : List (α × Nat) :=
  (firstOccurrences xs).map fun x => (x, xs.count x)

namespace Graph

/-- A statement to run, or the fault that stands in its place. -/
abbrev Order := Except Fault Statement

/-- Orders that can be given only if some work succeeds. -/
def ordersFrom {α : Type} (work : Except Fault α) (orders : α → List Order) : List Order :=
  match work with
  | .ok value => orders value
  | .error fault => [.error fault]

def Schema.statements (schema : Schema) : List Statement :=
  schema.nodeKeys.map (fun (label, property) => .uniqueKey label property)
    ++ schema.nodeIndexes.flatMap fun (label, properties) => properties.map (.index label)

/-- A node of a label with the properties that have a value. -/
def mergeNode (label : NodeLabel) (properties : Properties) : Order :=
  Statement.ofNode label.text (presentProperties properties)

/-- The properties of the node of an extension. -/
def extensionProperties (e : Extension) : Properties := [
  ("id", .string e.name),
  ("name", .string e.name),
  ("path", .string e.path),
  ("dependencies", .ofTexts e.dependencies)]

/-- The properties of the node of an object. -/
def objectProperties (e : Extension) (o : Object) (id : String) : Properties := [
  ("id", .string id),
  ("name", .string o.name),
  ("kind", .string o.kind.keyword),
  ("objectId", .int o.id),
  ("extends", .ofText? o.base),
  ("extension", .string e.name)]

/-- The identifier of a field or procedure of an object that has the identifier `outer`. -/
def memberId (outer name : String) : String := elementId [outer, name]

/-- The calculated field of an extension for a field of an object; the last one of that name counts.
-/
def derivedField? (e : Extension) (o : Object) (f : Field) : Option DerivedField :=
  (e.flowfields.filter fun d => d.tableName == o.name && d.name == f.name).getLast?

/-- The properties that a calculated field adds to the node of its field. -/
def derivedProperties : Option DerivedField → Properties
  | none => []
  | some d => [
    ("calcMethod", .string d.method.label),
    ("sourceTable", .ofText? d.sourceTable),
    ("sourceField", .ofText? d.sourceField)]

/-- The properties of the node of a field. -/
def fieldProperties (e : Extension) (o : Object) (outer : String) (f : Field) : Properties := [
  ("id", .string (memberId outer f.name)),
  ("name", .string f.name),
  ("fieldId", .int f.id),
  ("objectName", .string o.name),
  ("type", .string f.type),
  ("isFlowfield", .bool f.isFlowfield),
  ("calcFormula", .ofText? f.calcFormula)] ++ derivedProperties (derivedField? e o f)

def parameterText (p : Parameter) : String :=
  (if p.isVar then "var " else "") ++ p.name ++ ": " ++ p.type

/-- The properties of the node of a procedure. -/
def procedureProperties (o : Object) (outer : String) (p : Procedure) : Properties := [
  ("id", .string (memberId outer p.name)),
  ("name", .string p.name),
  ("objectName", .string o.name),
  ("objectKind", .string o.kind.keyword),
  ("returnType", .ofText? p.returnType),
  ("isLocal", .bool p.isLocal),
  ("isEvent", .bool p.isEvent),
  ("eventRole", .ofText? (p.eventRole.map EventRole.label)),
  ("parameters", .ofTexts (p.parameters.map parameterText))]

/-- A field and the edge from its object. -/
def fieldOrders (e : Extension) (o : Object) (outer : String) (f : Field) : List Order := [
  mergeNode .field (fieldProperties e o outer f),
  .ok (.mergeContainment .hasField (.string outer) (.string (memberId outer f.name)))]

/-- A procedure and the edge from its object. -/
def procedureOrders (o : Object) (outer : String) (p : Procedure) : List Order := [
  mergeNode .procedure (procedureProperties o outer p),
  .ok (.mergeContainment .declaresProcedure (.string outer) (.string (memberId outer p.name)))]

/-- An object, the edge from its extension, and its members. -/
def objectOrders (e : Extension) (o : Object) : List Order :=
  ordersFrom (e.objectId o) fun id =>
    [mergeNode .object (objectProperties e o id),
      .ok (.mergeContainment .declares (.string e.name) (.string id))]
      ++ o.fields.flatMap (fieldOrders e o id) ++ o.procedures.flatMap (procedureOrders o id)

def extensionOrders (e : Extension) : List Order :=
  mergeNode .extension (extensionProperties e) :: e.objects.flatMap (objectOrders e)

/-- The edge from an object to the one that it extends, if it extends one. -/
def baseOrdersOf (e : Extension) (o : Object) : List Order :=
  match o.base with
  | some base =>
    if base.isEmpty then []
    else ordersFrom (e.objectId o) fun id => [.ok (.mergeExtends (.string id) (.string base))]
  | none => []

/-- The edges from the objects of an extension to those that they extend. -/
def baseOrders (e : Extension) : List Order := e.objects.flatMap (baseOrdersOf e)

/-- The edge between two extensions with its number. -/
def integrationOrder (i : Integration) (count : Nat) : Order :=
  .ok (.mergeIntegration (.string i.source) (.string i.target) i.kind (.string i.description) count)

/-- All that is run to store an analysis. -/
def storageOrders (a : Analysis) : List Order :=
  a.extensions.flatMap extensionOrders ++ a.extensions.flatMap baseOrders
    ++ (tally a.integrations).map fun (i, count) => integrationOrder i count

end Graph

end ExtensionAtlas
