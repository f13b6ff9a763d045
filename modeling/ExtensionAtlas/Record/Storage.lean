import ExtensionAtlas.Graph.Store
import ExtensionAtlas.Record.Coupling
import ExtensionAtlas.Record.Reader

/-! How an analysis of records is put into the graph. A settled analysis is stored as the model
says. Any other one is stored in the same order with its values as they are; a word that is needed
and missing, and a value that can be no key, are faults in the place where they are met. -/

namespace ExtensionAtlas

namespace Record

open ExtensionAtlas.Graph (Order Properties mergeNode ordersFrom)

/-- The identifier with given segments; null is no segment. -/
def elementId (segments : List Json) : String :=
  ExtensionAtlas.elementId ((segments.filter (!·.isNull)).map Json.inText)

/-- The identifier of an object of an extension, if its number can be written. -/
def objectId (e : Extension) (o : Object) : Except Fault String := do
  let kind ← needWord o.kind
  let number ← o.id.written
  return elementId [e.name, .string kind.keyword, .string number]

/-- The properties of the node of an extension. -/
def extensionProperties (e : Extension) (dependencies : List Json) : Properties := [
  ("id", e.name), ("name", e.name), ("path", e.path), ("dependencies", .array dependencies)]

/-- The properties of the node of an object. -/
def objectProperties (e : Extension) (o : Object) (id : String) : Properties := [
  ("id", .string id),
  ("name", o.name),
  ("kind", .ofText? (o.kind.map ObjectKind.keyword)),
  ("objectId", o.id),
  ("extends", o.base),
  ("extension", e.name)]

/-- The properties that a calculated field adds to the node of its field. -/
def derivedProperties (f : DerivedField) : Properties := [
  ("calcMethod", .ofText? (f.method.map CalcMethod.label)),
  ("sourceTable", f.sourceTable),
  ("sourceField", f.sourceField)]

/-- The properties of the node of a field. -/
def fieldProperties (o : Object) (f : Field) (id : String) (derived : Option DerivedField) :
    Properties := [
  ("id", .string id),
  ("name", f.name),
  ("fieldId", f.id),
  ("objectName", o.name),
  ("type", f.type),
  ("isFlowfield", f.isFlowfield),
  ("calcFormula", f.calcFormula)] ++ (derived.map derivedProperties).getD []

def parameterText (p : Parameter) : String :=
  (if p.isVar.isEmptyValue then "" else "var ") ++ p.name.inText ++ ": " ++ p.type.inText

/-- The properties of the node of a procedure. -/
def procedureProperties (o : Object) (p : Procedure) (id : String) (parameters : List Parameter) :
    Properties := [
  ("id", .string id),
  ("name", p.name),
  ("objectName", o.name),
  ("objectKind", .ofText? (o.kind.map ObjectKind.keyword)),
  ("returnType", p.returnType),
  ("isLocal", p.isLocal),
  ("isEvent", p.isEvent),
  ("eventRole", .ofText? (p.eventRole.map EventRole.label)),
  ("parameters", .ofTexts (parameters.map parameterText))]

/-- The calculated field of an extension for a field of an object; the last of that name counts. -/
def derivedField? (e : Extension) (o : Object) (f : Field) :
    Except Fault (Option DerivedField) := do
  let table ← asKey o.name
  let name ← asKey f.name
  let derived ← e.flowfields.items
  return (derived.filter fun d => d.tableName.same table && d.name.same name).getLast?

/-- What sets up a schema that is given by the property that identifies the nodes of each label and
by the properties that are indexed. -/
def schemaOrders (keys indexes : Json) : List Order :=
  ordersFrom (membersOf keys) (·.map fun (label, property) =>
      .ok (.uniqueKey label property.inText))
    ++ ordersFrom (membersOf indexes) (·.flatMap fun (label, properties) =>
      ordersFrom (itemsOf properties) (·.map fun property => .ok (.index label property.inText)))

/-- A field and the edge from its object. -/
def fieldOrders (e : Extension) (o : Object) (outer : String) (f : Field) : List Order :=
  let id := elementId [.string outer, f.name]
  ordersFrom (derivedField? e o f) fun derived => [
    mergeNode .field (fieldProperties o f id derived),
    .ok (.mergeContainment .hasField (.string outer) (.string id))]

/-- A procedure and the edge from its object. -/
def procedureOrders (o : Object) (outer : String) (p : Procedure) : List Order :=
  let id := elementId [.string outer, p.name]
  ordersFrom p.parameters.items fun parameters => [
    mergeNode .procedure (procedureProperties o p id parameters),
    .ok (.mergeContainment .declaresProcedure (.string outer) (.string id))]

/-- An object, the edge from its extension, and its members. -/
def objectOrders (e : Extension) (o : Object) : List Order :=
  ordersFrom (objectId e o) fun id =>
    [mergeNode .object (objectProperties e o id),
      .ok (.mergeContainment .declares e.name (.string id))]
      ++ ordersFrom o.fields.items (·.flatMap (fieldOrders e o id))
      ++ ordersFrom o.procedures.items (·.flatMap (procedureOrders o id))

def derivedKeys (e : Extension) : Except Fault (List Json) := do
  ((← e.flowfields.items).flatMap fun d => [d.tableName, d.name]).mapM asKey

def extensionOrders (e : Extension) : List Order :=
  ordersFrom e.dependencies.items fun dependencies =>
    mergeNode .extension (extensionProperties e dependencies)
      :: ordersFrom (derivedKeys e) fun _ =>
        ordersFrom e.objects.items (·.flatMap (objectOrders e))

/-- The edges from the objects of an extension to those that they extend. -/
def baseOrders (e : Extension) : List Order :=
  ordersFrom e.objects.items fun objects =>
    (objects.filter (!·.base.isEmptyValue)).flatMap fun o =>
      ordersFrom (objectId e o) fun id => [.ok (.mergeExtends (.string id) o.base)]

def integrationKeys (i : Integration) : Except Fault (List Json) :=
  [i.source, i.target, i.description].mapM asKey

/-- Edges that are the same put together, each with its number. -/
def tallied : List Integration → List (Integration × Nat)
  | [] => []
  | i :: rest =>
    (i, (rest.filter i.same).length + 1) :: (tallied rest).filter fun (other, _) => !i.same other

/-- The edge between two extensions with its number. -/
def integrationOrder (i : Integration) (count : Nat) : Order :=
  (needWord i.kind).map fun kind =>
    .mergeIntegration i.source i.target kind i.description count

def integrationOrders (integrations : List Integration) : List Order :=
  ordersFrom (integrations.mapM integrationKeys) fun _ =>
    (tallied integrations).map fun (i, count) => integrationOrder i count

/-- All that is run to store an analysis that need not be settled. -/
def looseOrders (a : Analysis) : List Order :=
  a.extensions.flatMap extensionOrders ++ a.extensions.flatMap baseOrders
    ++ integrationOrders a.integrations

/-- All that is run to store an analysis. -/
def storageOrders (a : Analysis) : List Order :=
  match a.settled? with
  | some analysis => Graph.storageOrders analysis
  | none => looseOrders a

end Record

end ExtensionAtlas
