import ExtensionAtlas.Integration.Resolve
import ExtensionAtlas.Json.Shown
import ExtensionAtlas.Model.Batch
import ExtensionAtlas.Record.Settled
import ExtensionAtlas.Record.Views

/-! How the extensions of a batch of records couple. A settled batch couples as the model says. In
any other batch the same pairs are looked at in the same order, and the first comparison that cannot
be made of the values at hand is a fault: only texts have letter case, and only a text, a list or an
object can hold another value. -/

namespace ExtensionAtlas.Record

/-- Whether the events of two names belong together. -/
def eventNamesMatch : (publisher subscriber : Json) → Except Fault Bool
  | .string publisher, .string subscriber =>
    .ok (ExtensionAtlas.eventNamesMatch publisher subscriber)
  | publisher, subscriber =>
    if publisher.same subscriber then .ok true
    else
      let unsuited := if publisher.text?.isNone then publisher else subscriber
      .error (.misused unsuited.kindName (.part "lower"))

/-- Whether a value can be a key by which it is told apart. -/
def asKey (value : Json) : Except Fault Json :=
  if value.isContainer then .error (.misused value.kindName .key) else .ok value

/-- Whether an object can be the table that a formula names. -/
def namesTable : (object table : Json) → Except Fault Bool
  | .string object, .string table => .ok (ExtensionAtlas.namesTable object table)
  | object, table =>
    if object.same table then .ok true
    else
      match object with
      | .string _ => .error (.misused table.kindName .standing)
      | .array items => .ok (items.any table.same)
      | .object members =>
        (asKey table).map fun key => members.any fun m => key.same (.string m.1)
      | _ => .error (.misused object.kindName .holding)

/-- The edges of one extension's publishers to another extension, one for every subscriber. -/
def eventEdges (e : Extension) (publisher : Event) (other : Extension) :
    Except Fault (List Integration) := do
  let subscribers := (← other.events.items).filter (·.role == some .subscriber)
  let matching ← subscribers.filterM fun subscriber =>
    eventNamesMatch publisher.name subscriber.name
  return matching.map fun _ =>
    { source := e.name
      target := other.name
      kind := some .event
      description := .string s!"{publisher.name.inText} event integration" }

/-- The edge of an extension with a source table to a calculated field, if there is one. -/
def derivedFieldEdges (e : Extension) (f : DerivedField) (other : Extension) :
    Except Fault (List Integration) := do
  if ← (← other.objects.items).anyM fun o => namesTable o.name f.sourceTable then
    return [{
      source := other.name
      target := e.name
      kind := some .derivedField
      description := .string
        s!"{f.name.inText} flowfield references {f.sourceTable.inText}" }]
  else return []

/-- The edge of a dependency to an extension with an object of that name, if there is one. -/
def referenceEdges (e : Extension) (dependency : Json) (other : Extension) :
    Except Fault (List Integration) := do
  if (← other.objects.items).any fun o => dependency.same o.name then
    return [{
      source := e.name
      target := other.name
      kind := some .reference
      description := .string s!"{e.name.inText} references {dependency.inText}" }]
  else return []

/-- The extensions of a batch that an extension can couple to. -/
def Extension.others (e : Extension) (batch : List Extension) : List Extension :=
  batch.filter (!·.name.same e.name)

/-- All edges of a batch that need not be settled. -/
def looseEdges (references : Bool) (batch : List Extension) : Except Fault (List Integration) := do
  let events ← batch.mapM fun e => do
    ((← e.events.items).filter (·.role == some .publisher)).mapM fun publisher =>
      (e.others batch).mapM (eventEdges e publisher)
  let derived ← batch.mapM fun e => do
    ((← e.flowfields.items).filter (!·.sourceTable.isEmptyValue)).mapM fun f =>
      (e.others batch).mapM (derivedFieldEdges e f)
  let referring ← (if references then batch else []).mapM fun e => do
    (← e.dependencies.items).mapM fun dependency =>
      (e.others batch).mapM (referenceEdges e dependency)
  return (events ++ derived ++ referring).flatten.flatten.flatten

def resolve (references : Bool) (batch : List Extension) : Except Fault (List Integration) :=
  match batch.mapM Extension.settled? with
  | some extensions =>
    .ok ((ExtensionAtlas.Integration.resolve references extensions).map (·.record))
  | none => looseEdges references batch

/-- The log entry for a batch whose edges have been found. -/
def resolvedEntry (batch : List Extension) (edges : List Integration) : LogEntry where
  level := .debug
  event := "resolved integrations"
  values := [("extensions", .int batch.length), ("integrations", .int edges.length)]

/-- The first of every group of values that are the same. -/
def distinct : List Json → List Json
  | [] => []
  | value :: values => value :: (distinct values).filter (!·.same value)

/-- The dependencies of several extensions, each once, in the order in which they first appear. -/
def mergeDependencies (batch : List Extension) : Except Fault (List Json) := do
  let keys ← batch.mapM fun e => do (← e.dependencies.items).mapM asKey
  return distinct keys.flatten

/-- The analysis of a batch together with the paths that gave no extension. -/
def Analysis.ofExtensions (references : Bool) (batch : List Extension) (failedPaths : List Json) :
    Except Fault Analysis := do
  let integrations ← resolve references batch
  let dependencies ← mergeDependencies batch
  return { extensions := batch, integrations, dependencies, failedPaths }

/-- The analysis of a batch of records as it stands. -/
def Analysis.ofBatch (b : Batch Extension) : Except Fault Analysis :=
  Analysis.ofExtensions b.references b.extensions (b.failedPaths.map .string)

end ExtensionAtlas.Record
