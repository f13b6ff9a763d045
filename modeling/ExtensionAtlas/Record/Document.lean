import ExtensionAtlas.Document.Checked
import ExtensionAtlas.Document.Export
import ExtensionAtlas.Record.Basic

/-! Documents of records. A record is checked when it is exported, its parts before itself: words
that are needed have to be there, and then the first record with a value of the wrong type is
refused with the issues of all of its members, under the names that they have in the document. -/

namespace ExtensionAtlas.Record

open Document (Checked member textOf optionalTextOf integerOf flagOf)

def Parameter.checked (p : Parameter) : Except Fault ExtensionAtlas.Parameter :=
  Checked.orFault <| ExtensionAtlas.Parameter.mk
    <$> member textOf "name" (some p.name)
    <*> member textOf "type" (some p.type)
    <*> member flagOf "isVar" (some p.isVar)

def Procedure.checked (p : Procedure) : Except Fault ExtensionAtlas.Procedure := do
  let parameters ← (← p.parameters.items).mapM Parameter.checked
  Checked.orFault <| (fun name returnType isEvent isLocal =>
      { name, parameters, returnType, isEvent, eventRole := p.eventRole, isLocal })
    <$> member textOf "name" (some p.name)
    <*> member optionalTextOf "returnType" (some p.returnType)
    <*> member flagOf "isEvent" (some p.isEvent)
    <*> member flagOf "isLocal" (some p.isLocal)

def Field.checked (f : Field) : Except Fault ExtensionAtlas.Field :=
  Checked.orFault <| ExtensionAtlas.Field.mk
    <$> member integerOf "id" (some f.id)
    <*> member textOf "name" (some f.name)
    <*> member textOf "type" (some f.type)
    <*> member flagOf "isFlowfield" (some f.isFlowfield)
    <*> member optionalTextOf "calcFormula" (some f.calcFormula)

def Object.checked (o : Object) : Except Fault ExtensionAtlas.Object := do
  let kind ← needWord o.kind
  let fields ← (← o.fields.items).mapM Field.checked
  let procedures ← (← o.procedures.items).mapM Procedure.checked
  Checked.orFault <| (fun id name base => { kind, id, name, base, fields, procedures })
    <$> member integerOf "id" (some o.id)
    <*> member textOf "name" (some o.name)
    <*> member optionalTextOf "extends" (some o.base)

def Event.checked (e : Event) : Except Fault ExtensionAtlas.Event := do
  let role ← needWord e.role
  let objectKind ← needWord e.objectKind
  let parameters ← (← e.parameters.items).mapM Parameter.checked
  Checked.orFault <| (fun name objectName =>
      { name, role := some role, objectKind, objectName, parameters })
    <$> member textOf "name" (some e.name)
    <*> member textOf "objectName" (some e.objectName)

def DerivedField.checked (f : DerivedField) : Except Fault ExtensionAtlas.DerivedField := do
  let method ← needWord f.method
  Checked.orFault <| (fun name tableName sourceTable sourceField =>
      { name, tableName, method, sourceTable, sourceField })
    <$> member textOf "name" (some f.name)
    <*> member textOf "tableName" (some f.tableName)
    <*> member optionalTextOf "sourceTable" (some f.sourceTable)
    <*> member optionalTextOf "sourceField" (some f.sourceField)

/-- The extension that a record describes; its source is looked at only if it is asked for. -/
def Extension.checked (withSource : Bool) (e : Extension) :
    Except Fault ExtensionAtlas.Extension := do
  let objects ← (← e.objects.items).mapM Object.checked
  let events ← (← e.events.items).mapM Event.checked
  let flowfields ← (← e.flowfields.items).mapM DerivedField.checked
  let dependencies ← e.dependencies.items
  Checked.orFault <| (fun name path dependencies (source : Option String) =>
      { name, path, objects, events, flowfields, dependencies, source := source.getD "" })
    <$> member textOf "name" (some e.name)
    <*> member textOf "filePath" (some e.path)
    <*> Document.textItems "dependencies" 0 dependencies
    <*> member optionalTextOf "sourceCode" (some (if withSource then e.source else .null))

def Integration.checked (i : Integration) : Except Fault ExtensionAtlas.Integration := do
  let kind ← needWord i.kind
  Checked.orFault <| (fun source target description => { source, target, kind, description })
    <$> member textOf "source" (some i.source)
    <*> member textOf "target" (some i.target)
    <*> member textOf "description" (some i.description)

/-- An extension as a document, with or without its source text; a source of null stays null. -/
def Extension.document (withSource : Bool) (e : Extension) : Except Fault Json :=
  (e.checked withSource).map (·.document (withSource && !e.source.isNull))

/-- An analysis as a document; each edge is there once. -/
def Analysis.document (withSource : Bool) (a : Analysis) : Except Fault Json := do
  let extensions ← a.extensions.mapM (Extension.document withSource)
  let integrations ← a.integrations.mapM Integration.checked
  let (dependencies, failedPaths) ← Checked.orFault <| Prod.mk
    <$> Document.textItems "dependencies" 0 a.dependencies
    <*> Document.textItems "failedPaths" 0 a.failedPaths
  return analysisDocument extensions dependencies integrations failedPaths

end ExtensionAtlas.Record
