import ExtensionAtlas.Model.Extension
import ExtensionAtlas.Record.Basic

/-! Records and the model. Whatever the model holds can be written down as a record. The other way
round a record is settled if every value in it is of the type that belongs there, and then it stands
for one value of the model. -/

namespace ExtensionAtlas

namespace Json

def text? : Json → Option String
  | .string value => some value
  | _ => none

def optionalText? : Json → Option (Option String)
  | .null => some none
  | value => value.text?.map some

def whole? : Json → Option Int
  | .int value => some value
  | _ => none

def flag? : Json → Option Bool
  | .bool value => some value
  | _ => none

end Json

def Parameter.record (p : Parameter) : Record.Parameter where
  name := .string p.name
  type := .string p.type
  isVar := .bool p.isVar

def Procedure.record (p : Procedure) : Record.Procedure where
  name := .string p.name
  parameters := some (p.parameters.map Parameter.record)
  returnType := .ofText? p.returnType
  isEvent := .bool p.isEvent
  eventRole := p.eventRole
  isLocal := .bool p.isLocal

def Field.record (f : Field) : Record.Field where
  id := .int f.id
  name := .string f.name
  type := .string f.type
  isFlowfield := .bool f.isFlowfield
  calcFormula := .ofText? f.calcFormula

def Object.record (o : Object) : Record.Object where
  kind := some o.kind
  id := .int o.id
  name := .string o.name
  base := .ofText? o.base
  fields := some (o.fields.map Field.record)
  procedures := some (o.procedures.map Procedure.record)

def Event.record (e : Event) : Record.Event where
  name := .string e.name
  role := e.role
  objectKind := some e.objectKind
  objectName := .string e.objectName
  parameters := some (e.parameters.map Parameter.record)

def DerivedField.record (f : DerivedField) : Record.DerivedField where
  name := .string f.name
  tableName := .string f.tableName
  method := some f.method
  sourceTable := .ofText? f.sourceTable
  sourceField := .ofText? f.sourceField

def Extension.record (e : Extension) : Record.Extension where
  name := .string e.name
  path := .string e.path
  objects := some (e.objects.map Object.record)
  events := some (e.events.map Event.record)
  flowfields := some (e.flowfields.map DerivedField.record)
  dependencies := some (e.dependencies.map .string)
  source := .string e.source

def Integration.record (i : Integration) : Record.Integration where
  source := .string i.source
  target := .string i.target
  kind := some i.kind
  description := .string i.description

def Analysis.record (a : Analysis) : Record.Analysis where
  extensions := a.extensions.map Extension.record
  integrations := a.integrations.map Integration.record
  dependencies := a.dependencies.map .string
  failedPaths := a.failedPaths.map .string

namespace Record

/-- The parameter that a settled record stands for. -/
def Parameter.settled? (p : Parameter) : Option ExtensionAtlas.Parameter := do
  return { name := ← p.name.text?, type := ← p.type.text?, isVar := ← p.isVar.flag? }

/-- The procedure that a settled record stands for. -/
def Procedure.settled? (p : Procedure) : Option ExtensionAtlas.Procedure := do
  return {
    name := ← p.name.text?
    parameters := ← (← p.parameters).mapM Parameter.settled?
    returnType := ← p.returnType.optionalText?
    isEvent := ← p.isEvent.flag?
    eventRole := p.eventRole
    isLocal := ← p.isLocal.flag? }

/-- The field that a settled record stands for. -/
def Field.settled? (f : Field) : Option ExtensionAtlas.Field := do
  return {
    id := ← f.id.whole?
    name := ← f.name.text?
    type := ← f.type.text?
    isFlowfield := ← f.isFlowfield.flag?
    calcFormula := ← f.calcFormula.optionalText? }

/-- The object that a settled record stands for. -/
def Object.settled? (o : Object) : Option ExtensionAtlas.Object := do
  return {
    kind := ← o.kind
    id := ← o.id.whole?
    name := ← o.name.text?
    base := ← o.base.optionalText?
    fields := ← (← o.fields).mapM Field.settled?
    procedures := ← (← o.procedures).mapM Procedure.settled? }

/-- The event that a settled record stands for. -/
def Event.settled? (e : Event) : Option ExtensionAtlas.Event := do
  return {
    name := ← e.name.text?
    role := e.role
    objectKind := ← e.objectKind
    objectName := ← e.objectName.text?
    parameters := ← (← e.parameters).mapM Parameter.settled? }

/-- The calculated field that a settled record stands for. -/
def DerivedField.settled? (f : DerivedField) : Option ExtensionAtlas.DerivedField := do
  return {
    name := ← f.name.text?
    tableName := ← f.tableName.text?
    method := ← f.method
    sourceTable := ← f.sourceTable.optionalText?
    sourceField := ← f.sourceField.optionalText? }

/-- The extension that a settled record stands for. -/
def Extension.settled? (e : Extension) : Option ExtensionAtlas.Extension := do
  return {
    name := ← e.name.text?
    path := ← e.path.text?
    objects := ← (← e.objects).mapM Object.settled?
    events := ← (← e.events).mapM Event.settled?
    flowfields := ← (← e.flowfields).mapM DerivedField.settled?
    dependencies := ← (← e.dependencies).mapM Json.text?
    source := ← e.source.text? }

/-- The edge that a settled record stands for. -/
def Integration.settled? (i : Integration) : Option ExtensionAtlas.Integration := do
  return {
    source := ← i.source.text?
    target := ← i.target.text?
    kind := ← i.kind
    description := ← i.description.text? }

/-- The analysis that a settled record stands for. -/
def Analysis.settled? (a : Analysis) : Option ExtensionAtlas.Analysis := do
  return {
    extensions := ← a.extensions.mapM Extension.settled?
    integrations := ← a.integrations.mapM Integration.settled?
    dependencies := ← a.dependencies.mapM Json.text?
    failedPaths := ← a.failedPaths.mapM Json.text? }

end Record

end ExtensionAtlas
