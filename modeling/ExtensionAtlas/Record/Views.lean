import ExtensionAtlas.Record.Settled
import ExtensionAtlas.Source.Formula

/-! Views of records: the events and calculated fields of objects, whether two records are the same,
and the numbers of an analysis. A value counts as set unless it is empty, whatever its type, and
extensions that are both settled are compared as the model says. -/

namespace ExtensionAtlas.Record

namespace Object

/-- The procedures of an object that are events. -/
def eventProcedures (o : Object) : Except Fault (List Procedure) := do
  return (← o.procedures.items).filter (!·.isEvent.isEmptyValue)

/-- The calculated fields of an object; a field without a formula is left out. -/
def flowfields (o : Object) : Except Fault (List Field) := do
  return (← o.fields.items).filter fun f =>
    !f.isFlowfield.isEmptyValue && !f.calcFormula.isEmptyValue

def events (o : Object) : Except Fault (List Event) := do
  return (← o.eventProcedures).map fun p =>
    { name := p.name
      role := p.eventRole
      objectKind := o.kind
      objectName := o.name
      parameters := p.parameters }

/-- A calculated field of an object with what its formula says. -/
def derivedField (o : Object) (f : Field) : Except Fault DerivedField :=
  match f.calcFormula with
  | .string formula =>
    let reading := Formula.read formula.toList
    .ok {
      name := f.name
      tableName := o.name
      method := some reading.method
      sourceTable := .ofText? reading.sourceTable
      sourceField := .ofText? reading.sourceField }
  | value => .error (.misused value.kindName .reading)

/-- The calculated fields of an object with what their formulas say. -/
def derivedFields (o : Object) : Except Fault (List DerivedField) := do
  (← o.flowfields).mapM o.derivedField

end Object

def Parameter.same (a b : Parameter) : Bool :=
  a.name.same b.name && a.type.same b.type && a.isVar.same b.isVar

def Procedure.same (a b : Procedure) : Bool :=
  a.name.same b.name && a.parameters.same Parameter.same b.parameters
    && a.returnType.same b.returnType && a.isEvent.same b.isEvent
    && a.eventRole == b.eventRole && a.isLocal.same b.isLocal

def Field.same (a b : Field) : Bool :=
  a.id.same b.id && a.name.same b.name && a.type.same b.type
    && a.isFlowfield.same b.isFlowfield && a.calcFormula.same b.calcFormula

def Object.same (a b : Object) : Bool :=
  a.kind == b.kind && a.id.same b.id && a.name.same b.name && a.base.same b.base
    && a.fields.same Field.same b.fields && a.procedures.same Procedure.same b.procedures

def Event.same (a b : Event) : Bool :=
  a.name.same b.name && a.role == b.role && a.objectKind == b.objectKind
    && a.objectName.same b.objectName && a.parameters.same Parameter.same b.parameters

def DerivedField.same (a b : DerivedField) : Bool :=
  a.name.same b.name && a.tableName.same b.tableName && a.method == b.method
    && a.sourceTable.same b.sourceTable && a.sourceField.same b.sourceField

def Integration.same (a b : Integration) : Bool :=
  a.source.same b.source && a.target.same b.target && a.kind == b.kind
    && a.description.same b.description

namespace Extension

/-- Whether two extensions have the same values in everything that is read from their sources. -/
def sameValues (a b : Extension) : Bool :=
  a.name.same b.name && a.path.same b.path && a.objects.same Object.same b.objects
    && a.events.same Event.same b.events && a.flowfields.same DerivedField.same b.flowfields
    && a.dependencies.same Json.same b.dependencies

/-- Whether two extensions agree in everything that is read from their sources. -/
def sameStructure (a b : Extension) : Bool :=
  match a.settled?, b.settled? with
  | some a, some b => a.sameStructure b
  | _, _ => a.sameValues b

def same (a b : Extension) : Bool := a.sameStructure b && a.source.same b.source

end Extension

def Analysis.counts (a : Analysis) : Except Fault Counts := do
  return {
    extensions := a.extensions.length
    objects := (← a.extensions.mapM (·.objects.length)).foldl (· + ·) 0
    events := (← a.extensions.mapM (·.events.length)).foldl (· + ·) 0
    flowfields := (← a.extensions.mapM (·.flowfields.length)).foldl (· + ·) 0
    integrations := a.integrations.length
    failed := a.failedPaths.length }

end ExtensionAtlas.Record
