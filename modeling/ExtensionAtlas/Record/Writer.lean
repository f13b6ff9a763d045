import ExtensionAtlas.Record.Settled
import ExtensionAtlas.Source.Formula
import ExtensionAtlas.Source.Header

/-! Records as JSON objects, member by member. -/

namespace ExtensionAtlas

namespace Record

def Parameter.toJson (p : Parameter) : Json :=
  .object [("name", p.name), ("type", p.type), ("is_var", p.isVar)]

def Procedure.toJson (p : Procedure) : Json :=
  .object [
    ("name", p.name),
    ("parameters", p.parameters.toJson Parameter.toJson),
    ("return_type", p.returnType),
    ("is_event", p.isEvent),
    ("event_role", .ofText? (p.eventRole.map EventRole.label)),
    ("is_local", p.isLocal)]

def Field.toJson (f : Field) : Json :=
  .object [
    ("field_id", f.id),
    ("name", f.name),
    ("type", f.type),
    ("is_flowfield", f.isFlowfield),
    ("calc_formula", f.calcFormula)]

def Object.toJson (o : Object) : Json :=
  .object [
    ("kind", .ofText? (o.kind.map ObjectKind.keyword)),
    ("object_id", o.id),
    ("name", o.name),
    ("extends", o.base),
    ("fields", o.fields.toJson Field.toJson),
    ("procedures", o.procedures.toJson Procedure.toJson)]

def Event.toJson (e : Event) : Json :=
  .object [
    ("name", e.name),
    ("role", .ofText? (e.role.map EventRole.label)),
    ("object_kind", .ofText? (e.objectKind.map ObjectKind.keyword)),
    ("object_name", e.objectName),
    ("parameters", e.parameters.toJson Parameter.toJson)]

def DerivedField.toJson (f : DerivedField) : Json :=
  .object [
    ("name", f.name),
    ("table_name", f.tableName),
    ("calc_method", .ofText? (f.method.map CalcMethod.label)),
    ("source_table", f.sourceTable),
    ("source_field", f.sourceField)]

/-- An extension as a JSON object, source text included. -/
def Extension.toJson (e : Extension) : Json :=
  .object [
    ("name", e.name),
    ("path", e.path),
    ("objects", e.objects.toJson Object.toJson),
    ("events", e.events.toJson Event.toJson),
    ("flowfields", e.flowfields.toJson DerivedField.toJson),
    ("dependencies", e.dependencies.toJson id),
    ("source", e.source)]

def Integration.toJson (i : Integration) : Json :=
  .object [
    ("source", i.source),
    ("target", i.target),
    ("kind", .ofText? (i.kind.map IntegrationKind.label)),
    ("description", i.description)]

def Analysis.toJson (a : Analysis) : Json :=
  .object [
    ("extensions", .array (a.extensions.map Extension.toJson)),
    ("integrations", .array (a.integrations.map Integration.toJson)),
    ("dependencies", .array a.dependencies),
    ("failed_paths", .array a.failedPaths)]

end Record

def Header.toJson (h : Header) : Json :=
  .object [
    ("kind", .string h.kind.keyword),
    ("object_id", .int h.id),
    ("name", .string h.name),
    ("extends", .ofText? h.base),
    ("body_start", .int h.bodyStart)]

/-- What a formula says as a JSON object. -/
def Formula.Reading.toJson (r : Formula.Reading) : Json :=
  .object [
    ("method", .string r.method.label),
    ("source_table", .ofText? r.sourceTable),
    ("source_field", .ofText? r.sourceField)]

/-- The numbers of an analysis as a JSON object. -/
def Counts.toJson (c : Counts) : Json :=
  .object [
    ("extensions", .int c.extensions),
    ("objects", .int c.objects),
    ("events", .int c.events),
    ("flowfields", .int c.flowfields),
    ("integrations", .int c.integrations),
    ("failed", .int c.failed)]

end ExtensionAtlas
