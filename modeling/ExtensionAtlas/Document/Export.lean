import ExtensionAtlas.Json.Basic
import ExtensionAtlas.Model.Extension

/-! The exported documents. Every record becomes an object with all of its members, absent values as
null and empty lists as empty arrays, so that an absent value and an empty one can be told apart.
The source text of an extension is left out unless it is asked for. -/

namespace ExtensionAtlas

def Parameter.document (p : Parameter) : Json :=
  .object [("name", .string p.name), ("type", .string p.type), ("isVar", .bool p.isVar)]

def Procedure.document (p : Procedure) : Json :=
  .object [
    ("name", .string p.name),
    ("parameters", .array (p.parameters.map Parameter.document)),
    ("returnType", .ofText? p.returnType),
    ("isEvent", .bool p.isEvent),
    ("eventType", .ofText? (p.eventRole.map EventRole.label)),
    ("isLocal", .bool p.isLocal)]

def Field.document (f : Field) : Json :=
  .object [
    ("id", .int f.id),
    ("name", .string f.name),
    ("type", .string f.type),
    ("isFlowfield", .bool f.isFlowfield),
    ("calcFormula", .ofText? f.calcFormula)]

def Object.document (o : Object) : Json :=
  .object [
    ("type", .string o.kind.keyword),
    ("id", .int o.id),
    ("name", .string o.name),
    ("extends", .ofText? o.base),
    ("fields", .array (o.fields.map Field.document)),
    ("procedures", .array (o.procedures.map Procedure.document))]

def Event.document (e : Event) : Json :=
  .object [
    ("name", .string e.name),
    ("eventType", .ofText? (e.role.map EventRole.label)),
    ("objectType", .string e.objectKind.keyword),
    ("objectName", .string e.objectName),
    ("parameters", .array (e.parameters.map Parameter.document))]

def DerivedField.document (f : DerivedField) : Json :=
  .object [
    ("name", .string f.name),
    ("tableName", .string f.tableName),
    ("calcMethod", .string f.method.label),
    ("sourceTable", .ofText? f.sourceTable),
    ("sourceField", .ofText? f.sourceField)]

/-- An extension as a document, with or without its source text. -/
def Extension.document (withSource : Bool) (e : Extension) : Json :=
  .object [
    ("name", .string e.name),
    ("filePath", .string e.path),
    ("objects", .array (e.objects.map Object.document)),
    ("events", .array (e.events.map Event.document)),
    ("flowfields", .array (e.flowfields.map DerivedField.document)),
    ("dependencies", .ofTexts e.dependencies),
    ("sourceCode", if withSource then .string e.source else .null)]

/-- An edge with how often it is there. -/
def Integration.document (count : Int) (i : Integration) : Json :=
  .object [
    ("source", .string i.source),
    ("target", .string i.target),
    ("type", .string i.kind.label),
    ("description", .string i.description),
    ("count", .int count)]

/-- The document of an analysis from those of its extensions; each edge is there once. -/
def analysisDocument (extensions : List Json) (dependencies : List String)
    (integrations : List Integration) (failedPaths : List String) : Json :=
  .object [
    ("extensions", .array extensions),
    ("dependencies", .ofTexts dependencies),
    ("crossModuleIntegrations", .array (integrations.map (Integration.document 1))),
    ("failedPaths", .ofTexts failedPaths)]

def Analysis.document (withSource : Bool) (a : Analysis) : Json :=
  analysisDocument (a.extensions.map (Extension.document withSource)) a.dependencies
    a.integrations a.failedPaths

end ExtensionAtlas
