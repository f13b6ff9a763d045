import ExtensionAtlas.Files.Path
import ExtensionAtlas.Log
import ExtensionAtlas.Source.Body
import ExtensionAtlas.Source.Dependency
import ExtensionAtlas.Source.Field
import ExtensionAtlas.Source.Formula
import ExtensionAtlas.Source.Header
import ExtensionAtlas.Source.Procedure

/-! Source files. A file declares objects; its events are the event procedures of its objects and
its calculated fields are their fields with a formula. The extension is named after the file. -/

namespace ExtensionAtlas

namespace Object

/-- The object with a header and a body. -/
def ofBody (header : Header) (body : List Char) : Except Fault Object :=
  match Field.scan body with
  | .error fault => .error fault
  | .ok fields =>
    .ok {
      kind := header.kind
      id := header.id
      name := header.name
      base := header.base
      fields
      procedures := Procedure.scan body }

def scan (source : List Char) : Except Fault (List Object) :=
  match Header.scan source with
  | .error fault => .error fault
  | .ok headers =>
    headers.mapM fun header => ofBody header (Source.body source header.bodyStart)

def events (o : Object) : List Event :=
  o.eventProcedures.map fun p =>
    { name := p.name
      role := p.eventRole
      objectKind := o.kind
      objectName := o.name
      parameters := p.parameters }

/-- The calculated fields of an object with what their formulas say. -/
def derivedFields (o : Object) : List DerivedField :=
  o.flowfields.map fun (f, formula) =>
    let reading := Formula.read formula.toList
    { name := f.name
      tableName := o.name
      method := reading.method
      sourceTable := reading.sourceTable
      sourceField := reading.sourceField }

end Object

namespace Extension

/-- The name of the extension in a file: the last name of the path without the ending of source
files. -/
def nameOfPath (path : String) : String :=
  let name := (Path.ofText path).name.toList
  if ['.', 'a', 'l'].isSuffixOf name then String.ofList (name.take (name.length - 3))
  else String.ofList name

def ofSource (source path : String) : Except Fault Extension :=
  match Object.scan source.toList with
  | .error fault => .error fault
  | .ok objects =>
    .ok {
      name := nameOfPath path
      path
      objects
      events := objects.flatMap Object.events
      flowfields := objects.flatMap Object.derivedFields
      dependencies := Dependency.scan source.toList
      source }

/-- The log entry for a source text that has been read. -/
def readEntry (e : Extension) : LogEntry where
  level := .debug
  event := "parsed extension"
  values := [
    ("extension", .string e.name),
    ("objects", .int e.objects.length),
    ("events", .int e.events.length),
    ("flowfields", .int e.flowfields.length)]

end Extension

end ExtensionAtlas
