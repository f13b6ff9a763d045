import ExtensionAtlas.Log
import ExtensionAtlas.Model.Extension
import ExtensionAtlas.Text.Case
import ExtensionAtlas.Text.Search

/-! How the extensions of a batch couple. A publisher couples to a subscriber when the name of one
event contains the name of the other, letter case aside. A calculated field couples to an extension
with an object whose name contains the name of the source table; that edge runs towards the field. A
dependency couples to an extension with an object of that name, where references are asked for.
Extensions of one name never couple, and no edge is left out for being there already. -/

namespace ExtensionAtlas

/-- Whether the events of two names belong together. -/
def eventNamesMatch (publisher subscriber : String) : Bool :=
  publisher == subscriber
    || Text.occursIn (Text.lower publisher.toList) (Text.lower subscriber.toList)
    || Text.occursIn (Text.lower subscriber.toList) (Text.lower publisher.toList)

/-- Whether an object can be the table that a formula names. -/
def namesTable (object table : String) : Bool :=
  object == table || Text.occursIn table.toList object.toList

namespace Event

/-- Whether an event is a subscriber whose name matches that of a publisher. -/
def answers (subscriber publisher : Event) : Bool :=
  subscriber.role == some .subscriber && eventNamesMatch publisher.name subscriber.name

end Event

namespace DerivedField

/-- The source table of a field, if its formula names one. -/
def table? (f : DerivedField) : Option String :=
  f.sourceTable.filter (!·.isEmpty)

end DerivedField

namespace Extension

/-- The extensions of a batch that an extension can couple to. -/
def others (e : Extension) (batch : List Extension) : List Extension :=
  batch.filter (·.name != e.name)

/-- Whether an extension has an object that can be the table of some name. -/
def hasTable (e : Extension) (table : String) : Bool :=
  e.objects.any fun o => namesTable o.name table

end Extension

namespace Integration

/-- The edge of a publisher to an extension with a subscriber. -/
def ofEvent (e : Extension) (publisher : Event) (other : Extension) : Integration :=
  ⟨e.name, other.name, .event, s!"{publisher.name} event integration"⟩

/-- The edge of an extension with a source table to a calculated field. -/
def ofDerivedField (e : Extension) (f : DerivedField) (table : String) (other : Extension) :
    Integration :=
  ⟨other.name, e.name, .derivedField, s!"{f.name} flowfield references {table}"⟩

/-- The edge of a dependency to an extension with an object of that name. -/
def ofReference (e : Extension) (dependency : String) (other : Extension) : Integration :=
  ⟨e.name, other.name, .reference, s!"{e.name} references {dependency}"⟩

/-- The edges of one extension's publishers into a batch, one for every subscriber. -/
def eventEdges (batch : List Extension) (e : Extension) : List Integration :=
  (e.events.filter (·.role == some .publisher)).flatMap fun publisher =>
    (e.others batch).flatMap fun other =>
      (other.events.filter (·.answers publisher)).map fun _ => ofEvent e publisher other

/-- The edges of a batch to one extension's calculated fields, one for every extension with a source
table. -/
def derivedFieldEdges (batch : List Extension) (e : Extension) : List Integration :=
  e.flowfields.flatMap fun f =>
    match f.table? with
    | some table =>
      ((e.others batch).filter (·.hasTable table)).map (ofDerivedField e f table)
    | none => []

/-- The edges of one extension's dependencies into a batch, one for every extension with an object
of that name. -/
def referenceEdges (batch : List Extension) (e : Extension) : List Integration :=
  e.dependencies.flatMap fun dependency =>
    ((e.others batch).filter (·.objectNames.contains dependency)).map (ofReference e dependency)

def resolve (references : Bool) (batch : List Extension) : List Integration :=
  batch.flatMap (eventEdges batch) ++ batch.flatMap (derivedFieldEdges batch)
    ++ (if references then batch.flatMap (referenceEdges batch) else [])

/-- The log entry for a batch whose edges have been found. -/
def resolvedEntry (batch : List Extension) (edges : List Integration) : LogEntry where
  level := .debug
  event := "resolved integrations"
  values := [("extensions", .int batch.length), ("integrations", .int edges.length)]

end Integration

/-- The analysis of extensions together with the paths that gave none. -/
def Analysis.ofExtensions (references : Bool) (extensions : List Extension)
    (failedPaths : List String) : Analysis where
  extensions
  integrations := Integration.resolve references extensions
  dependencies := mergeDependencies extensions
  failedPaths

end ExtensionAtlas
