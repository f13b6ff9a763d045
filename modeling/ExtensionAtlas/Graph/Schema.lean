/-! The schema of the graph: the labels of its nodes, the property that identifies the nodes of a
label, and the properties that are indexed. -/

namespace ExtensionAtlas.Graph

/-- The labels of nodes. -/
inductive NodeLabel where
  | extension
  | object
  | field
  | procedure
  deriving DecidableEq, Repr

def NodeLabel.text : NodeLabel → String
  | extension => "Extension"
  | object => "Object"
  | field => "Field"
  | procedure => "Procedure"

/-- The edges from an element to the elements that it contains. -/
inductive Containment where
  | declares
  | hasField
  | declaresProcedure
  deriving DecidableEq, Repr

namespace Containment

/-- The type of an edge as statements write it. -/
def type : Containment → String
  | declares => "DECLARES"
  | hasField => "HAS_FIELD"
  | declaresProcedure => "DECLARES_PROCEDURE"

def outer : Containment → NodeLabel
  | declares => .extension
  | hasField | declaresProcedure => .object

def inner : Containment → NodeLabel
  | declares => .object
  | hasField => .field
  | declaresProcedure => .procedure

end Containment

/-- Which property identifies the nodes of a label, and which properties have an index, in order. -/
structure Schema where
  nodeKeys : List (String × String)
  nodeIndexes : List (String × List String)
  deriving DecidableEq, Repr

/-- The schema that an analysis is stored under. -/
def Schema.standard : Schema where
  nodeKeys := [("Extension", "id"), ("Object", "id"), ("Field", "id"), ("Procedure", "id")]
  nodeIndexes := [
    ("Extension", ["name"]),
    ("Object", ["name", "kind", "extension"]),
    ("Field", ["name", "objectName"]),
    ("Procedure", ["name", "objectName", "eventRole"])]

end ExtensionAtlas.Graph
