import Mathlib.Data.Finmap
import ExtensionAtlas.Graph.Store
import ExtensionAtlas.Proofs.Json.Equality

/-! Property graphs, and what statements do to them. A node is known by its label and identifier, an
edge by its type, its ends and, between extensions, its kind and description. Merging finds or
creates, properties and numbers are overwritten, and an edge is only drawn between nodes that are
there. Graphs are equal when they hold the same nodes with the same properties, the same edges and
the same numbers. -/

namespace ExtensionAtlas.Graph

/-- The label and the identifier of a node. -/
abbrev NodeKey := String × Json

abbrev PropertyMap := Finmap fun _ : String => Json

/-- An edge with all that tells it from others. -/
inductive Edge where
  | containment (type : Containment) (outer inner : Json)
  | extending (object base : Json)
  | integration (source target : Json) (kind : IntegrationKind) (description : Json)
  deriving DecidableEq

/-- Nodes with their properties, edges, and the numbers of those edges that have one. -/
structure PropertyGraph where
  nodes : Finmap fun _ : NodeKey => PropertyMap
  edges : Finset Edge
  counts : Finmap fun _ : Edge => Nat

namespace PropertyGraph

def empty : PropertyGraph := ⟨∅, ∅, ∅⟩

/-- Properties after some of them have been set; the others keep their values. -/
def setAll (old : PropertyMap) (properties : Properties) : PropertyMap :=
  properties.foldl (fun m property => m.insert property.1 property.2) old

/-- Finds or creates a node and sets properties of it. -/
def mergeNode (g : PropertyGraph) (key : NodeKey) (properties : Properties) : PropertyGraph :=
  let found := (g.nodes.lookup key).getD (Finmap.singleton "id" key.2)
  { g with nodes := g.nodes.insert key (setAll found properties) }

/-- Draws an edge between two nodes that are there. -/
def link (g : PropertyGraph) (start stop : NodeKey) (edge : Edge) : PropertyGraph :=
  if start ∈ g.nodes ∧ stop ∈ g.nodes then { g with edges := insert edge g.edges } else g

/-- Draws an edge between two nodes that are there, and sets its number. -/
def linkCounted (g : PropertyGraph) (start stop : NodeKey) (edge : Edge) (count : Nat) :
    PropertyGraph :=
  if start ∈ g.nodes ∧ stop ∈ g.nodes then
    { g with edges := insert edge g.edges, counts := g.counts.insert edge count }
  else g

/-- Whether the node with these properties is that of an object of some name that stands on its own.
-/
def IsBase (name : Json) (properties : PropertyMap) : Prop :=
  properties.lookup "name" = some name ∧
    ∃ kind, properties.lookup "kind" = some (.string kind) ∧
      ¬ "extension".toList <:+ kind.toList

instance (name : Json) (properties : PropertyMap) : Decidable (IsBase name properties) :=
  match h : properties.lookup "kind" with
  | some (.string kind) =>
    decidable_of_iff (properties.lookup "name" = some name ∧ ¬ "extension".toList <:+ kind.toList)
      (by simp [IsBase, h])
  | some .null | some (.bool _) | some (.int _) | some (.decimal _ _ _) | some (.special _)
  | some .brokenString | some (.array _) | some (.object _) | none => isFalse (by simp [IsBase, h])

/-- The identifiers of the objects of some name that stand on their own. -/
def bases (g : PropertyGraph) (name : Json) : Finset Json :=
  (g.nodes.keys.filter fun key => key.1 = NodeLabel.object.text ∧
    ∃ properties ∈ g.nodes.lookup key, IsBase name properties).image Prod.snd

/-- Draws the edges from an object that is there to all objects of some name that stand on their
own. -/
def linkBases (g : PropertyGraph) (object name : Json) : PropertyGraph :=
  if (NodeLabel.object.text, object) ∈ g.nodes then
    { g with edges := g.edges ∪ (g.bases name).image (.extending object) }
  else g

/-- What a statement does to a graph. Statements on the schema and questions leave it as it is. -/
def apply (g : PropertyGraph) : Statement → PropertyGraph
  | .mergeNode label id properties => g.mergeNode (label, id) properties
  | .mergeContainment type outer inner =>
    g.link (type.outer.text, outer) (type.inner.text, inner) (.containment type outer inner)
  | .mergeExtends object name => g.linkBases object name
  | .mergeIntegration source target kind description count =>
    g.linkCounted (NodeLabel.extension.text, source) (NodeLabel.extension.text, target)
      (.integration source target kind description) count
  | .uniqueKey _ _ | .index _ _ | .findExtension _ | .outgoing _ | .incoming _
  | .eventProcedures _ | .objectsExtending _ => g

def run (g : PropertyGraph) (statements : List Statement) : PropertyGraph :=
  statements.foldl apply g

/-- An object that is put in twice keeps its last name, and is no base under the first one. -/
example :
    let object (name : String) : Statement :=
      .mergeNode "Object" (.string "1") [("name", .string name), ("kind", .string "table")]
    let g := empty.run [object "Item", object "Article",
      .mergeExtends (.string "1") (.string "Item"),
      .mergeExtends (.string "1") (.string "Article")]
    g.edges = {.extending (.string "1") (.string "1")} ∧
      g.nodes.keys = {("Object", .string "1")} := by
  decide +kernel

end PropertyGraph

/-- The statements that storing an analysis leaves on a connection on which nothing fails. -/
def Store.statements (s : Store) (a : Analysis) : List Statement :=
  ((s.save a).run.run {}).2.statements

def Store.graphAfter (s : Store) (a : Analysis) (g : PropertyGraph) : PropertyGraph :=
  g.run (s.statements a)

end ExtensionAtlas.Graph
