import ExtensionAtlas.Fault
import ExtensionAtlas.Json.Value
import ExtensionAtlas.Model.Vocabulary

/-! Records: what is known about extensions in the form in which it is handed in and out. The words
of the fixed vocabularies have been looked up; every other value is as it was given, whether or not
it is of the type that belongs there. Null may also stand in the place of a list, which is noticed
only where the list is gone through. Members that are left out have the values given here. -/

namespace ExtensionAtlas.Record

/-- A list as it was given, if it was not null. -/
abbrev Listing (α : Type) := Option (List α)

namespace Listing

/-- The items of a list that is gone through. -/
def items {α : Type} : Listing α → Except Fault (List α)
  | some items => .ok items
  | none => .error (.misused Json.null.kindName .items)

/-- The number of items of a list that is measured. -/
def length {α : Type} : Listing α → Except Fault Nat
  | some items => .ok items.length
  | none => .error (.misused Json.null.kindName .length)

/-- Whether two lists are the same item by item. -/
def same {α : Type} (sameItem : α → α → Bool) : Listing α → Listing α → Bool
  | some items, some others => items.isEqv others sameItem
  | none, none => true
  | _, _ => false

def toJson {α : Type} (itemJson : α → Json) : Listing α → Json
  | some items => .array (items.map itemJson)
  | none => .null

end Listing

/-- A parameter as it was given. -/
structure Parameter where
  name : Json := .null
  type : Json := .string "Variant"
  isVar : Json := .bool false

/-- A procedure as it was given. -/
structure Procedure where
  name : Json := .null
  parameters : Listing Parameter := some []
  returnType : Json := .null
  isEvent : Json := .bool false
  eventRole : Option EventRole := none
  isLocal : Json := .bool false

/-- A field as it was given. -/
structure Field where
  id : Json := .null
  name : Json := .null
  type : Json := .null
  isFlowfield : Json := .bool false
  calcFormula : Json := .null

/-- An object as it was given. -/
structure Object where
  kind : Option ObjectKind := none
  id : Json := .null
  name : Json := .null
  base : Json := .null
  fields : Listing Field := some []
  procedures : Listing Procedure := some []

/-- An event as it was given. -/
structure Event where
  name : Json := .null
  role : Option EventRole := none
  objectKind : Option ObjectKind := none
  objectName : Json := .null
  parameters : Listing Parameter := some []

/-- A calculated field as it was given. -/
structure DerivedField where
  name : Json := .null
  tableName : Json := .null
  method : Option CalcMethod := none
  sourceTable : Json := .null
  sourceField : Json := .null

/-- An extension as it was given. -/
structure Extension where
  name : Json := .null
  path : Json := .null
  objects : Listing Object := some []
  events : Listing Event := some []
  flowfields : Listing DerivedField := some []
  dependencies : Listing Json := some []
  source : Json := .string ""

/-- An edge as it was given. -/
structure Integration where
  source : Json := .null
  target : Json := .null
  kind : Option IntegrationKind := none
  description : Json := .null

/-- An analysis as it was given. -/
structure Analysis where
  extensions : List Extension := []
  integrations : List Integration := []
  dependencies : List Json := []
  failedPaths : List Json := []

/-- The part that a word of a vocabulary is asked for where one is needed. -/
def needWord {α : Type} : Option α → Except Fault α
  | some word => .ok word
  | none => .error (.misused Json.null.kindName (.part "value"))

end ExtensionAtlas.Record
