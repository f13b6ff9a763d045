import ExtensionAtlas.Model.Vocabulary

/-! What is known about an extension: the objects that its source file declares, with their fields
and procedures, and the views of them that other extensions couple to. Records refer to each other
by name only, so each can be read on its own. -/

namespace ExtensionAtlas

/-- A parameter of a procedure. -/
structure Parameter where
  name : String
  type : String := "Variant"
  isVar : Bool := false
  deriving DecidableEq, Repr

/-- The signature of a procedure in the body of an object. -/
structure Procedure where
  name : String
  parameters : List Parameter := []
  returnType : Option String := none
  isEvent : Bool := false
  eventRole : Option EventRole := none
  isLocal : Bool := false
  deriving DecidableEq, Repr

/-- A field of a table. -/
structure Field where
  id : Int
  name : String
  type : String
  isFlowfield : Bool := false
  calcFormula : Option String := none
  deriving DecidableEq, Repr

/-- A declared object. -/
structure Object where
  kind : ObjectKind
  id : Int
  name : String
  base : Option String := none
  fields : List Field := []
  procedures : List Procedure := []
  deriving DecidableEq, Repr

namespace Object

/-- The procedures of an object that are events. -/
def eventProcedures (o : Object) : List Procedure :=
  o.procedures.filter (·.isEvent)

/-- The calculated fields of an object, each with its formula; a field without one is left out. -/
def flowfields (o : Object) : List (Field × String) :=
  o.fields.filterMap fun f =>
    match f.calcFormula with
    | some formula => if f.isFlowfield && !formula.isEmpty then some (f, formula) else none
    | none => none

end Object

/-- An event procedure, seen together with the object that owns it. -/
structure Event where
  name : String
  role : Option EventRole
  objectKind : ObjectKind
  objectName : String
  parameters : List Parameter := []
  deriving DecidableEq, Repr

/-- A calculated field and where its values come from. -/
structure DerivedField where
  name : String
  tableName : String
  method : CalcMethod
  sourceTable : Option String := none
  sourceField : Option String := none
  deriving DecidableEq, Repr

/-- One source file, read. -/
structure Extension where
  name : String
  path : String
  objects : List Object := []
  events : List Event := []
  flowfields : List DerivedField := []
  dependencies : List String := []
  source : String := ""
  deriving DecidableEq, Repr

namespace Extension

/-- The names of the declared objects, in order. -/
def objectNames (e : Extension) : List String :=
  e.objects.map (·.name)

/-- Whether two extensions agree in everything that was read from their sources. -/
def sameStructure (a b : Extension) : Bool :=
  { a with source := "" } == { b with source := "" }

end Extension

/-- A directed coupling between two extensions, by their names. -/
structure Integration where
  source : String
  target : String
  kind : IntegrationKind
  description : String
  deriving DecidableEq, Repr

/-- The values of a list without repetitions, each where it first stood. -/
def firstOccurrences {α : Type} [BEq α] : List α → List α
  | [] => []
  | x :: xs => x :: (firstOccurrences xs).filter (· != x)

/-- The dependencies of several extensions, each once, in the order in which they first appear. -/
def mergeDependencies (extensions : List Extension) : List String :=
  firstOccurrences (extensions.flatMap (·.dependencies))

/-- What is known about a whole batch of source files. -/
structure Analysis where
  extensions : List Extension := []
  integrations : List Integration := []
  dependencies : List String := []
  failedPaths : List String := []
  deriving DecidableEq, Repr

/-- How much an analysis found. -/
structure Counts where
  extensions : Nat
  objects : Nat
  events : Nat
  flowfields : Nat
  integrations : Nat
  failed : Nat
  deriving DecidableEq, Repr

def Analysis.counts (a : Analysis) : Counts where
  extensions := a.extensions.length
  objects := (a.extensions.flatMap (·.objects)).length
  events := (a.extensions.flatMap (·.events)).length
  flowfields := (a.extensions.flatMap (·.flowfields)).length
  integrations := a.integrations.length
  failed := a.failedPaths.length

end ExtensionAtlas
