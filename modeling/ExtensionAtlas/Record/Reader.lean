import ExtensionAtlas.Json.Shown
import ExtensionAtlas.Record.Basic

/-! Reading records from JSON objects. The members of a record are read in the order in which they
stand in it, words and inner records as they come; then the record itself is put together, which
takes no member that it does not have and needs those without a value of their own. -/

namespace ExtensionAtlas.Record

/-- The members of a value that has to be an object. -/
def membersOf : Json → Except Fault (List (String × Json))
  | .object members => .ok members
  | value => .error (.misused value.kindName (.part "items"))

/-- The items of a value: those of a list, the characters of a text, the keys of an object. -/
def itemsOf : Json → Except Fault (List Json)
  | .array items => .ok items
  | .string text => .ok (text.toList.map fun c => .string c.toString)
  | .object members => .ok (members.map fun m => .string m.1)
  | value => .error (.misused value.kindName .items)

/-- Reads the items of a value one by one; null has none. -/
def readItems {α : Type} (read : Json → Except Fault α) : Json → Except Fault (Listing α)
  | .null => .ok none
  | value => do return some (← (← itemsOf value).mapM read)

/-- Looks up a word; null is no word. -/
def readWord {α : Type} (vocabulary : Vocabulary) (find? : String → Option α) :
    Json → Except Fault (Option α)
  | .null => .ok none
  | .string word =>
    match find? word with
    | some value => .ok (some value)
    | none => .error (.unknownWord vocabulary word)
  | value => .error (.notWord vocabulary value.shown)

/-- The shape of a record: under which name messages report it, the members that it needs, and the
members that it can do without. -/
structure Shape where
  title : String
  needed : List String
  others : List String := []

/-- Whether the members of a record are those of its shape. -/
def Shape.check (shape : Shape) (members : List (String × Json)) : Except Fault Unit :=
  let keys := members.map Prod.fst
  match keys.find? fun key => !(shape.needed ++ shape.others).contains key with
  | some key => .error (.unknownMember shape.title key)
  | none =>
    match shape.needed.filter fun key => !keys.contains key with
    | [] => .ok ()
    | absent => .error (.incomplete shape.title absent)

/-- Reads a record: each member is put into what has been read so far. -/
def fill {α : Type} (shape : Shape) (empty : α) (put : α → String → Json → Except Fault α)
    (r : Json) : Except Fault α := do
  let members ← membersOf r
  let filled ← members.foldlM (fun done (key, value) => put done key value) empty
  shape.check members
  return filled

def parameter : Json → Except Fault Parameter :=
  fill ⟨"Parameter", ["name"], ["type", "is_var"]⟩ {} fun p key value =>
    match key with
    | "name" => .ok { p with name := value }
    | "type" => .ok { p with type := value }
    | "is_var" => .ok { p with isVar := value }
    | _ => .ok p

def procedure : Json → Except Fault Procedure :=
  fill ⟨"Procedure", ["name"], ["parameters", "return_type", "is_event", "event_role", "is_local"]⟩
    {} fun p key value =>
    match key with
    | "name" => .ok { p with name := value }
    | "parameters" => return { p with parameters := ← readItems parameter value }
    | "return_type" => .ok { p with returnType := value }
    | "is_event" => .ok { p with isEvent := value }
    | "event_role" =>
      return { p with eventRole := ← readWord .eventRoles EventRole.ofLabel? value }
    | "is_local" => .ok { p with isLocal := value }
    | _ => .ok p

def field : Json → Except Fault Field :=
  fill ⟨"Field", ["field_id", "name", "type"], ["is_flowfield", "calc_formula"]⟩ {}
    fun f key value =>
    match key with
    | "field_id" => .ok { f with id := value }
    | "name" => .ok { f with name := value }
    | "type" => .ok { f with type := value }
    | "is_flowfield" => .ok { f with isFlowfield := value }
    | "calc_formula" => .ok { f with calcFormula := value }
    | _ => .ok f

def object : Json → Except Fault Object :=
  fill ⟨"ALObject", ["kind", "object_id", "name"], ["extends", "fields", "procedures"]⟩ {}
    fun o key value =>
    match key with
    | "kind" => return { o with kind := ← readWord .objectKinds ObjectKind.ofKeyword? value }
    | "object_id" => .ok { o with id := value }
    | "name" => .ok { o with name := value }
    | "extends" => .ok { o with base := value }
    | "fields" => return { o with fields := ← readItems field value }
    | "procedures" => return { o with procedures := ← readItems procedure value }
    | _ => .ok o

def event : Json → Except Fault Event :=
  fill ⟨"Event", ["name", "role", "object_kind", "object_name"], ["parameters"]⟩ {}
    fun e key value =>
    match key with
    | "name" => .ok { e with name := value }
    | "role" => return { e with role := ← readWord .eventRoles EventRole.ofLabel? value }
    | "object_kind" =>
      return { e with objectKind := ← readWord .objectKinds ObjectKind.ofKeyword? value }
    | "object_name" => .ok { e with objectName := value }
    | "parameters" => return { e with parameters := ← readItems parameter value }
    | _ => .ok e

def derivedField : Json → Except Fault DerivedField :=
  fill ⟨"DerivedField", ["name", "table_name", "calc_method"], ["source_table", "source_field"]⟩ {}
    fun f key value =>
    match key with
    | "name" => .ok { f with name := value }
    | "table_name" => .ok { f with tableName := value }
    | "calc_method" =>
      return { f with method := ← readWord .calcMethods CalcMethod.ofLabel? value }
    | "source_table" => .ok { f with sourceTable := value }
    | "source_field" => .ok { f with sourceField := value }
    | _ => .ok f

def extension : Json → Except Fault Extension :=
  fill ⟨"Extension", ["name", "path"],
    ["objects", "events", "flowfields", "dependencies", "source"]⟩ {} fun e key value =>
    match key with
    | "name" => .ok { e with name := value }
    | "path" => .ok { e with path := value }
    | "objects" => return { e with objects := ← readItems object value }
    | "events" => return { e with events := ← readItems event value }
    | "flowfields" => return { e with flowfields := ← readItems derivedField value }
    | "dependencies" => return { e with dependencies := ← readItems .ok value }
    | "source" => .ok { e with source := value }
    | _ => .ok e

def integration : Json → Except Fault Integration :=
  fill ⟨"Integration", ["source", "target", "kind", "description"], []⟩ {} fun i key value =>
    match key with
    | "source" => .ok { i with source := value }
    | "target" => .ok { i with target := value }
    | "kind" =>
      return { i with kind := ← readWord .integrationKinds IntegrationKind.ofLabel? value }
    | "description" => .ok { i with description := value }
    | _ => .ok i

end ExtensionAtlas.Record
