import ExtensionAtlas.Model.Extension
import ExtensionAtlas.Pattern.Search
import ExtensionAtlas.Source.Parameter
import ExtensionAtlas.Text.Name

/-! Procedure declarations in the body of an object. A procedure is an event if some attribute of an
event stands in front of a procedure of that name; what lies between attribute and procedure is at
most blanks and a modifier. The attribute is found anywhere in the body, so procedures that share a
name share a role, and a name that begins another name shares its attributes. A subscriber attribute
counts before a publisher attribute. -/

namespace ExtensionAtlas

namespace EventRole

/-- The attributes that make a procedure an event of some role. -/
def attributes : EventRole → List String
  | publisher => ["IntegrationEvent", "BusinessEvent", "InternalEvent"]
  | subscriber => ["EventSubscriber"]

/-- The words that may stand in front of `procedure`. -/
def modifiers : List String := ["local", "internal"]

/-- An attribute of a role on one line, and behind it a procedure whose name starts with a text. -/
def attributePattern (role : EventRole) (name : List Char) : Pattern Unit :=
  .inOrder [
    .char '[', .blanks, .oneOf (role.attributes.map .word), .most (· != '\n'), .char ']', .blanks,
    .optional (.both (.oneOf (modifiers.map .word)) .someBlanks),
    .word "procedure", .someBlanks, .optional (.char '\x22'), .letters name]

/-- The role of the procedures of some name in a body. -/
def find? (body name : List Char) : Option EventRole :=
  if (attributePattern subscriber name).occursIn body then some subscriber
  else if (attributePattern publisher name).occursIn body then some publisher
  else none

end EventRole

namespace Procedure

/-- The captured parts of a procedure declaration. -/
inductive Part where
  | modifier
  | name
  | parameters
  | returns
  deriving DecidableEq

/-- Whether a character can stand in a return type. -/
def isReturnPart (c : Char) : Bool := c != ';' && c != '\x7b'

def wholeWord (keyword : String) : Pattern Part :=
  .inOrder [.wordEdge, .word keyword, .wordEdge]

/-- Procedure declarations, up to what starts the body or ends the declaration. -/
def pattern : Pattern Part :=
  .inOrder [
    .optional (.inOrder [.wordEdge,
      .capture .modifier (.oneOf (EventRole.modifiers.map .word)), .someBlanks]),
    .wordEdge, .word "procedure", .someBlanks, .name .name,
    .blanks, .char '(', .capture .parameters (.most (· != ')')), .char ')',
    .blanks,
    .optional (.inOrder [.char ':', .blanks, .capture .returns (.someFewest isReturnPart)]),
    .blanks, .oneOf [.char ';', .char '\x7b', wholeWord "var", wholeWord "begin"]]

/-- A text without the blanks around it, if anything is left of it. -/
def presentText? (text : Option (List Char)) : Option String :=
  match Text.strip (text.getD []) with
  | [] => none
  | text => some (String.ofList text)

/-- The procedure that a match in a body stands for. -/
def ofMatch (body : List Char) (m : Match Part) : Procedure :=
  let name := Text.strip (m.text .name)
  let role := EventRole.find? body name
  { name := String.ofList name
    parameters := Parameter.scan (m.text .parameters)
    returnType := presentText? (m.text? .returns)
    isEvent := role.isSome
    eventRole := role
    isLocal := Text.lower (m.text .modifier) == "local".toList }

def scan (body : List Char) : List Procedure :=
  (pattern.all body).map (ofMatch body)

end Procedure

end ExtensionAtlas
