import ExtensionAtlas.Model.Extension
import ExtensionAtlas.Proofs.Text.Plain
import ExtensionAtlas.Source.Header

/-! Declarations as data, how each is printed, and the record that each stands for. A declaration
carries what keeps its parts apart in print: names and types are plain, an object that extends
another one names it and has no interfaces, and no part of a text reads as a keyword where one is
looked for. -/

namespace ExtensionAtlas.Source

open Text (Numeral Plain Spelling)

/-- What stands in front of each declaration in a body. -/
def indent : List Char := [' ', ' ', ' ', ' ']

def quote (p : Plain) : List Char := '\x22' :: (p.chars ++ ['\x22'])

/-- A parameter, with or without `var` in front of it. -/
structure ParameterDecl where
  marker : Option (Spelling "var")
  name : Plain
  type : Plain
  unmarked : marker = none → ¬"var ".toList <+: name.chars.map Char.toLower

namespace ParameterDecl

def print (d : ParameterDecl) : List Char :=
  d.marker.elim [] (·.letters ++ [' ']) ++ (d.name.chars ++ ':' :: ' ' :: d.type.chars)

def parameter (d : ParameterDecl) : Parameter where
  name := d.name.text
  type := d.type.text
  isVar := d.marker.isSome

end ParameterDecl

/-- What declares a field: its number, name and type. -/
structure FieldHead where
  keyword : Spelling "field"
  number : Numeral
  name : Plain
  type : Plain

/-- A field from its keyword to the closing parenthesis. -/
def FieldHead.core (d : FieldHead) : List Char :=
  d.keyword.letters ++ '(' :: (d.number.digits ++ ';' :: ' ' :: (quote d.name ++ ';' :: ' ' ::
    (d.type.chars ++ [')'])))

/-- A field whose type does not speak of a flowfield. -/
structure FieldDecl extends FieldHead where
  stored : ¬"flowfield".toList <:+: type.chars.map Char.toLower

namespace FieldDecl

def print (d : FieldDecl) : List Char :=
  indent ++ (d.core ++ [' ', '\x7b', ' ', '\x7d', '\n'])

def field (d : FieldDecl) : Field where
  id := d.number.value
  name := d.name.text
  type := d.type.text

end FieldDecl

/-- Whether a word stands in a text, letter case aside, with no word character on either side. -/
def HasWord (word text : List Char) : Prop :=
  ∃ front part back, text = front ++ part ++ back ∧ part.map Char.toLower = word
    ∧ (∀ c ∈ front.getLast?, Text.isWord c = false)
    ∧ (∀ c ∈ back.head?, Text.isWord c = false)

/-- A return type in which no word starts a body. -/
structure ReturnDecl where
  type : Plain
  no_var : ¬HasWord "var".toList type.chars
  no_begin : ¬HasWord "begin".toList type.chars

/-- What limits where a procedure can be called. -/
inductive Modifier where
  | localOnly (spelling : Spelling "local")
  | internalOnly (spelling : Spelling "internal")

namespace Modifier

def keyword : Modifier → String
  | localOnly _ => "local"
  | internalOnly _ => "internal"

def spelling : (m : Modifier) → Spelling m.keyword
  | localOnly spelling => spelling
  | internalOnly spelling => spelling

def letters (m : Modifier) : List Char := m.spelling.letters

def isLocal : Modifier → Bool
  | localOnly _ => true
  | internalOnly _ => false

end Modifier

/-- A procedure without a body of its own. -/
structure ProcedureDecl where
  modifier : Option Modifier
  keyword : Spelling "procedure"
  name : Plain
  parameters : List ParameterDecl
  returns : Option ReturnDecl

namespace ProcedureDecl

/-- The parameters between the parentheses. -/
def list (d : ProcedureDecl) : List Char :=
  [';', ' '].intercalate (d.parameters.map ParameterDecl.print)

/-- A procedure from its modifier to the semicolon. -/
def core (d : ProcedureDecl) : List Char :=
  d.modifier.elim [] (·.letters ++ [' ']) ++ (d.keyword.letters ++ ' ' :: (quote d.name ++ '(' ::
    (d.list ++ ')' :: (d.returns.elim [] (':' :: ' ' :: ·.type.chars) ++ [';']))))

def print (d : ProcedureDecl) : List Char := indent ++ (d.core ++ ['\n'])

def procedure (d : ProcedureDecl) : Procedure where
  name := d.name.text
  parameters := d.parameters.map ParameterDecl.parameter
  returnType := d.returns.map (·.type.text)
  isLocal := d.modifier.any Modifier.isLocal

/-- The procedure if its name has a role. -/
def withRole (d : ProcedureDecl) (role : Option EventRole) : Procedure :=
  { d.procedure with isEvent := role.isSome, eventRole := role }

end ProcedureDecl

structure ExtendsClause where
  keyword : Spelling "extends"
  target : Plain

def ExtendsClause.print (e : ExtendsClause) : List Char :=
  ' ' :: (e.keyword.letters ++ ' ' :: quote e.target)

/-- The names of the interfaces of an object, at least one. -/
structure ImplementsClause where
  keyword : Spelling "implements"
  first : Plain
  others : List Plain

namespace ImplementsClause

def names (i : ImplementsClause) : List Char :=
  [',', ' '].intercalate ((i.first :: i.others).map (·.chars))

def print (i : ImplementsClause) : List Char := ' ' :: (i.keyword.letters ++ ' ' :: i.names)

end ImplementsClause

/-- An object with its fields and procedures. -/
structure ObjectDecl where
  kind : ObjectKind
  keyword : Spelling kind.keyword
  number : Numeral
  name : Plain
  base : Option ExtendsClause
  interfaces : Option ImplementsClause
  fields : List FieldDecl
  procedures : List ProcedureDecl
  extends_some : kind.isExtension = true → base.isSome = true
  implements_none : kind.isExtension = true → interfaces = none

namespace ObjectDecl

def members (d : ObjectDecl) : List Char :=
  d.fields.flatMap FieldDecl.print ++ d.procedures.flatMap ProcedureDecl.print

/-- The start of an object, up to its name. -/
def opening (d : ObjectDecl) : List Char :=
  d.keyword.letters ++ ' ' :: (d.number.digits ++ ' ' :: quote d.name)

/-- The header of an object, up to the opening brace. -/
def heading (d : ObjectDecl) : List Char :=
  d.opening ++ (d.base.elim [] ExtendsClause.print ++ (d.interfaces.elim [] ImplementsClause.print
    ++ ['\n', '\x7b']))

def print (d : ObjectDecl) : List Char :=
  d.heading ++ ('\n' :: (d.members ++ ['\x7d', '\n']))

/-- The heading of an object around the text of some members. -/
def around (d : ObjectDecl) (members : List Char) : List Char :=
  d.heading ++ ('\n' :: (members ++ ['\x7d', '\n']))

/-- What is read from the heading of an object behind some text. -/
def header (d : ObjectDecl) (front : List Char) : Header where
  kind := d.kind
  id := d.number.value
  name := d.name.text
  base := d.base.map (·.target.text)
  bodyStart := (front ++ d.heading).length

def object (d : ObjectDecl) : Object where
  kind := d.kind
  id := d.number.value
  name := d.name.text
  base := d.base.map (·.target.text)
  fields := d.fields.map FieldDecl.field
  procedures := d.procedures.map ProcedureDecl.procedure

end ObjectDecl

/-- The source text of some objects, one after another. -/
def print (objects : List ObjectDecl) : List Char := objects.flatMap ObjectDecl.print

end ExtensionAtlas.Source
