import ExtensionAtlas.Model.Extension
import ExtensionAtlas.Pattern.Search
import ExtensionAtlas.Text.Name
import ExtensionAtlas.Text.Numeral
import ExtensionAtlas.Text.Search

/-! Field declarations in the body of an object. A field is declared by its number, name and type in
parentheses. A field whose type speaks of a flowfield has a formula, which is looked up by
proximity: the first declaration that mentions the name, and behind it an assignment, before any
closing brace. A name that is part of another field's text can therefore find that field's formula.
-/

namespace ExtensionAtlas.Field

/-- The captured parts of a field declaration. -/
inductive Part where
  | number
  | name
  | type
  | formula
  deriving DecidableEq

/-- Whether a character can stand in a name without quotes. -/
def isBareName (c : Char) : Bool := c != ';' && c != '\x22' && c != '\n'

/-- Whether a character can stand in the type of a field. -/
def isTypePart (c : Char) : Bool := c != ';' && c != '\x7b' && c != ')'

/-- The word that declares a field, up to its opening parenthesis. -/
def opening : List (Pattern Part) := [.wordEdge, .word "field", .blanks, .char '(']

def pattern : Pattern Part :=
  .inOrder (opening ++
    [.blanks, .capture .number (.someMost Text.isDigit), .blanks, .char ';', .blanks,
      .oneOf [.quotedName .name, .capture .name (.someFewest isBareName)], .blanks, .char ';',
      .blanks, .capture .type (.someFewest isTypePart), .blanks, .char ')'])

/-- Any text without a closing brace, as much of it as possible. -/
def uptoBrace : Pattern Part := .most (· != '\x7d')

/-- A declaration that mentions a name and then assigns a formula. -/
def formulaPattern (name : List Char) : Pattern Part :=
  .inOrder (opening ++
    [uptoBrace, .letters name, uptoBrace, .word "CalcFormula", .blanks, .char '=', .blanks,
      .capture .formula (.someMost (· != ';')), .char ';'])

/-- The formula found for a field of some name. -/
def formula? (body name : List Char) : Option (List Char) :=
  match (formulaPattern name).first? body with
  | none => none
  | some m =>
    match Text.strip (m.text .formula) with
    | [] => none
    | formula => some formula

def isFlowType (type : List Char) : Bool :=
  Text.occursIn "flowfield".toList (Text.lower type)

/-- The field that a match in a body stands for. -/
def ofMatch (body : List Char) (m : Match Part) : Except Fault Field :=
  let name := Text.strip (m.text .name)
  let type := Text.strip (m.text .type)
  match Text.readNumeral (m.text .number) with
  | .error fault => .error fault
  | .ok id =>
    .ok {
      id
      name := String.ofList name
      type := String.ofList type
      isFlowfield := isFlowType type
      calcFormula := if isFlowType type then (formula? body name).map String.ofList else none }

def scan (body : List Char) : Except Fault (List Field) :=
  (pattern.all body).mapM (ofMatch body)

end ExtensionAtlas.Field
