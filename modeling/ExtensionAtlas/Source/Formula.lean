import ExtensionAtlas.Model.Extension
import ExtensionAtlas.Pattern.Search
import ExtensionAtlas.Text.Blank

/-! Formulas of calculated fields. A formula starts with the name of its method, and its source is
the first reference in parentheses of the form table, point, field. Tables and fields are
identifiers or texts in double quotes, which may be empty; a blank name counts as none. -/

namespace ExtensionAtlas.Formula

/-- The captured parts of a formula. -/
inductive Part where
  | table
  | field
  deriving DecidableEq

def isNameStart (c : Char) : Bool := c.isAlpha || c == '_'

/-- Whether a character can stand inside an identifier. -/
def isNamePart (c : Char) : Bool := c.isAlphanum || c == '_'

/-- Whether a character can stand between the quotes of a name. -/
def isQuotable (c : Char) : Bool := c != '\x22' && c != '\n'

/-- A name in a reference, captured without the quotes that it may have. -/
def name (slot : Part) : Pattern Part :=
  .oneOf [
    .inOrder [.char '\x22', .capture slot (.most isQuotable), .char '\x22'],
    .capture slot (.both (.one isNameStart) (.most isNamePart))]

/-- A reference to a field of a table behind an opening parenthesis. -/
def reference : Pattern Part :=
  .inOrder [.char '(', .blanks, name .table, .blanks, .char '.', .blanks, name .field]

def method (formula : List Char) : CalcMethod :=
  let word := ((formula.dropWhile Text.isBlank).takeWhile Char.isAlpha).map Char.toLower
  (CalcMethod.named.find? fun method => method.label.toList.map Char.toLower == word).getD .unknown

/-- What a formula says about the field that it calculates. -/
structure Reading where
  method : CalcMethod
  sourceTable : Option String := none
  sourceField : Option String := none
  deriving DecidableEq, Repr

/-- A name without the blanks around it, if anything is left of it. -/
def nameOf? (text : List Char) : Option String :=
  match Text.strip text with
  | [] => none
  | name => some (String.ofList name)

def read (formula : List Char) : Reading :=
  match reference.first? formula with
  | none => { method := method formula }
  | some m =>
    { method := method formula
      sourceTable := nameOf? (m.text .table)
      sourceField := nameOf? (m.text .field) }

end ExtensionAtlas.Formula
