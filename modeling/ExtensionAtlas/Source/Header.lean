import ExtensionAtlas.Fault
import ExtensionAtlas.Pattern.Search
import ExtensionAtlas.Text.Name
import ExtensionAtlas.Text.Numeral

/-! Declaration headers. An object is declared by a keyword at the start of a line, a number, a name
and, behind `extends`, the name of the object that it extends; an object that stands on its own may
list interfaces behind `implements`. The header ends with an opening brace. Headers of objects that
stand on their own are found first, those of extending objects second; no header is found twice,
since no keyword is of both sorts.

Keywords are recognised whatever their letter case, with the letters beyond ASCII that this brings
in; such a keyword is found but is no kind of object. -/

namespace ExtensionAtlas

/-- A header of a declaration; the body starts just behind its opening brace. -/
structure Header where
  kind : ObjectKind
  id : Nat
  name : String
  base : Option String
  bodyStart : Nat
  deriving DecidableEq, Repr

namespace Header

/-- The captured parts of a header. -/
inductive Part where
  | keyword
  | number
  | name
  | base
  deriving DecidableEq

def keyword (kinds : List ObjectKind) : Pattern Part :=
  .capture .keyword (.oneOf (kinds.map fun kind => .word kind.keyword))

/-- The start of a header up to and including the name. -/
def opening (kinds : List ObjectKind) : List (Pattern Part) :=
  [.lineStart, .blanks, keyword kinds, .someMost fun c => c == ' ' || c == '\t',
    .capture .number (.someMost Text.isDigit), .someBlanks, .name .name]

def extending : Pattern Part :=
  .inOrder [.someBlanks, .word "extends", .someBlanks, .name .base]

/-- A list of interfaces: anything up to the opening brace. -/
def implementing : Pattern Part :=
  .inOrder [.someBlanks, .word "implements", .someBlanks, .fewest (· != '\x7b')]

def brace : List (Pattern Part) := [.blanks, .char '\x7b']

/-- Headers of objects that stand on their own. -/
def basePattern : Pattern Part :=
  .inOrder (opening ObjectKind.base ++ [.optional extending, .optional implementing] ++ brace)

def extendingPattern : Pattern Part :=
  .inOrder (opening ObjectKind.extending ++ [extending] ++ brace)

/-- A captured name without the blanks around it. -/
def nameOf (text : List Char) : String := String.ofList (Text.strip text)

def ofMatch (m : Match Part) : Except Fault Header :=
  let word := String.ofList (Text.lower (m.text .keyword))
  match ObjectKind.ofKeyword? word with
  | none => .error (.unknownWord .objectKinds word)
  | some kind =>
    match Text.readNumeral (m.text .number) with
    | .error fault => .error fault
    | .ok id =>
      .ok ⟨kind, id, nameOf (m.text .name), (m.text? .base).map nameOf, m.stop.offset⟩

def scan (source : List Char) : Except Fault (List Header) :=
  (basePattern.all source ++ extendingPattern.all source).mapM ofMatch

end Header

end ExtensionAtlas
