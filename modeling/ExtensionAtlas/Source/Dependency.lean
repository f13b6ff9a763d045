import ExtensionAtlas.Pattern.Search
import ExtensionAtlas.Text.Name

/-! What a source text depends on: first the namespaces that it imports, as often as it imports
them, then the tables that its record variables name, each once and only if it is not listed yet. -/

namespace ExtensionAtlas.Dependency

def importPattern : Pattern Unit :=
  .inOrder [.wordEdge, .word "using", .someBlanks, .capture () (.someMost (· != ';')), .char ';']

/-- A record type and the table that it names. -/
def recordPattern : Pattern Unit :=
  .inOrder [.wordEdge, .oneOf [.word "Record", .word "RecRef", .word "Rec"], .someBlanks, .name ()]

/-- What the matches of a pattern captured, without the blanks around it. -/
def names (pattern : Pattern Unit) (source : List Char) : List String :=
  (pattern.all source).map fun m => String.ofList (Text.strip (m.text ()))

/-- Appends a name to a list of dependencies unless it is empty or listed already. -/
def addNew (listed : List String) (name : String) : List String :=
  if name.isEmpty || listed.contains name then listed else listed ++ [name]

def scan (source : List Char) : List String :=
  (names recordPattern source).foldl addNew (names importPattern source)

end ExtensionAtlas.Dependency
