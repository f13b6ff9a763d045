import ExtensionAtlas.Fault
import ExtensionAtlas.Json.Basic
import ExtensionAtlas.Text.Blank
import ExtensionAtlas.Text.Case
import ExtensionAtlas.Text.Numeral
import ExtensionAtlas.Text.Search

/-! Settings and the environment that they come from. The connection to the graph database needs an
address, a user and a password; from the environment none of them can be empty, and settings that
are handed in are passed on as they are. The settings of an analysis all have defaults; the only one
that can be wrong is the number of workers. -/

namespace ExtensionAtlas

abbrev Environment := List (String × String)

/-- A database by its name, as it was given; null is the one that the server chooses. -/
abbrev Database := Json

/-- The database that is used unless another one is named. -/
def Database.standard : Database := .string "neo4j"

/-- How to reach the graph database. -/
structure ConnectionSettings where
  uri : Json
  username : Json
  password : Json
  database : Database := .standard
  deriving Repr

namespace ConnectionSettings

/-- A variable that has to have a value. -/
def needed? (env : Environment) (key : String) : Option String :=
  (env.lookup key).filter (!·.isEmpty)

def load (env : Environment) : Except Fault ConnectionSettings :=
  match needed? env "ALGRAPH_NEO4J_URI", needed? env "ALGRAPH_NEO4J_USER",
    needed? env "ALGRAPH_NEO4J_PASSWORD" with
  | some uri, some username, some password =>
    .ok {
      uri := .string uri
      username := .string username
      password := .string password
      database := ((env.lookup "ALGRAPH_NEO4J_DATABASE").map .string).getD .standard }
  | _, _, _ => .error .connectionUnset

end ConnectionSettings

/-- How source files are found and analysed. -/
structure AnalyzerSettings where
  pattern : String := "**/*.al"
  ignoredDirs : List String := ["node_modules", "dist", "tests"]
  maxWorkers : Int := 8
  includeReferences : Bool := false
  debug : Bool := false
  deriving DecidableEq, Repr

namespace AnalyzerSettings

/-- The number of workers that a text asks for. -/
def readWorkers (raw : String) : Except Fault Int :=
  match Text.readInt? raw.toList with
  | none => .error (.workersUnreadable raw)
  | some n => if n < 1 then .error .workersBelowOne else .ok n

/-- Whether a variable is set to one of the words for yes. -/
def flag (env : Environment) (key : String) : Bool :=
  let word := Text.lower (Text.strip ((env.lookup key).getD "").toList)
  ["1", "true", "yes", "on"].contains (String.ofList word)

/-- Whether messages for debugging are written: as the program was told, and else as the environment
says. -/
def isDebugging (told : Option Bool) (env : Environment) : Bool :=
  told.getD (flag env "ALGRAPH_DEBUG")

/-- The names in a list with commas, without blanks and empty names. -/
def names (list : String) : List String :=
  (((Text.splitAt ',' list.toList).map Text.strip).filter (!·.isEmpty)).map String.ofList

def load (env : Environment) : Except Fault AnalyzerSettings :=
  match readWorkers ((env.lookup "ALGRAPH_MAX_WORKERS").getD "8") with
  | .error fault => .error fault
  | .ok maxWorkers =>
    .ok {
      pattern := (env.lookup "ALGRAPH_CODE_GLOB").getD "**/*.al"
      ignoredDirs := names ((env.lookup "ALGRAPH_IGNORE_DIRS").getD "node_modules,dist,tests")
      maxWorkers
      includeReferences := flag env "ALGRAPH_INCLUDE_REFERENCES"
      debug := isDebugging none env }

end AnalyzerSettings

end ExtensionAtlas
