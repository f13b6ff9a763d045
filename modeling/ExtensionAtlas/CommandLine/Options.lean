import ExtensionAtlas.Text.Digit
import ExtensionAtlas.Text.Quoted
import ExtensionAtlas.Text.Search

/-! The options of the command line. A word that starts with a hyphen is an option unless it is a
lone hyphen, looks like a negative number or has a blank in it; long options may be cut short as
long as one option is meant. Behind two hyphens on their own every word is an input. The inputs are
the first unbroken run of words that are no options; further words are not understood. -/

namespace ExtensionAtlas.CommandLine

/-- The options. -/
inductive Flag where
  | help
  | json
  | includeSource
  | references
  | syncGraph
  | debug
  deriving DecidableEq, Repr

namespace Flag

/-- The spellings of the options, in the order in which they are listed. -/
def spellings : List (String × Flag) := [
  ("-h", help), ("--help", help), ("--json", json), ("--include-source", includeSource),
  ("--references", references), ("--sync-graph", syncGraph), ("--debug", debug)]

def title : Flag → String
  | help => "-h/--help"
  | json => "--json"
  | includeSource => "--include-source"
  | references => "--references"
  | syncGraph => "--sync-graph"
  | debug => "--debug"

end Flag

/-- What a word of the command line is; an option may have a value attached to it. -/
inductive Word where
  | input
  | separator
  | option (flag : Flag) (short : Bool) (attached : Option (List Char))
  | unknown
  | ambiguous (matching : List String)
  deriving DecidableEq, Repr

/-- Whether a text is digits and nothing else. -/
def allDigits (text : List Char) : Bool := !text.isEmpty && text.all Text.isDigit

/-- Whether a word looks like a negative number; a line feed may end it. -/
def isNegativeNumber (word : List Char) : Bool :=
  let body := if word.getLast? == some '\n' then word.dropLast else word
  match body with
  | '-' :: rest =>
    allDigits rest ||
      match Text.cutAt '.' rest with
      | (whole, some fraction) => whole.all Text.isDigit && allDigits fraction
      | _ => false
  | _ => false

/-- The options that a word may mean, with the values attached to them. -/
def candidates (word : List Char) : List (String × Word) :=
  match word with
  | '-' :: '-' :: _ =>
    let (name, attached) := Text.cutAt '=' word
    (Flag.spellings.filter fun s => name.isPrefixOf s.1.toList).map fun (spelling, flag) =>
      (spelling, .option flag false attached)
  | _ =>
    (Flag.spellings.filter fun s => s.1.toList == word.take 2).map fun (spelling, flag) =>
      (spelling, .option flag true (some (word.drop 2)))

def spelled? (name : List Char) (attached : Option (List Char)) : Option Word :=
  (Flag.spellings.lookup (String.ofList name)).map fun flag =>
    .option flag (name == ['-', 'h']) attached

/-- What a word is in front of a separator. -/
def Word.ofText (text : String) : Word :=
  let word := text.toList
  let (name, attached) := Text.cutAt '=' word
  if word.head? != some '-' then .input
  else if text == "--" then .separator
  else if word.length == 1 then .input
  else
    match spelled? word none, if attached.isSome then spelled? name attached else none with
    | some meant, _ => meant
    | none, some meant => meant
    | none, none =>
      match candidates word with
      | [(_, meant)] => meant
      | [] => if isNegativeNumber word || word.contains ' ' then .input else .unknown
      | several => .ambiguous (several.map Prod.fst)

/-- The words of a command line with what they are; behind a separator all are inputs. -/
def classify : List String → List (String × Word)
  | [] => []
  | text :: rest =>
    match Word.ofText text with
    | .separator => (text, .separator) :: rest.map (·, .input)
    | word => (text, word) :: classify rest

/-- What a command line asks for. -/
structure Options where
  inputs : List String := []
  json : Bool := false
  includeSource : Bool := false
  references : Bool := false
  syncGraph : Bool := false
  debug : Bool := false
  deriving DecidableEq, Repr

/-- The reading of a command line: options, a call for help, or a complaint. -/
inductive Parsed where
  | run (options : Options)
  | help
  | complaint (text : String)
  deriving DecidableEq, Repr

def Options.set (o : Options) : Flag → Options
  | .help => o
  | .json => { o with json := true }
  | .includeSource => { o with includeSource := true }
  | .references => { o with references := true }
  | .syncGraph => { o with syncGraph := true }
  | .debug => { o with debug := true }

/-- The complaint about a value that an option does not take. -/
def ignoredValue (flag : Flag) (value : List Char) : String :=
  s!"argument {flag.title}: ignored explicit argument {Text.quoted (String.ofList value)}"

/-- What is wrong with letters behind the short option: each has to be that option again. -/
def shortComplaint? : List Char → Option String
  | [] => none
  | 'h' :: rest => shortComplaint? rest
  | value => some (ignoredValue .help value)

/-- What is wrong with a value attached to an option. -/
def attachedComplaint? (flag : Flag) (short : Bool) (value : List Char) : Option String :=
  if short && !value.isEmpty then shortComplaint? value else some (ignoredValue flag value)

/-- Where reading stands: the options so far, the inputs once their run is over, the run under way,
and the words that are not understood. -/
structure Progress where
  options : Options := {}
  taken : Bool := false
  run : List (String × Word) := []
  extras : List String := []

namespace Progress

/-- Ends the run under way: the first one with an input in it gives the inputs. -/
def endRun (p : Progress) : Progress :=
  if !p.taken && p.run.any (·.2 == .input) then
    { p with
      taken := true
      run := []
      options := { p.options with inputs := (p.run.filter (·.2 == .input)).map (·.1) } }
  else { p with run := [], extras := p.extras ++ p.run.map (·.1) }

end Progress

def readWords (p : Progress) : List (String × Word) → Except Parsed Progress
  | [] => .ok p.endRun
  | (text, word) :: rest =>
    match word with
    | .input | .separator => readWords { p with run := p.run ++ [(text, word)] } rest
    | .unknown | .ambiguous _ =>
      let p := p.endRun
      readWords { p with extras := p.extras ++ [text] } rest
    | .option flag short attached =>
      let p := p.endRun
      match attached.bind (attachedComplaint? flag short) with
      | some complaint => .error (.complaint complaint)
      | none =>
        if flag == .help then .error .help
        else readWords { p with options := p.options.set flag } rest

/-- The complaint about a word that may mean several options. -/
def ambiguity? : String × Word → Option String
  | (text, .ambiguous matching) =>
    some (s!"ambiguous option: {text} could match " ++ String.intercalate ", " matching)
  | _ => none

def parse (words : List String) : Parsed :=
  let classified := classify words
  match classified.findSome? ambiguity? with
  | some complaint => .complaint complaint
  | none =>
    match readWords {} classified with
    | .error parsed => parsed
    | .ok p =>
      if !p.taken then .complaint "the following arguments are required: paths"
      else if !p.extras.isEmpty then
        .complaint ("unrecognized arguments: " ++ String.intercalate " " p.extras)
      else .run p.options

def help : String :=
  String.intercalate "\n" [
    "usage: algraph [-h] [--json] [--include-source] [--references] [--sync-graph]",
    "               [--debug]",
    "               paths [paths ...]",
    "",
    "Extract objects, events and flowfields from Business Central AL files and",
    "infer integrations between them.",
    "",
    "positional arguments:",
    "  paths             One or more .al files or directories containing them.",
    "",
    "options:",
    "  -h, --help        show this help message and exit",
    "  --json            Print the full analysis as JSON instead of a summary.",
    "  --include-source  Include each file's source text in the JSON output.",
    "  --references      Also infer integrations from record references to objects",
    "                    in other files.",
    "  --sync-graph      Persist the analysis into Neo4j (requires ALGRAPH_NEO4J_*",
    "                    variables).",
    "  --debug           Enable debug logging.",
    ""]

end ExtensionAtlas.CommandLine
