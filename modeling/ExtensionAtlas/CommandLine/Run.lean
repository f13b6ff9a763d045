import ExtensionAtlas.Analyzer
import ExtensionAtlas.CommandLine.Options
import ExtensionAtlas.Document.Export
import ExtensionAtlas.Files.Inputs
import ExtensionAtlas.Graph.Store

/-! A run of the program: the command line is read, then the settings, then the inputs are looked up
and analysed; the analysis is stored in the graph if that is asked for, and printed at last. The
first step that fails ends the run, and nothing is printed then. -/

namespace ExtensionAtlas.CommandLine

/-- How a run ends. -/
inductive Ending where
  | done
  | usage (code : Nat) (complaint : Option String)
  | failed (fault : Fault)

/-- A run that is over: how it ended, what it printed, what it logged, and the connection that it
worked on. -/
structure Report where
  ending : Ending
  output : String
  log : List LogEntry
  connection : Graph.Connection

def summary (c : Counts) : String :=
  s!"Analysis complete: {c.extensions} extensions, {c.objects} objects, {c.events} events, " ++
    s!"{c.flowfields} flowfields, {c.integrations} integrations, {c.failed} failed files.\n"

def integrationLine (i : Integration) : String :=
  s!"  {i.source} -> {i.target} ({i.kind.label}): {i.description}\n"

def output (o : Options) (a : Analysis) : String :=
  if o.json then (a.document o.includeSource).print .indented ++ "\n"
  else summary a.counts ++ String.join (a.integrations.map integrationLine)

/-- The settings that a command line and its environment ask for. -/
def settings (o : Options) (env : Environment) : Except Fault AnalyzerSettings :=
  (AnalyzerSettings.load env).map fun s =>
    { s with
      includeReferences := o.references || s.includeReferences
      debug := o.debug || s.debug }

/-- The analysis that a command line asks for, with its whole log. -/
def analysis (s : AnalyzerSettings) (o : Options) (t : FileTree) :
    Except Fault (Analysis × List LogEntry) := do
  let paths ← Inputs.resolve t s.pattern s.ignoredDirs (o.inputs.map Path.ofText)
  let report ← Analyzer.analyze s t paths
  let start : LogEntry := ⟨.info, "analyzing AL files", [("files", .int paths.length)]⟩
  return (report.analysis, start :: report.readLog ++ report.log)

/-- The work on the graph that a command line asks for. -/
def storing (o : Options) (env : Environment) (a : Analysis) : Graph.Work Unit :=
  if o.syncGraph then Graph.saveAnalysis none env a else pure ()

/-- Runs with the options of a command line. -/
def runWith (o : Options) (env : Environment) (t : FileTree) (connection : Graph.Connection) :
    Report :=
  match settings o env with
  | .error fault => ⟨.failed fault, "", [], connection⟩
  | .ok s =>
    match analysis s o t with
    | .error fault => ⟨.failed fault, "", [], connection⟩
    | .ok (a, log) =>
      let log := log.filter fun e => e.level.isWritten s.debug
      match (storing o env a).run.run connection with
      | (.error fault, connection) => ⟨.failed fault, "", log, connection⟩
      | (.ok (), connection) => ⟨.done, output o a, log, connection⟩

/-- Runs a command line in an environment, over a file tree and a connection. -/
def run (words : List String) (env : Environment) (t : FileTree) (connection : Graph.Connection) :
    Report :=
  match parse words with
  | .help => ⟨.usage 0 none, help, [], connection⟩
  | .complaint text => ⟨.usage 2 (some ("algraph: error: " ++ text)), "", [], connection⟩
  | .run options => runWith options env t connection

end ExtensionAtlas.CommandLine
