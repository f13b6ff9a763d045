import ExtensionAtlas.Files.Reading
import ExtensionAtlas.Integration.Resolve
import ExtensionAtlas.Settings
import ExtensionAtlas.Source.File

/-! The analysis of a batch of files. All files are read first; one that gives no text is listed as
failed and otherwise passed over. The texts are then parsed in the order of the paths, and the
extensions resolved together. -/

namespace ExtensionAtlas

/-- A file and its text, or why it gives none. -/
structure SourceRead where
  path : Path
  text : Except Fault String

namespace SourceRead

def ofPath (t : FileTree) (p : Path) : SourceRead := ⟨p, t.readText p⟩

/-- The text of a file, if it gave one. -/
def text? (r : SourceRead) : Option String := r.text.toOption

def failure? (r : SourceRead) : Option String :=
  match r.text with
  | .ok _ => none
  | .error fault => some fault.message

end SourceRead

/-- An analysis with the log of its making: reading the files, in no fixed order, and the rest. -/
structure AnalysisReport where
  analysis : Analysis
  readLog : List LogEntry
  log : List LogEntry

def Extension.ofFile (t : FileTree) (p : Path) : Except Fault Extension :=
  match t.readText p with
  | .error fault => .error fault
  | .ok text => ofSource text p.toText

namespace Analyzer

/-- Whether a path is one that no file can have. -/
def isImpossible (r : SourceRead) : Bool :=
  match r.text with
  | .error .nullInPath => true
  | _ => false

/-- Reads the files, which takes at least one worker if there are any. -/
def readSources (settings : AnalyzerSettings) (t : FileTree) (paths : List Path) :
    Except Fault (List SourceRead) :=
  if !paths.isEmpty && settings.maxWorkers < 1 then .error .noWorkers
  else
    let reads := paths.map (SourceRead.ofPath t)
    if reads.any isImpossible then .error .nullInPath else .ok reads

def parse (reads : List SourceRead) : Except Fault (List Extension) :=
  (reads.filterMap fun r => r.text?.map (·, r.path)).mapM fun (text, path) =>
    Extension.ofSource text path.toText

/-- The paths of the files that gave no text. -/
def failedPaths (reads : List SourceRead) : List String :=
  (reads.filter (·.text?.isNone)).map (·.path.toText)

def countValues (c : Counts) : List (String × Json) := [
  ("extensions", .int c.extensions), ("objects", .int c.objects), ("events", .int c.events),
  ("flowfields", .int c.flowfields), ("integrations", .int c.integrations),
  ("failed", .int c.failed)]

def logOf (a : Analysis) : List LogEntry :=
  a.extensions.map Extension.readEntry ++
    [Integration.resolvedEntry a.extensions a.integrations,
      ⟨.info, "analysis complete", countValues a.counts⟩]

def analyze (settings : AnalyzerSettings) (t : FileTree) (paths : List Path) :
    Except Fault AnalysisReport :=
  match readSources settings t paths with
  | .error fault => .error fault
  | .ok reads =>
    match parse reads with
    | .error fault => .error fault
    | .ok extensions =>
      let analysis : Analysis :=
        .ofExtensions settings.includeReferences extensions (failedPaths reads)
      .ok ⟨analysis, paths.flatMap t.readEntries, logOf analysis⟩

end Analyzer

end ExtensionAtlas
