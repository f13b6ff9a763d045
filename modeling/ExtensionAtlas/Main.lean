import ExtensionAtlas.CommandLine.Run

/-! The program. It collects what a run needs, which is the words of the command line, the variables
of the environment and the files at the inputs, and writes what the run reports. No database is
reached from here, so a run that is to store its analysis fails at its first statement. -/

namespace ExtensionAtlas.Program

/-- The variables that a run may look up. -/
def variableNames : List String := [
  "ALGRAPH_CODE_GLOB", "ALGRAPH_IGNORE_DIRS", "ALGRAPH_MAX_WORKERS", "ALGRAPH_INCLUDE_REFERENCES",
  "ALGRAPH_DEBUG", "ALGRAPH_NEO4J_URI", "ALGRAPH_NEO4J_USER", "ALGRAPH_NEO4J_PASSWORD",
  "ALGRAPH_NEO4J_DATABASE"]

def environment : IO Environment :=
  variableNames.filterMapM fun key => do return (← IO.getEnv key).map (key, ·)

/-- What an entry leads to, and everything below it. What cannot be read is left out, and no link to
a directory is followed. -/
partial def nodesAt (place : Place) (entry : IO.FS.DirEntry) : IO (List (Place × Node)) := do
  try
    match (← entry.path.symlinkMetadata).type with
    | .dir =>
      let inner ← (← entry.path.readDir).toList.mapM fun child =>
        nodesAt (place ++ [child.fileName]) child
      return (place, .directory) :: inner.flatten
    | .other => return [(place, .socket)]
    | _ => return [(place, .file (← IO.FS.readBinFile entry.path).toList)]
  catch _ => return []

def placeOf (home : Place) (input : String) : Place :=
  let path := Path.ofText input
  path.names.foldl (fun place name => FileTree.step name place)
    (if path.root.isEmpty then home else [])

def filesAt (inputs : List String) : IO FileTree := do
  let home := (Path.ofText (← IO.currentDir).toString).names
  let nodes ← inputs.mapM fun input => do
    let place := placeOf home input
    nodesAt place { root := "/", fileName := String.intercalate "/" place }
  return .ofNodes home nodes.flatten

def inputsOf (words : List String) : List String :=
  match CommandLine.parse words with
  | .run options => options.inputs
  | _ => []

/-- The exit code of a run, and what it complains about. -/
def exitOf : CommandLine.Ending → UInt32 × Option String
  | .done => (0, none)
  | .usage code complaint => (UInt32.ofNat code, complaint)
  | .failed fault => (1, some fault.message)

/-- Runs a command line and writes what the run reports; the result is the exit code. -/
def run (words : List String) : IO UInt32 := do
  let tree ← filesAt (inputsOf words)
  let report := CommandLine.run words (← environment) tree { capacity := some 0 }
  report.log.forM fun e => IO.eprintln e.text
  IO.print report.output
  let (code, complaint) := exitOf report.ending
  complaint.forM IO.eprintln
  return code

end ExtensionAtlas.Program

/-- Runs the program. -/
def main (words : List String) : IO UInt32 :=
  ExtensionAtlas.Program.run words
