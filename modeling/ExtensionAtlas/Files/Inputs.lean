import ExtensionAtlas.Files.Glob
import ExtensionAtlas.Model.Extension

/-! The files that an analysis is about. An input that is there and is no directory stands for
itself. A directory stands for the files below it that match a pattern, in the order of their paths,
except those with an ignored directory on the way from there. No path is taken twice. -/

namespace ExtensionAtlas.Inputs

/-- The directories on the way from a path to one below it. -/
def between (p below : Path) : List String :=
  (below.parts.drop p.parts.length).dropLast

/-- Whether no ignored directory lies on the way from a path to one below it. -/
def isKept (ignored : List String) (p below : Path) : Bool :=
  !(between p below).any ignored.contains

/-- The order of paths: by their parts, from the first on. -/
def inOrder (p q : Path) : Bool := !q.parts.lex p.parts (· < ·)

def filesOnly (t : FileTree) (paths : List Path) : Except Fault (List Path) :=
  paths.filterM t.isFile

def filesOf (t : FileTree) (pattern : String) (ignored : List String) (p : Path) :
    Except Fault (List Path) :=
  match t.isDirectory p with
  | .error fault => .error fault
  | .ok true =>
    match Glob.paths t pattern p with
    | .error fault => .error fault
    | .ok paths => (filesOnly t (paths.mergeSort inOrder)).map (·.filter (isKept ignored p))
  | .ok false =>
    match t.exists? p with
    | .error fault => .error fault
    | .ok true => .ok [p]
    | .ok false => .error (.inputAbsent p.toText)

/-- The files that some inputs stand for; there has to be one. -/
def resolve (t : FileTree) (pattern : String) (ignored : List String) (inputs : List Path) :
    Except Fault (List Path) :=
  match inputs.mapM (filesOf t pattern ignored) with
  | .error fault => .error fault
  | .ok files =>
    if files.flatten.isEmpty then .error .nothingToAnalyze else .ok (firstOccurrences files.flatten)

end ExtensionAtlas.Inputs
