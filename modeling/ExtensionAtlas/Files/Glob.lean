import ExtensionAtlas.Files.Tree
import ExtensionAtlas.Pattern.Search

/-! Patterns over paths. A pattern is a path whose names may have wildcards: a star stands for any
text, a question mark for one character, and brackets for one character of a set. Two stars as a
whole name stand for any number of directories. A slash at the end of a pattern asks for
directories. A pattern needs a name: one of nothing but points and slashes is refused.

A set lists characters and ranges; an exclamation mark in front takes the characters outside it. A
range whose ends are out of order holds nothing. -/

namespace ExtensionAtlas.Glob

/-- The runs of characters between the hyphens of a set that make ranges. The first `keep`
characters of a run are never such hyphens, and neither is the last character of the set. -/
def chunksFrom : (keep : Nat) → (chunk : List Char) → List Char → List (List Char)
  | _, chunk, [] => [chunk.reverse]
  | keep + 1, chunk, c :: rest => chunksFrom keep (c :: chunk) rest
  | 0, chunk, c :: rest =>
    if c == '-' && !rest.isEmpty then chunk.reverse :: chunksFrom 2 [] rest
    else chunksFrom 0 (c :: chunk) rest

/-- Puts a run in front of others; the ends of a range out of order drop out and the runs around it
become one. -/
def joinChunk (chunk : List Char) : List (List Char) → List (List Char)
  | [] => [chunk]
  | next :: rest =>
    match chunk.getLast?, next.head? with
    | some low, some high =>
      if high < low then (chunk.dropLast ++ next.drop 1) :: rest else chunk :: next :: rest
    | _, _ => chunk :: next :: rest

/-- Whether runs of characters, with ranges from each to the next, hold a character. -/
def chunksHold (c : Char) : List (List Char) → Bool
  | [] => false
  | [chunk] => chunk.contains c
  | chunk :: next :: rest =>
    (match chunk.getLast?, next.head? with
      | some low, some high => low ≤ c && c ≤ high
      | _, _ => c == '-')
      || chunk.contains c || chunksHold c (next :: rest)

/-- Whether the set between two brackets holds a character. -/
def setHolds (set : List Char) (c : Char) : Bool :=
  let keep := if set.head? == some '!' then 2 else 1
  match (chunksFrom keep [] set).foldr joinChunk [] with
  | ('!' :: chunk) :: rest => !chunksHold c (chunk :: rest)
  | chunks => chunksHold c chunks

/-- The set behind an opening bracket and the text behind the closing one, if there is one. A
closing bracket at the start of the set belongs to the set. -/
def closed? (text : List Char) : Option (List Char × List Char) :=
  let lead :=
    match text with
    | '!' :: ']' :: _ => 2
    | '!' :: _ => 1
    | ']' :: _ => 1
    | _ => 0
  match (text.drop lead).dropWhile (· != ']') with
  | [] => none
  | _ :: rest => some (text.take lead ++ (text.drop lead).takeWhile (· != ']'), rest)

/-- The parts of a name with wildcards; `fuel` is at least the length of the name. -/
def wildParts : (fuel : Nat) → (name : List Char) → List (Pattern Unit)
  | 0, _ => []
  | _, [] => []
  | fuel + 1, c :: rest =>
    if c == '*' then .most (fun _ => true) :: wildParts fuel rest
    else if c == '?' then .one (fun _ => true) :: wildParts fuel rest
    else if c == '[' then
      match closed? rest with
      | some (set, rest) => .one (setHolds set) :: wildParts fuel rest
      | none => .char '[' :: wildParts fuel rest
    else .char c :: wildParts fuel rest

/-- The pattern that a name with wildcards stands for. -/
def wildPattern (name : List Char) : Pattern Unit :=
  .inOrder (wildParts name.length name)

/-- Whether a pattern matches the whole of a name. -/
def matchesWhole (p : Pattern Unit) (name : String) : Bool :=
  (p.run (.start name.toList) [] fun c _ => if c.rest.isEmpty then some () else none).isSome

/-- One name of a pattern. -/
inductive Piece where
  | anyDirectories
  | exact (name : String)
  | wild (pattern : Pattern Unit)
  | ending

/-- The piece that a name of a pattern stands for. -/
def Piece.ofName (name : String) : Except Fault Piece :=
  if name == "**" then .ok .anyDirectories
  else if Text.occursIn ['*', '*'] name.toList then .error .strayDoubleStar
  else if name.toList.any fun c => c == '*' || c == '?' || c == '[' then
    .ok (.wild (wildPattern name.toList))
  else .ok (.exact name)

def piecesOf (pattern : String) : Except Fault (List Piece) :=
  let path := Path.ofText pattern
  let ending := if pattern.toList.getLast? == some '/' then [Piece.ending] else []
  if !path.root.isEmpty then .error .absolutePattern
  else if path.names.isEmpty then
    .error (if pattern.isEmpty then .emptyPattern
      else if ending.isEmpty then .pointPattern
      else .closedPointPattern)
  else
    match path.names.mapM Piece.ofName with
    | .error fault => .error fault
    | .ok pieces => .ok (pieces ++ ending)

/-- Searches a directory, and then looks into it for the next ones. -/
def visit (t : FileTree) (search : Path → Except Fault (List Path)) (p : Path) :
    Except Fault (List Path) := do
  let found ← search p
  discard (t.list p)
  return found

/-- The paths below a directory that match pieces of a pattern. -/
def select (t : FileTree) : List Piece → Path → Except Fault (List Path)
  | [], p => .ok [p]
  | .ending :: _, p => .ok [p]
  | .exact name :: pieces, p =>
    let next := p.child name
    match if pieces.isEmpty then t.exists? next else t.isDirectory next with
    | .error fault => .error fault
    | .ok false => .ok []
    | .ok true => select t pieces next
  | .wild pattern :: pieces, p => do
    let matching := (← t.list p).filter fun entry =>
      (pieces.isEmpty || entry.2 == .directory) && matchesWhole pattern entry.1
    let found ← matching.mapM fun entry => select t pieces (p.child entry.1)
    return found.flatten
  | .anyDirectories :: pieces, p => do
    let first ← visit t (select t pieces) p
    let ways ← t.below p
    let rest ← ways.mapM fun way => visit t (select t pieces) (p.below way)
    return first ++ rest.flatten

/-- The paths below a directory that match a pattern, in no particular order; there are none below
what is no directory. -/
def paths (t : FileTree) (pattern : String) (p : Path) : Except Fault (List Path) := do
  let pieces ← piecesOf pattern
  if ← t.isDirectory p then select t pieces p else return []

end ExtensionAtlas.Glob
