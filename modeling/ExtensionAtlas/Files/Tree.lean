import ExtensionAtlas.Fault
import ExtensionAtlas.Files.Path

/-! File trees. A tree lists what is in it by the names that lead there from the root, and knows the
directory that relative paths start from. A path is followed name by name: every step has to start
in a directory and to find its name there, and a double point leads back, at the root to the root
itself. A name or a path that is too long is a fault of its own, whatever there is in the tree. -/

namespace ExtensionAtlas

/-- What stands at a place in a tree. -/
inductive Node where
  | file (content : List UInt8)
  | directory
  /-- What is neither a file nor a directory. -/
  | socket
  deriving DecidableEq, Repr

/-- The names that lead from the root to what is in a tree. -/
abbrev Place := List String

/-- Files, directories and sockets by their places, and the working directory. -/
structure FileTree where
  entries : List (Place × Node) := []
  home : Place := []
  deriving DecidableEq, Repr

namespace FileTree

/-- What stands at a place; the root is a directory. -/
def node? (t : FileTree) : Place → Option Node
  | [] => some .directory
  | place => t.entries.lookup place

/-- Adds a directory unless there is something at its place. -/
def addDirectory (t : FileTree) (place : Place) : FileTree :=
  if (t.node? place).isSome then t else { t with entries := t.entries ++ [(place, .directory)] }

/-- The places of the directories above a place, the outermost first. -/
def above (place : Place) : List Place :=
  (List.range place.length).map place.take

/-- Adds a node and the directories above it. What is no directory takes the place of what was
there. -/
def add (t : FileTree) (place : Place) (node : Node) : FileTree :=
  let t := (above place).foldl addDirectory t
  match node with
  | .directory => t.addDirectory place
  | .file _ | .socket => { t with entries := t.entries.filter (·.1 != place) ++ [(place, node)] }

/-- The tree of some nodes at their places. -/
def ofNodes (home : Place) (nodes : List (Place × Node)) : FileTree :=
  nodes.foldl (fun t (place, node) => t.add place node)
    (({ home } : FileTree).add home .directory)

/-- The tree of some nodes at paths from the working directory. -/
def ofFiles (home : Place) (files : List (String × Node)) : FileTree :=
  ofNodes home (files.map fun (path, node) => (home ++ (Path.ofText path).names, node))

def nameLimit : Nat := 255

def pathLimit : Nat := 4095

def step (name : String) (place : Place) : Place :=
  if name == ".." then place.dropLast else place ++ [name]

def follow (t : FileTree) : Place → List String → Except FileFault Place
  | place, [] => .ok place
  | place, name :: names =>
    match t.node? place with
    | none => .error .notFound
    | some (.file _) | some .socket => .error .notDirectory
    | some .directory =>
      if nameLimit < name.utf8ByteSize then .error .nameTooLong
      else if (t.node? (step name place)).isSome then t.follow (step name place) names
      else .error .notFound

/-- The place that a path leads to. No name has a null character in it. -/
def find (t : FileTree) (p : Path) : Except FileFault Place :=
  if p.toText.toList.contains '\x00' then .error .notFound
  else if pathLimit < p.toText.utf8ByteSize then .error .nameTooLong
  else t.follow (if p.root.isEmpty then t.home else []) p.names

/-- What a path leads to, if it leads anywhere; a path that is too long is a fault. -/
def look (t : FileTree) (p : Path) : Except Fault (Option Node) :=
  match t.find p with
  | .ok place => .ok (t.node? place)
  | .error .nameTooLong => .error (.unreadableFile p.toText .nameTooLong)
  | .error _ => .ok none

def isDirectory (t : FileTree) (p : Path) : Except Fault Bool :=
  (t.look p).map fun node => node == some .directory

def exists? (t : FileTree) (p : Path) : Except Fault Bool :=
  (t.look p).map Option.isSome

def isFile (t : FileTree) (p : Path) : Except Fault Bool :=
  (t.look p).map fun node =>
    match node with
    | some (.file _) => true
    | _ => false

/-- The place of a directory that is to be looked into; any other path is a fault. -/
def enter (t : FileTree) (p : Path) : Except Fault Place :=
  match t.find p with
  | .error cause => .error (.unreadableFile p.toText cause)
  | .ok place =>
    if t.node? place == some .directory then .ok place
    else .error (.unreadableFile p.toText .notDirectory)

/-- The last name on the way to an entry of a directory. -/
def entryName? (directory place : Place) : Option String :=
  if place.length == directory.length + 1 && directory.isPrefixOf place then place.getLast?
  else none

/-- The names in a directory with what they lead to. -/
def list (t : FileTree) (p : Path) : Except Fault (List (String × Node)) :=
  (t.enter p).map fun directory =>
    t.entries.filterMap fun (place, node) => (entryName? directory place).map (·, node)

/-- The ways from a directory to the directories inside it, at any depth. -/
def below (t : FileTree) (p : Path) : Except Fault (List (List String)) :=
  (t.enter p).map fun directory =>
    t.entries.filterMap fun (place, node) =>
      if node == .directory && directory.isPrefixOf place && place != directory then
        some (place.drop directory.length)
      else none

end FileTree

end ExtensionAtlas
