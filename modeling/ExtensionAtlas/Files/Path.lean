import ExtensionAtlas.Text.Search

/-! Paths. A path is a root, which is empty for a relative path, and the names on the way from
there. Empty names and single points say nothing and are dropped; double points are kept. Two
slashes at the start, and no more, are a root of their own. -/

namespace ExtensionAtlas

/-- A path by its names. -/
structure Path where
  root : String
  names : List String
  deriving DecidableEq, Repr, Inhabited

namespace Path

def rootOf : List Char → String
  | '/' :: '/' :: '/' :: _ => "/"
  | '/' :: '/' :: _ => "//"
  | '/' :: _ => "/"
  | _ => ""

def isName (piece : List Char) : Bool := !piece.isEmpty && piece != ['.']

def ofText (text : String) : Path where
  root := rootOf text.toList
  names := ((Text.splitAt '/' text.toList).filter isName).map String.ofList

/-- The text of a path; a path without root and names is a point. -/
def toText (p : Path) : String :=
  if p.root.isEmpty && p.names.isEmpty then "." else p.root ++ String.intercalate "/" p.names

/-- The last name of a path, which is empty if there is none. -/
def name (p : Path) : String := p.names.getLast?.getD ""

/-- The path that a way leads to from another one. -/
def below (p : Path) (way : List String) : Path := { p with names := p.names ++ way }

def child (p : Path) (name : String) : Path := p.below [name]

/-- The root and the names of a path in one list, by which paths are ordered. -/
def parts (p : Path) : List String :=
  if p.root.isEmpty then p.names else p.root :: p.names

end Path

end ExtensionAtlas
