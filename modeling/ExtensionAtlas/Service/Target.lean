import ExtensionAtlas.Fault
import ExtensionAtlas.Host.Address
import ExtensionAtlas.Host.Name
import ExtensionAtlas.Text.Case
import ExtensionAtlas.Text.Numeral

/-! Targets of requests. A target is an address or a part of one: a scheme, a host behind two
slashes, a path, a query behind a question mark, and a part behind a number sign that is passed
over. The host is an address or a name; it is kept in ASCII, and a name that is encoded in it has to
be one. An address with a scheme and a host is taken as it is; of any other target the path is taken
to start at the root. Single and double points as names in a path are resolved, the latter never
above the root. -/

namespace ExtensionAtlas.Service

/-- The parts of a target. -/
structure Target where
  scheme : List Char := []
  user : List Char := []
  host : List Char := []
  portText : List Char := []
  path : List Char := []
  query : Option (List Char) := none
  deriving DecidableEq, Repr

namespace Target

def lengthLimit : Nat := 65536

/-- The character of a target that has no visible form, with its position. -/
def unprintable? (position : Nat) : List Char → Option (Char × Nat)
  | [] => none
  | c :: rest =>
    if c.toNat < 0x20 || c.toNat == 0x7F then some (c, position)
    else unprintable? (position + 1) rest

/-- Whether a character can stand in a scheme. -/
def isSchemePart (c : Char) : Bool := c.isAlphanum || c == '+' || c == '.' || c == '-'

/-- The scheme in front of a colon, in small letters, and the text behind; a colon at the start
stands behind an empty scheme. -/
def splitScheme (text : List Char) : List Char × List Char :=
  match text.takeWhile isSchemePart, text.dropWhile isSchemePart with
  | name, ':' :: rest =>
    if name.head?.all Char.isAlpha then (name.map Char.toLower, rest) else ([], text)
  | _, _ => ([], text)

/-- Whether a character ends the part of a target that names a host. -/
def endsHost (c : Char) : Bool := c == '/' || c == '?' || c == '#'

/-- The part of a target that names a host, and the text behind it. -/
def splitAuthority : List Char → List Char × List Char
  | '/' :: '/' :: rest => (rest.takeWhile (!endsHost ·), rest.dropWhile (!endsHost ·))
  | text => ([], text)

/-- The host in the part of a target that names one, and what stands behind a colon there; a host in
brackets may have colons in it. -/
def splitHost (text : List Char) : List Char × List Char :=
  let (host, rest) :=
    match text.head? == some '[', Text.cutAtLast ']' text with
    | true, some (front, rest) => (front ++ [']'], rest)
    | _, _ => (text.takeWhile (· != ':'), text.dropWhile (· != ':'))
  (host, if rest.head? == some ':' then rest.drop 1 else rest)

def ofText (text : List Char) : Target :=
  let (scheme, rest) := splitScheme text
  let (authority, rest) := splitAuthority rest
  let (user, place) := (Text.cutAtLast '@' authority).getD ([], authority)
  let (host, portText) := splitHost place
  let (path, query) := Text.cutAt '?' (rest.takeWhile (· != '#'))
  { scheme, user, host, portText, path, query }

/-- Characters that are escaped in the name of a host. -/
def isEscapedInName (c : Char) : Bool := [' ', '<', '>', '[', ']', '^'].contains c

/-- How a character stands in the name of a host: as a small letter, or escaped. -/
def nameChar (c : Char) : List Char :=
  if isEscapedInName c then '%' :: (Text.hexDigits c.toNat 2).map Char.toUpper else [c.toLower]

/-- A host as it is kept: an address without brackets, or a name in ASCII. -/
def hostOf (text : List Char) : Except TargetFault (List Char) :=
  if Host.looksShort text then
    if Host.isShortAddress text then .ok text
    else .error (.badShortAddress (String.ofList text))
  else if text.head? == some '[' && text.getLast? == some ']' then
    let address := (text.drop 1).dropLast
    if Host.isLongAddress address then .ok address
    else .error (.badLongAddress (String.ofList text))
  else if text.all (·.toNat < 0x80) then .ok (text.flatMap nameChar)
  else
    match Host.encode? (Text.lower text) with
    | some name => .ok name
    | none => .error (.badName (String.ofList text))

/-- Whether a target names a host in some way. -/
def hasAuthority (t : Target) : Bool := !(t.user ++ t.host ++ t.portText).isEmpty

/-- Whether a target is an address of its own. -/
def isAbsolute (t : Target) : Bool := !t.scheme.isEmpty && !t.host.isEmpty

/-- What is wrong with a target, its host aside. -/
def fault? (t : Target) : Option TargetFault :=
  if !t.portText.isEmpty && (Text.readInt? t.portText).isNone then
    some (.badPort (String.ofList t.portText))
  else if t.scheme.isEmpty && !t.hasAuthority then
    if ['/', '/'].isPrefixOf t.path then some (.startsWith "//")
    else if t.path.head? == some ':' then some (.startsWith ":")
    else none
  else none

def read (text : String) : Except Fault Target :=
  if lengthLimit < text.length then .error (.badTarget .tooLong)
  else
    match unprintable? 0 text.toList with
    | some (c, position) => .error (.badTarget (.unprintable c position))
    | none =>
      let written := ofText text.toList
      match hostOf written.host with
      | .error cause => .error (.badTarget cause)
      | .ok host =>
        let target := { written with host }
        match target.fault? with
        | some cause => .error (.badTarget cause)
        | none => .ok target

/-- Takes one name of a path: a point stays where it is and two points lead back. -/
def takeName (names : List (List Char)) (name : List Char) : List (List Char) :=
  if name == ['.'] then names
  else if name == ['.', '.'] then (if names == [[]] then names else names.dropLast)
  else names ++ [name]

def resolved (path : List Char) : List Char :=
  ['/'].intercalate ((Text.splitAt '/' path).foldl takeName [])

/-- The path that is asked for: that of an address, or one that starts at the root, which is still
to be resolved. -/
def wantedPath (t : Target) : List Char :=
  if t.isAbsolute then resolved t.path
  else
    let path := if t.scheme.isEmpty && !t.hasAuthority then t.path else resolved t.path
    '/' :: path.dropWhile (· == '/')

/-- ASCII characters that are escaped in a query. -/
def isEscapedInQuery (c : Char) : Bool := [' ', '\x22', '#', '<', '>'].contains c

/-- ASCII characters that are escaped in a path. -/
def isEscapedInPath (c : Char) : Bool :=
  isEscapedInQuery c || ['?', '\x60', '\x7b', '\x7d'].contains c

/-- The length of a text when characters beyond ASCII and some in it are escaped byte by byte. -/
def writtenLength (isEscaped : Char → Bool) (text : List Char) : Nat :=
  (text.map fun c => if c.toNat < 0x80 && !isEscaped c then 1 else 3 * c.utf8Size).foldl (· + ·) 0

/-- The part that is too long when it is written in ASCII. The parts are looked at when a target is
completed to an address, and when parameters of some written length take the place of the query. -/
def overlong? (t : Target) (parametersLength : Option Nat) : Option String :=
  let path := writtenLength isEscapedInPath t.wantedPath
  let query := (t.query.map (writtenLength isEscapedInQuery)).getD 0
  if t.isAbsolute && parametersLength.isNone then none
  else if lengthLimit < path then some "path"
  else if !t.isAbsolute && lengthLimit < query then some "query"
  else if lengthLimit < parametersLength.getD 0 then some "query"
  else none

/-- The schemes under which the service can be reached. -/
def schemes : List String := ["http", "https"]

/-- Why the host is no name, if it starts with an encoded label. -/
def nameFault? (t : Target) : Option Host.NameFault :=
  if Host.encodedMark.isPrefixOf t.host then
    match Host.decode t.host with
    | .error cause => some cause
    | .ok _ => none
  else none

def obstacle? (t : Target) : Option Fault :=
  match t.nameFault? with
  | some cause => some (.badHostName cause)
  | none =>
    if schemes.contains (String.ofList t.scheme) then none
    else some (.unknownScheme (String.ofList t.scheme))

def route (t : Target) : Except Fault (List Char) :=
  if t.isAbsolute then
    match t.obstacle? with
    | some fault => .error fault
    | none => .ok t.wantedPath
  else .ok (resolved t.wantedPath)

end Target

end ExtensionAtlas.Service
