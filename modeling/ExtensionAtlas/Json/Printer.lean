import ExtensionAtlas.Json.Basic
import ExtensionAtlas.Text.Quoted

/-! Writing JSON in three layouts: compact and spaced on one line in plain ASCII, and indented by
two spaces with every character above the controls as it is. Members stand in the order in which the
value holds them. -/

namespace ExtensionAtlas.Json

/-- The layouts of printed JSON. -/
inductive Layout where
  | compact
  | spaced
  | indented
  deriving DecidableEq, Repr

def escapeUnit (n : Nat) : List Char :=
  '\\' :: 'u' :: Text.hexDigits n 4

/-- A character of a string; `ascii` escapes everything outside the visible ASCII characters. -/
def printChar (ascii : Bool) (c : Char) : List Char :=
  if c == '\x22' || c == '\\' then ['\\', c]
  else if c == '\x08' then ['\\', 'b']
  else if c == '\t' then ['\\', 't']
  else if c == '\n' then ['\\', 'n']
  else if c == '\x0c' then ['\\', 'f']
  else if c == '\r' then ['\\', 'r']
  else if c.toNat < 0x20 then escapeUnit c.toNat
  else if !ascii || c.toNat < 0x7F then [c]
  else if c.toNat < 0x10000 then escapeUnit c.toNat
  else
    let n := c.toNat - 0x10000
    escapeUnit (0xD800 + n / 0x400) ++ escapeUnit (0xDC00 + n % 0x400)

def printText (ascii : Bool) (text : String) : List Char :=
  '\x22' :: text.toList.flatMap (printChar ascii) ++ ['\x22']

/-- The start of a line at some depth. -/
def newLine (depth : Nat) : List Char :=
  '\n' :: List.replicate (2 * depth) ' '

namespace Layout

/-- What stands in front of the first part of a container at some depth. -/
def opening (layout : Layout) (depth : Nat) : List Char :=
  match layout with
  | .indented => newLine (depth + 1)
  | _ => []

def between (layout : Layout) (depth : Nat) : List Char :=
  match layout with
  | .compact => [',']
  | .spaced => [',', ' ']
  | .indented => ',' :: newLine (depth + 1)

def closing (layout : Layout) (depth : Nat) : List Char :=
  match layout with
  | .indented => newLine depth
  | _ => []

/-- What stands between a key and its value. -/
def colon : Layout → List Char
  | .compact => [':']
  | _ => [':', ' ']

end Layout

mutual

/-- A value whose container stands at some depth. -/
def printAt (layout : Layout) (depth : Nat) : Json → List Char
  | .null => "null".toList
  | .bool true => "true".toList
  | .bool false => "false".toList
  | .int value => (toString value).toList
  | .decimal negative digits exponent =>
    (if negative then ['-'] else []) ++ (toString digits).toList
      ++ 'e' :: (toString exponent).toList
  | .special spelling => spelling.toList
  | .string value => printText (layout != .indented) value
  | .brokenString => printText (layout != .indented) "\ufffd"
  | .array [] => ['[', ']']
  | .array (item :: items) =>
    '[' :: layout.opening depth ++ printAt layout (depth + 1) item
      ++ printItems layout depth items ++ layout.closing depth ++ [']']
  | .object [] => ['\x7b', '\x7d']
  | .object ((key, value) :: members) =>
    '\x7b' :: layout.opening depth ++ printText (layout != .indented) key ++ layout.colon
      ++ printAt layout (depth + 1) value
      ++ printMembers layout depth members ++ layout.closing depth ++ ['\x7d']

/-- The items of an array behind the first. -/
def printItems (layout : Layout) (depth : Nat) : List Json → List Char
  | [] => []
  | item :: items =>
    layout.between depth ++ printAt layout (depth + 1) item ++ printItems layout depth items

/-- The members of an object behind the first. -/
def printMembers (layout : Layout) (depth : Nat) : List (String × Json) → List Char
  | [] => []
  | (key, value) :: members =>
    layout.between depth ++ printText (layout != .indented) key ++ layout.colon
      ++ printAt layout (depth + 1) value ++ printMembers layout depth members

end

def print (layout : Layout) (value : Json) : String :=
  String.ofList (printAt layout 0 value)

end ExtensionAtlas.Json
