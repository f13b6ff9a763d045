import ExtensionAtlas.Json.Reader
import ExtensionAtlas.Service.Target
import ExtensionAtlas.Text.Utf8

/-! Requests. The path and the query of a target escape bytes by a percent sign and two hexadecimal
digits, and in a query a plus stands for a space. Escaped bytes that are no text are read as
replacement characters. A path is read twice, so that an escaped percent sign may start an escape.
-/

namespace ExtensionAtlas.Service

/-- The body of a request, if it has one, is read as JSON text. -/
structure Request where
  method : String
  path : String
  parameters : List (String × String) := []
  body : Option String := none
  deriving DecidableEq, Repr

/-- The bytes of a text in which percent signs escape bytes. -/
def unescape : List Char → List UInt8
  | [] => []
  | '%' :: a :: b :: rest =>
    match Json.hexValue? a, Json.hexValue? b with
    | some a, some b => UInt8.ofNat (a * 16 + b) :: unescape rest
    | _, _ => 0x25 :: unescape (a :: b :: rest)
  | c :: rest => String.utf8EncodeChar c ++ unescape rest

/-- The text of a part of a target. -/
def unescaped (text : List Char) : String :=
  String.ofList (Text.decodeLossy (unescape text))

def parameterOf (piece : List Char) : String × String :=
  let spaced := piece.map fun c => if c == '+' then ' ' else c
  let (key, value) := Text.cutAt '=' spaced
  (unescaped key, unescaped (value.getD []))

def queryOf (query : List Char) : List (String × String) :=
  ((Text.splitAt '&' query).filter (!·.isEmpty)).map parameterOf

/-- Whether an ASCII character is escaped in a parameter; a space is written as a plus. -/
def isEscapedInParameter (c : Char) : Bool :=
  !(c.isAlphanum || ['_', '.', '-', '~', ' '].contains c)

/-- The length of parameters when they are written as a query. -/
def parametersLength (parameters : List (String × String)) : Nat :=
  let length (text : String) := Target.writtenLength isEscapedInParameter text.toList
  (parameters.map fun (key, value) => length key + length value + 2).foldl (· + ·) 0 - 1

namespace Request

/-- The request for a target; parameters that come with it stand in place of those in its query. -/
def ofTarget (method target : String) (parameters : Option (List (String × String)))
    (body : Option String) : Except Fault Request := do
  let t ← Target.read target
  match t.overlong? (parameters.map parametersLength) with
  | some part => throw (.badTarget (.partTooLong part))
  | none => pure ()
  let path := unescaped (unescaped (← t.route)).toList
  return {
    method := String.ofList (method.toList.flatMap Text.asciiCapitals)
    path := if path.isEmpty then "/" else path
    parameters := parameters.getD (queryOf (t.query.getD []))
    body }

def parameter? (r : Request) (key : String) : Option String :=
  r.parameters.reverse.lookup key

end Request

end ExtensionAtlas.Service
