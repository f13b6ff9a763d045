/-! JSON values. An object keeps its members in the order in which they were written. Whole numbers
are exact; a number with a fraction or an exponent keeps the decimal it was written as, its sign
apart since zero has one too, so that it can be written back. A string with an unpaired surrogate is
a value, but has no text. -/

namespace ExtensionAtlas

/-- A JSON value. -/
inductive Json where
  | null
  | bool (value : Bool)
  | int (value : Int)
  | decimal (negative : Bool) (digits : Nat) (exponent : Int)
  | special (spelling : String)
  | string (value : String)
  | brokenString
  | array (items : List Json)
  | object (members : List (String × Json))
  deriving Inhabited, Repr

namespace Json

/-- The member of an object with a given key; other values have no members. -/
def get? (key : String) : Json → Option Json
  | .object members => members.lookup key
  | _ => none

/-- A text, or null if there is none. -/
def ofText? : Option String → Json
  | some value => .string value
  | none => .null

def ofTexts (values : List String) : Json :=
  .array (values.map .string)

end Json

end ExtensionAtlas
