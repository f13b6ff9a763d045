import ExtensionAtlas.Json.Basic
import ExtensionAtlas.Json.Binary

/-! What JSON values amount to, whatever way they are written: which of them are empty, which are
the same, and what kind of value they are. True and false count as one and zero, and a number with a
fraction is the binary number nearest to it. -/

namespace ExtensionAtlas.Json

/-- The amount of a number: `significand * 2 ^ exponent`, or beyond every number. -/
inductive Quantity where
  | finite (significand : Int) (exponent : Int)
  | infinite (negative : Bool)
  deriving DecidableEq, Repr

namespace Quantity

/-- The amount of a binary number with a sign. -/
def ofBinary (negative : Bool) (x : Binary) : Quantity :=
  .finite (if negative then -x.significand else x.significand) x.exponent

/-- Whether two amounts are equal, brought to the smaller of their powers. -/
def same : Quantity → Quantity → Bool
  | finite a d, finite b e =>
    a * Int.pow 2 (d - min d e).toNat == b * Int.pow 2 (e - min d e).toNat
  | infinite a, infinite b => a == b
  | _, _ => false

def isZero : Quantity → Bool
  | finite significand _ => significand == 0
  | infinite _ => false

end Quantity

/-- The amount of a value that counts as a number. -/
def quantity? : Json → Option Quantity
  | .bool value => some (.finite (if value then 1 else 0) 0)
  | .int value => some (.finite value 0)
  | .decimal negative digits exponent =>
    some (((nearestBinary? digits exponent).map (Quantity.ofBinary negative)).getD
      (.infinite negative))
  | .special "Infinity" => some (.infinite false)
  | .special "-Infinity" => some (.infinite true)
  | _ => none

/-- Whether a value counts as absent where one is required: null, false, zero and every empty value.
-/
def isEmptyValue : Json → Bool
  | .null => true
  | .string value => value.isEmpty
  | .array items => items.isEmpty
  | .object members => members.isEmpty
  | value => (value.quantity?.map Quantity.isZero).getD false

mutual

/-- Whether two values are the same; the order of members does not matter. -/
def same : Json → Json → Bool
  | .null, .null => true
  | .string s, .string t => s == t
  | .array items, .array others => sameItems items others
  | .object members, .object others =>
    members.length == others.length && sameMembers members others
  | a, b =>
    match a.quantity?, b.quantity? with
    | some x, some y => x.same y
    | _, _ => false

/-- Whether two lists of values are the same item by item. -/
def sameItems : List Json → List Json → Bool
  | [], [] => true
  | item :: items, other :: others => same item other && sameItems items others
  | _, _ => false

/-- Whether each of some members is the same as the one of that key among others. -/
def sameMembers : List (String × Json) → List (String × Json) → Bool
  | [], _ => true
  | (key, value) :: members, others =>
    (match others.lookup key with
      | some other => same value other
      | none => false)
    && sameMembers members others

end

/-- The name under which messages report the kind of a value. -/
def kindName : Json → String
  | .null => "NoneType"
  | .bool _ => "bool"
  | .int _ => "int"
  | .decimal _ _ _ | .special _ => "float"
  | .string _ | .brokenString => "str"
  | .array _ => "list"
  | .object _ => "dict"

def isContainer : Json → Bool
  | .array _ | .object _ => true
  | _ => false

def isNull : Json → Bool
  | .null => true
  | _ => false

end ExtensionAtlas.Json
