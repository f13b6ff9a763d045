import ExtensionAtlas.Json.Shortest
import ExtensionAtlas.Json.Value
import ExtensionAtlas.Text.Numeral

/-! How messages show values. Texts stand in quotes, lists in brackets and objects in braces, with a
comma and a space between two parts. A number with a fraction is shown by the fewest digits that
read back as the same number: written out from one ten-thousandth up to sixteen digits in front of
the point, and with an exponent of at least two digits outside that range. A value with a whole
number that is too long to be written cannot be shown; no document holds such a number. -/

namespace ExtensionAtlas.Json

/-- Digits with a point at some place, and a zero where a side of the point would be bare. -/
def writtenOut (digits : List Char) (point : Int) : List Char :=
  if point ≤ 0 then '0' :: '.' :: List.replicate (-point).toNat '0' ++ digits
  else if digits.length ≤ point.toNat then
    digits ++ List.replicate (point.toNat - digits.length) '0' ++ ['.', '0']
  else digits.take point.toNat ++ '.' :: digits.drop point.toNat

/-- An exponent with its sign and at least two digits. -/
def exponentText (exponent : Int) : List Char :=
  let digits := Nat.toDigits 10 exponent.natAbs
  (if exponent < 0 then '-' else '+') :: (if digits.length < 2 then '0' :: digits else digits)

/-- Digits with a point behind the first of them and an exponent. -/
def withExponent (digits : List Char) (point : Int) : List Char :=
  digits.take 1 ++ (if digits.length < 2 then [] else '.' :: digits.drop 1)
    ++ 'e' :: exponentText (point - 1)

def Decimal.shown (d : Decimal) : List Char :=
  let all := Nat.toDigits 10 d.digits
  let digits := (all.reverse.dropWhile (· == '0')).reverse
  let point := all.length + d.exponent
  if -4 < point && point ≤ 16 then writtenOut digits point else withExponent digits point

/-- A number with a fraction or an exponent. -/
def shownDecimal (negative : Bool) (digits : Nat) (exponent : Int) : List Char :=
  let magnitude :=
    match nearestBinary? digits exponent with
    | none => "inf".toList
    | some x => if x.significand == 0 then "0.0".toList else x.shortest.shown
  if negative then '-' :: magnitude else magnitude

def shownSpecial (spelling : String) : List Char :=
  if spelling == "NaN" then "nan".toList
  else if spelling == "-Infinity" then "-inf".toList
  else "inf".toList

mutual

def shownChars : Json → List Char
  | .null => "None".toList
  | .bool true => "True".toList
  | .bool false => "False".toList
  | .int value => (toString value).toList
  | .decimal negative digits exponent => shownDecimal negative digits exponent
  | .special spelling => shownSpecial spelling
  | .string value => (Text.quoted value).toList
  | .brokenString => (Text.quoted "\ufffd").toList
  | .array [] => ['[', ']']
  | .array (item :: items) => '[' :: shownChars item ++ shownItems items ++ [']']
  | .object [] => ['\x7b', '\x7d']
  | .object ((key, value) :: members) =>
    '\x7b' :: (Text.quoted key).toList ++ ':' :: ' ' :: shownChars value ++ shownMembers members
      ++ ['\x7d']

/-- The items of a list behind the first. -/
def shownItems : List Json → List Char
  | [] => []
  | item :: items => ',' :: ' ' :: shownChars item ++ shownItems items

/-- The members of an object behind the first. -/
def shownMembers : List (String × Json) → List Char
  | [] => []
  | (key, value) :: members =>
    ',' :: ' ' :: (Text.quoted key).toList ++ ':' :: ' ' :: shownChars value
      ++ shownMembers members

end

def shown (value : Json) : String := String.ofList value.shownChars

/-- A value inside a text: a text stands for itself, any other value as messages show it. -/
def inText : Json → String
  | .string value => value
  | value => value.shown

mutual

/-- Whether all whole numbers in a value can be written. -/
def isShowable : Json → Bool
  | .int value => decide (Text.IsWritable value)
  | .array items => areShowable items
  | .object members => haveShowable members
  | _ => true

def areShowable : List Json → Bool
  | [] => true
  | item :: items => isShowable item && areShowable items

/-- Whether the values of all members can be shown. -/
def haveShowable : List (String × Json) → Bool
  | [] => true
  | (_, value) :: members => isShowable value && haveShowable members

end

/-- The text of a value, unless a number in it gets too long. -/
def written (value : Json) : Except Fault String :=
  if value.isShowable then .ok value.inText else .error .numeralUnwritable

end ExtensionAtlas.Json
