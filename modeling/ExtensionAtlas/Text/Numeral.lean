import ExtensionAtlas.Fault
import ExtensionAtlas.Text.Blank

/-! Reading and writing decimal numerals. A numeral may use the digits of any script and may not be
longer than the limit, leading zeros counted. A whole number may also have a sign, single
underscores between its digits and blanks around it. A number whose numeral would be longer than the
limit cannot be written; its sign does not count. -/

namespace ExtensionAtlas.Text

/-- The number that a row of digits writes, unless the row is too long. -/
def readNumeral (digits : List Char) : Except Fault Nat :=
  if digits.length > numeralLimit then .error (.numeralTooLong digits.length)
  else .ok (numeralValue digits)

/-- The digits of a number whose sign has been read; single underscores may stand between them. -/
def digits? : List Char → Option (List Char)
  | [] => none
  | [c] => if isDigit c then some [c] else none
  | c :: '_' :: rest => if isDigit c then (digits? rest).map (c :: ·) else none
  | c :: rest => if isDigit c then (digits? rest).map (c :: ·) else none

def readInt? (text : List Char) : Option Int :=
  let (negative, unsigned) :=
    match trimBoth isNumberBlank text with
    | '-' :: rest => (true, rest)
    | '+' :: rest => (false, rest)
    | rest => (false, rest)
  match digits? unsigned with
  | none => none
  | some digits =>
    if digits.length > numeralLimit then none
    else
      let value : Int := numeralValue digits
      some (if negative then -value else value)

/-- Whether the digits of a number fit into a numeral. -/
def IsWritable (n : Int) : Prop := (Nat.toDigits 10 n.natAbs).length ≤ numeralLimit

instance (n : Int) : Decidable (IsWritable n) := Nat.decLe _ _

/-- The numeral of a number, unless it gets too long. -/
def writeInt (n : Int) : Except Fault String :=
  if IsWritable n then .ok (toString n) else .error .numeralUnwritable

end ExtensionAtlas.Text
