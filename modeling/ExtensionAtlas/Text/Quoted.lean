import ExtensionAtlas.Text.Printable

/-! Text in quotes, as messages show it. Single quotes are used unless the text holds a single quote
and no double quote. The quote in use and the backslash are escaped, tab, line feed and carriage
return have letters, and every other character without a visible form is written by its code point
in two, four or eight hexadecimal digits. -/

namespace ExtensionAtlas.Text

def hexDigit (n : Nat) : Char :=
  if n < 10 then Char.ofNat (48 + n) else Char.ofNat (87 + n)

/-- The last `width` hexadecimal digits of a number. -/
def hexDigits (n : Nat) : (width : Nat) → List Char
  | 0 => []
  | width + 1 => hexDigits (n / 16) width ++ [hexDigit (n % 16)]

/-- How one character stands between two quotes `mark`. -/
def quotedChar (mark c : Char) : List Char :=
  if c == mark || c == '\\' then ['\\', c]
  else if c == '\t' then ['\\', 't']
  else if c == '\n' then ['\\', 'n']
  else if c == '\r' then ['\\', 'r']
  else if isPrintable c then [c]
  else if c.toNat < 0x100 then '\\' :: 'x' :: hexDigits c.toNat 2
  else if c.toNat < 0x10000 then '\\' :: 'u' :: hexDigits c.toNat 4
  else '\\' :: 'U' :: hexDigits c.toNat 8

/-- The quote that a text is put between. -/
def quoteMark (text : List Char) : Char :=
  if text.contains '\'' && !text.contains '\x22' then '\x22' else '\''

def quoted (text : String) : String :=
  let mark := quoteMark text.toList
  String.ofList (mark :: text.toList.flatMap (quotedChar mark) ++ [mark])

/-- How one code point stands between two quotes `mark`; a surrogate has no visible form. -/
def quotedPoint (mark : Char) (point : Nat) : List Char :=
  if 0xD800 ≤ point && point < 0xE000 then '\\' :: 'u' :: hexDigits point 4
  else quotedChar mark (Char.ofNat point)

/-- A text between quotes that is given by its code points. -/
def quotedPoints (points : List Nat) : String :=
  let mark := quoteMark (points.map Char.ofNat)
  String.ofList (mark :: points.flatMap (quotedPoint mark) ++ [mark])

end ExtensionAtlas.Text
