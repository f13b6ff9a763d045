/-! Blank characters and trimming. Blanks are the controls from tab to carriage return, the four
information separators, the space, and the spaces and line separators beyond ASCII. A zero-width
space and a byte-order mark are not blank. -/

namespace ExtensionAtlas.Text

def isBlank (c : Char) : Bool :=
  let n := c.toNat
  (9 ≤ n && n ≤ 13) || (28 ≤ n && n ≤ 32) || n == 0x85 || n == 0xA0 || n == 0x1680
    || (0x2000 ≤ n && n ≤ 0x200A) || n == 0x2028 || n == 0x2029 || n == 0x202F || n == 0x205F
    || n == 0x3000

/-- The blanks that may stand around a number: all but the information separators. -/
def isNumberBlank (c : Char) : Bool :=
  isBlank c && !(28 ≤ c.toNat && c.toNat ≤ 31)

/-- Drops the characters of a class from the end of a text. -/
def trimEnd (drops : Char → Bool) (text : List Char) : List Char :=
  (text.reverse.dropWhile drops).reverse

/-- Drops the characters of a class from both ends of a text. -/
def trimBoth (drops : Char → Bool) (text : List Char) : List Char :=
  trimEnd drops (text.dropWhile drops)

def strip (text : List Char) : List Char :=
  trimBoth isBlank text

end ExtensionAtlas.Text
