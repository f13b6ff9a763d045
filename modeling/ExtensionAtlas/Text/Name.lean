import ExtensionAtlas.Pattern.Basic

/-! Names as source text writes them: any text on one line between double quotes, or an identifier
of letters, digits and underscores that does not start with a digit. Where letter case is ignored
the four characters beyond ASCII that have a Latin letter as partner count as letters too. -/

namespace ExtensionAtlas.Text

/-- Whether a character is a Latin letter or agrees with one up to case. -/
def isLatin (c : Char) : Bool :=
  let small := lowerLetter c
  ('a' ≤ small && small ≤ 'z') || small == 'ı' || small == 'ſ'

def isNameStart (c : Char) : Bool := isLatin c || c == '_'

/-- Whether a character can stand inside an identifier. -/
def isNamePart (c : Char) : Bool := isNameStart c || ('0' ≤ c && c ≤ '9')

/-- Whether a character can stand between the quotes of a name. -/
def isQuotable (c : Char) : Bool := c != '\x22' && c != '\n'

end ExtensionAtlas.Text

namespace ExtensionAtlas.Pattern

variable {σ : Type}

/-- A text between double quotes, captured without them. -/
def quotedName (slot : σ) : Pattern σ :=
  inOrder [char '\x22', capture slot (someMost Text.isQuotable), char '\x22']

/-- A name, captured without the quotes that it may have. -/
def name (slot : σ) : Pattern σ :=
  oneOf [quotedName slot, capture slot (.both (.one Text.isNameStart) (.most Text.isNamePart))]

end ExtensionAtlas.Pattern
