import ExtensionAtlas.Text.Quoted

/-! Why the name of a host is no name, by cause, and the wording of each cause. Positions are
counted from one. -/

namespace ExtensionAtlas.Host

/-- Why the name of a host is refused. -/
inductive NameFault where
  | tooLong
  | emptyLabel
  /-- A label is marked as encoded, but has nothing behind the mark. -/
  | nothingEncoded
  | encodedEndsInHyphen
  | undecodable
  | notComposed
  | doubleHyphen
  | hyphenAtEdge
  | startsWithMark
  /-- A code point that no label can have. -/
  | forbidden (point position : Nat) (label : List Nat)
  | strayJoiner (point position : Nat) (label : List Nat)
  | misplaced (point position : Nat) (label : List Nat)
  | unknownDirection (position : Nat) (label : List Nat)
  | undirectedStart (label : List Nat)
  | againstRightToLeft (position : Nat)
  | againstLeftToRight (position : Nat)
  | mixedNumbers
  | undirectedEnd
  deriving DecidableEq, Repr

def pointName (point : Nat) : String :=
  let width := if point < 0x10000 then 4 else if point < 0x100000 then 5 else 6
  "U+" ++ String.ofList ((Text.hexDigits point width).map Char.toUpper)

def NameFault.message : NameFault → String
  | tooLong => "Domain too long"
  | emptyLabel => "Empty Label"
  | nothingEncoded => "Malformed A-label, no Punycode eligible content found"
  | encodedEndsInHyphen => "A-label must not end with a hyphen"
  | undecodable => "Invalid A-label"
  | notComposed => "Label must be in Normalization Form C"
  | doubleHyphen => "Label has disallowed hyphens in 3rd and 4th position"
  | hyphenAtEdge => "Label must not start or end with a hyphen"
  | startsWithMark => "Label begins with an illegal combining character"
  | forbidden point position label =>
    s!"Codepoint {pointName point} at position {position} of {Text.quotedPoints label} not allowed"
  | strayJoiner point position label =>
    s!"Unknown codepoint adjacent to joiner {pointName point} at position {position} in " ++
      Text.quotedPoints label
  | misplaced point position label =>
    s!"Codepoint {pointName point} not allowed at position {position} in " ++
      Text.quotedPoints label
  | unknownDirection position label =>
    s!"Unknown directionality in label {Text.quotedPoints label} at position {position}"
  | undirectedStart label =>
    s!"First codepoint in label {Text.quotedPoints label} must be directionality L, R or AL"
  | againstRightToLeft position =>
    s!"Invalid direction for codepoint at position {position} in a right-to-left label"
  | againstLeftToRight position =>
    s!"Invalid direction for codepoint at position {position} in a left-to-right label"
  | mixedNumbers => "Can not mix numeral types in a right-to-left label"
  | undirectedEnd => "Label ends with illegal codepoint directionality"

end ExtensionAtlas.Host
