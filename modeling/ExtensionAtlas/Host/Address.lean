import ExtensionAtlas.Text.Digit
import ExtensionAtlas.Text.Search

/-! Numeric addresses of hosts. The short ones are four bytes with points between them. The long
ones are eight groups of hexadecimal digits with colons between them; an address of four bytes can
stand for the last two, a run of groups that are zero can be left out once, and a zone can follow
behind a percent sign. -/

namespace ExtensionAtlas.Host

/-- Whether a text is a number from zero to 255 without leading zeros. -/
def isByte (text : List Char) : Bool :=
  !text.isEmpty && text.all Char.isDigit && text.length ≤ 3
    && (text.length == 1 || text.head? != some '0') && Text.numeralValue text < 256

/-- Whether a text is an address of four bytes. -/
def isShortAddress (text : List Char) : Bool :=
  let pieces := Text.splitAt '.' text
  pieces.length == 4 && pieces.all isByte

/-- Whether a text has the looks of an address of four bytes: four runs of digits with points
between them. -/
def looksShort (text : List Char) : Bool :=
  let pieces := Text.splitAt '.' text
  pieces.length == 4 && pieces.all fun piece => !piece.isEmpty && piece.all Char.isDigit

def isHexDigit (c : Char) : Bool :=
  c.isDigit || ('a' ≤ c && c ≤ 'f') || ('A' ≤ c && c ≤ 'F')

/-- Whether a text is a group of a long address. -/
def isGroup (text : List Char) : Bool :=
  !text.isEmpty && text.length ≤ 4 && text.all isHexDigit

/-- The groups between the colons of a text; four bytes at its end stand for two. -/
def groupsOf? (text : List Char) : Option (List (List Char)) :=
  let pieces := Text.splitAt ':' text
  match pieces.getLast? with
  | none => none
  | some last =>
    if pieces.length < 3 then none
    else if last.contains '.' then
      if isShortAddress last then some (pieces.dropLast ++ [['0'], ['0']]) else none
    else some pieces

/-- The number of groups on one side of those left out, if they are groups; a colon may be all there
is on that side. -/
def sideCount? (groups : List (List Char)) : Option Nat :=
  if groups == [[]] then some 0 else if groups.all isGroup then some groups.length else none

def isFull (groups : List (List Char)) : Bool :=
  match (groups.drop 1).dropLast.findIdx? List.isEmpty with
  | none => groups.length == 8 && groups.all isGroup
  | some place =>
    match sideCount? (groups.take (place + 1)), sideCount? (groups.drop (place + 2)) with
    | some front, some back => front + back < 8
    | _, _ => false

def isLongAddress (text : List Char) : Bool :=
  let (address, zone) := Text.cutAt '%' text
  zone.all (fun zone => !zone.isEmpty && !zone.contains '%') && (groupsOf? address).any isFull

end ExtensionAtlas.Host
