import ExtensionAtlas.Host.Direction
import ExtensionAtlas.Host.Punycode
import ExtensionAtlas.Host.Scripts
import ExtensionAtlas.Host.ValidPoints
import ExtensionAtlas.Text.Composition
import ExtensionAtlas.Text.Printable

/-! Labels, the parts of the name of a host. A label is composed text that does not start with a
mark, has hyphens only inside and not two in the third and fourth place, consists of valid code
points and of some that are allowed next to certain others, and keeps the rules on directions. -/

namespace ExtensionAtlas.Host

def isJoiner (point : Nat) : Bool := point == 0x200C || point == 0x200D

/-- Whether a code point is allowed only in certain places. -/
def isContextual (point : Nat) : Bool :=
  [0xB7, 0x375, 0x5F3, 0x5F4, 0x30FB].contains point
    || (0x660 ≤ point && point < 0x66A) || (0x6F0 ≤ point && point < 0x6FA)

/-- Whether a code point that labels can have is assigned to a character. -/
def isKnown (point : Nat) : Bool := isJoiner point || Text.isPrintable (Char.ofNat point)

/-- Whether the nearest letter of the text in front of a point, nearest first, joins to what stands
behind it. -/
def joinsAfter (before : List Nat) : Bool :=
  match before.dropWhile transparentChanges.containsPoint with
  | point :: _ =>
    joinAfterChanges.containsPoint point || joinBothChanges.containsPoint point
  | [] => false

/-- Whether the nearest letter of the text behind a point joins to what stands in front of it. -/
def joinsBefore (after : List Nat) : Bool :=
  match after.dropWhile transparentChanges.containsPoint with
  | point :: _ =>
    joinBeforeChanges.containsPoint point || joinBothChanges.containsPoint point
  | [] => false

/-- The combining class of the marks that take the vowel from a letter. -/
def vowelKillerClass : Nat := 9

/-- Whether a joiner can stand between two texts, the first of them given backwards: behind a mark
that takes a vowel away, or, if it keeps letters apart, between letters that would join. -/
def allowsJoiner (joiner : Nat) (before after : List Nat) : Bool :=
  match before with
  | [] => false
  | last :: _ =>
    isKnown last
      && (Text.combiningClass last == vowelKillerClass
        || (joiner == 0x200C && joinsAfter before && joinsBefore after))

/-- Whether a code point that is allowed only in certain places can stand between two texts, the
first of them given backwards. -/
def allowsContextual (point : Nat) (before after : List Nat) : Bool :=
  if point == 0xB7 then before.head? == some 'l'.toNat && after.head? == some 'l'.toNat
  else if point == 0x375 then after.head?.any greekChanges.containsPoint
  else if point == 0x5F3 || point == 0x5F4 then before.head?.any hebrewChanges.containsPoint
  else if point == 0x30FB then
    (before ++ after).any fun other =>
      hiraganaChanges.containsPoint other || katakanaChanges.containsPoint other
        || hanChanges.containsPoint other
  else if point < 0x66A then !(before ++ after).any fun other => 0x6F0 ≤ other && other < 0x6FA
  else !(before ++ after).any fun other => 0x660 ≤ other && other < 0x66A

/-- Checks the code points of a label from some point on, where `before` holds the earlier ones in
reverse. -/
def checkPoints (label before : List Nat) : (rest : List Nat) → Except NameFault Unit
  | [] => .ok ()
  | point :: rest =>
    let position := before.length + 1
    if isValidPoint point then checkPoints label (point :: before) rest
    else if isJoiner point then
      if allowsJoiner point before rest then checkPoints label (point :: before) rest
      else .error (.strayJoiner point position label)
    else if isContextual point then
      if allowsContextual point before rest then checkPoints label (point :: before) rest
      else .error (.misplaced point position label)
    else .error (.forbidden point position label)

/-- Checks the places of the hyphens in a label. -/
def checkHyphens (label : List Nat) : Except NameFault Unit :=
  let hyphen := '-'.toNat
  if (label.drop 2).take 2 == [hyphen, hyphen] then .error .doubleHyphen
  else if label.head? == some hyphen || label.getLast? == some hyphen then .error .hyphenAtEdge
  else .ok ()

/-- Checks a label that is given by its code points. -/
def checkLabel (label : List Nat) : Except NameFault Unit := do
  if label.isEmpty then throw .emptyLabel
  if !Text.isComposed label then throw .notComposed
  checkHyphens label
  if label.head?.any Text.isMark then throw .startsWithMark
  checkPoints label [] label
  match label.findIdx? (!isKnown ·) with
  | some place => throw (.unknownDirection (place + 1) label)
  | none => Direction.check label

/-- What labels start with that write others in ASCII. -/
def encodedMark : List Char := ['x', 'n', '-', '-']

/-- The code points of a label in ASCII. -/
def decodeLabel (label : List Char) : Except NameFault (List Nat) := do
  let small := label.map Char.toLower
  if encodedMark.isPrefixOf small then
    let encoded := small.drop encodedMark.length
    if encoded.isEmpty then throw .nothingEncoded
    if encoded.getLast? == some '-' then throw .encodedEndsInHyphen
    match Punycode.decode? encoded with
    | none => throw .undecodable
    | some points =>
      checkLabel points
      return points
  else
    checkLabel (small.map Char.toNat)
    return small.map Char.toNat

def labelLimit : Nat := 63

/-- A label in ASCII, if it can be written so. -/
def encodeLabel? (label : List Char) : Option (List Char) :=
  let points := label.map Char.toNat
  let (isLabel, encoded) :=
    if points.all (· < 0x80) then ((decodeLabel label).toBool, label)
    else ((checkLabel points).toBool, encodedMark ++ Punycode.encode points)
  if isLabel && encoded.length ≤ labelLimit then some encoded else none

end ExtensionAtlas.Host
