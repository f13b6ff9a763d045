import ExtensionAtlas.Text.CompositionTables
import ExtensionAtlas.Text.Mark

/-! Composed text. A letter with marks can often be written in several ways; composed text is
written in the one that has a single character wherever there is one. To compose a text every
character is taken apart, the marks behind each letter are put into the order of their classes, and
each is then joined to the letter in front of it unless another mark of its class, or of a higher
one, stands between. Text is given by its code points, since it may hold surrogates. -/

namespace ExtensionAtlas.Text

/-- The last character that stands for two at or below a point, when that is known to be among the
`2 ^ bits` rows from `base` on. -/
def compositeFrom (point : Nat) : (bits : Nat) → (base : Nat) → Option Composite
  | 0, base => composites[base]?
  | bits + 1, base =>
    match composites[base + Nat.pow 2 bits]? with
    | some row =>
      if row.whole ≤ point then compositeFrom point bits (base + Nat.pow 2 bits)
      else compositeFrom point bits base
    | none => compositeFrom point bits base

/-- The two characters that a syllable of Hangul stands for: its vowel or its last consonant is the
second. -/
def splitSyllable? (point : Nat) : Option (Nat × Nat) :=
  if 0xAC00 ≤ point && point < 0xD7A4 then
    let place := point - 0xAC00
    if place % 28 == 0 then some (0x1100 + place / 588, 0x1161 + place % 588 / 28)
    else some (point - place % 28, 0x11A7 + place % 28)
  else none

/-- The syllable of Hangul that two characters make up. -/
def joinSyllable? (first second : Nat) : Option Nat :=
  if 0x1100 ≤ first && first < 0x1113 && 0x1161 ≤ second && second < 0x1176 then
    some (0xAC00 + (first - 0x1100) * 588 + (second - 0x1161) * 28)
  else if 0xAC00 ≤ first && first < 0xD7A4 && (first - 0xAC00) % 28 == 0
      && 0x11A7 < second && second < 0x11C3 then
    some (first + (second - 0x11A7))
  else none

/-- The two characters that a character stands for. -/
def split? (point : Nat) : Option (Nat × Nat) :=
  match (compositeFrom point 10 0).filter (·.whole == point) with
  | some row => some (row.first, row.second)
  | none => splitSyllable? point

def join? (first second : Nat) : Option Nat :=
  match composites.find? fun row => row.first == first && row.second == second with
  | some row => some row.whole
  | none => joinSyllable? first second

/-- The characters that a character stands for, taken apart so many times. -/
def takenApart : (times : Nat) → (point : Nat) → List Nat
  | 0, point => [point]
  | times + 1, point =>
    match split? point with
    | some (first, second) => takenApart times first ++ [second]
    | none => [point]

/-- Puts a mark in front of a text whose marks are in order: it moves behind the marks of lower
classes. -/
def insertMark (mark : Nat) : (text : List Nat) → List Nat
  | [] => [mark]
  | point :: text =>
    if combiningClass point != 0 && combiningClass point < combiningClass mark then
      point :: insertMark mark text
    else mark :: point :: text

/-- A text with the marks behind each letter in the order of their classes. -/
def orderMarks : List Nat → List Nat
  | [] => []
  | point :: text =>
    if combiningClass point == 0 then point :: orderMarks text
    else insertMark point (orderMarks text)

/-- The character that a letter makes up with a character behind it, where `between` holds the marks
that stand between them in reverse: none of these may be of its class or of a higher one. -/
def joinOver? (letter : Nat) (between : List Nat) (point : Nat) : Option Nat :=
  match between with
  | mark :: _ =>
    if combiningClass point ≤ combiningClass mark then none else join? letter point
  | [] => join? letter point

/-- Joins what stands behind a letter to it as far as that can be done. -/
def composeAfter (letter : Nat) (between : List Nat) : (text : List Nat) → List Nat
  | [] => letter :: between.reverse
  | point :: text =>
    match joinOver? letter between point with
    | some whole => composeAfter whole between text
    | none =>
      if combiningClass point == 0 then letter :: between.reverse ++ composeAfter point [] text
      else composeAfter letter (point :: between) text

/-- Joins the marks of a text to their letters. -/
def composeOrdered : List Nat → List Nat
  | [] => []
  | point :: text =>
    if combiningClass point == 0 then composeAfter point [] text else point :: composeOrdered text

/-- The composed form of a text without characters that such text never holds. No character has to
be taken apart more than four times. -/
def composed (text : List Nat) : List Nat :=
  composeOrdered (orderMarks (text.flatMap (takenApart 4)))

def isComposed (text : List Nat) : Bool :=
  !text.any replacedChanges.containsPoint && composed text == text

end ExtensionAtlas.Text
