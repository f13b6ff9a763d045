import ExtensionAtlas.Host.NameFault
import ExtensionAtlas.Text.Boundaries
import ExtensionAtlas.Text.Mark

/-! The direction of writing of labels. A label with letters that are written from right to left has
no others, a label that starts with a letter from left to right has none of them, and it has to end
in a letter or a number, marks behind it aside. A label without such letters has no rules to keep.
The directions are those of Unicode 14, for the code points that labels can have. -/

namespace ExtensionAtlas.Host

/-- The part that a code point plays in the direction of a label. -/
inductive Direction where
  | leftToRight
  | rightToLeft
  | europeanNumber
  | arabicNumber
  | nonspacing
  | neutral
  deriving DecidableEq, Repr

/-- Letters that are written from right to left. -/
def rightwardChanges : Text.Boundaries :=
  ⟨#[
    0x5D0, 0x610, 0x620, 0x64B, 0x66E, 0x670, 0x671, 0x6D6, 0x6E5, 0x6E7, 0x6EE, 0x6F0, 0x6FA,
    0x711, 0x712, 0x730, 0x74D, 0x7A6, 0x7B1, 0x7EB, 0x7F4, 0x7FD, 0x800, 0x816, 0x81A, 0x81B,
    0x824, 0x825, 0x828, 0x829, 0x840, 0x859, 0x860, 0x898, 0x8A0, 0x8CA, 0xFE73, 0x10000, 0x10800,
    0x10A01, 0x10A10, 0x10A38, 0x10A60, 0x10AE5, 0x10B00, 0x10D24, 0x10E80, 0x10EAB, 0x10EB0,
    0x10F46, 0x10F70, 0x10F82, 0x10FB0, 0x11000, 0x1E800, 0x1E8D0, 0x1E922, 0x1E944, 0x1E94B,
    0x20000]⟩

/-- Marks that take no place of their own; the table is for marks only. -/
def nonspacingChanges : Text.Boundaries :=
  ⟨#[
    0x300, 0x903, 0x93A, 0x93B, 0x93C, 0x93E, 0x941, 0x949, 0x94D, 0x94E, 0x951, 0x982, 0x9BC,
    0x9BE, 0x9C1, 0x9C7, 0x9CD, 0x9D7, 0x9E2, 0xA03, 0xA3C, 0xA3E, 0xA41, 0xA83, 0xABC, 0xABE,
    0xAC1, 0xAC9, 0xACD, 0xB02, 0xB3C, 0xB3E, 0xB3F, 0xB40, 0xB41, 0xB47, 0xB4D, 0xB57, 0xB62,
    0xBBE, 0xBC0, 0xBC1, 0xBCD, 0xBD7, 0xC00, 0xC01, 0xC04, 0xC41, 0xC46, 0xC82, 0xCBC, 0xCBE,
    0xCCC, 0xCD5, 0xCE2, 0xD02, 0xD3B, 0xD3E, 0xD41, 0xD46, 0xD4D, 0xD57, 0xD62, 0xD82, 0xDCA,
    0xDCF, 0xDD2, 0xDD8, 0xE31, 0xF3E, 0xF71, 0xF7F, 0xF80, 0x102B, 0x102D, 0x1031, 0x1032, 0x1038,
    0x1039, 0x103B, 0x103D, 0x1056, 0x1058, 0x1062, 0x1071, 0x1083, 0x1085, 0x1087, 0x108D, 0x108F,
    0x109D, 0x1715, 0x1732, 0x1734, 0x1752, 0x17B6, 0x17B7, 0x17BE, 0x17C6, 0x17C7, 0x17C9, 0x1923,
    0x1927, 0x1929, 0x1932, 0x1933, 0x1939, 0x1A19, 0x1A1B, 0x1A55, 0x1A56, 0x1A57, 0x1A58, 0x1A61,
    0x1A62, 0x1A63, 0x1A65, 0x1A6D, 0x1A73, 0x1B04, 0x1B34, 0x1B35, 0x1B36, 0x1B3B, 0x1B3C, 0x1B3D,
    0x1B42, 0x1B43, 0x1B6B, 0x1B82, 0x1BA2, 0x1BA6, 0x1BA8, 0x1BAA, 0x1BAB, 0x1BE7, 0x1BE8, 0x1BEA,
    0x1BED, 0x1BEE, 0x1BEF, 0x1BF2, 0x1C2C, 0x1C34, 0x1C36, 0x1CE1, 0x1CE2, 0x1CF7, 0x1CF8, 0xA823,
    0xA825, 0xA827, 0xA82C, 0xA880, 0xA8C4, 0xA952, 0xA980, 0xA983, 0xA9B3, 0xA9B4, 0xA9B6, 0xA9BA,
    0xA9BC, 0xA9BE, 0xA9E5, 0xAA2F, 0xAA31, 0xAA33, 0xAA35, 0xAA4D, 0xAA7C, 0xAA7D, 0xAAB0, 0xAAEB,
    0xAAEC, 0xAAEE, 0xAAF6, 0xABE3, 0xABE5, 0xABE6, 0xABE8, 0xABE9, 0xABED, 0x11000, 0x11001,
    0x11002, 0x11038, 0x11082, 0x110B3, 0x110B7, 0x110B9, 0x1112C, 0x1112D, 0x11145, 0x11173,
    0x11182, 0x111B6, 0x111BF, 0x111C9, 0x111CE, 0x111CF, 0x1122C, 0x1122F, 0x11232, 0x11234,
    0x11235, 0x11236, 0x112E0, 0x112E3, 0x11302, 0x1133B, 0x1133E, 0x11340, 0x11341, 0x11366,
    0x11435, 0x11438, 0x11440, 0x11442, 0x11445, 0x11446, 0x114B0, 0x114B3, 0x114B9, 0x114BA,
    0x114BB, 0x114BF, 0x114C1, 0x114C2, 0x115AF, 0x115B2, 0x115B8, 0x115BC, 0x115BE, 0x115BF,
    0x11630, 0x11633, 0x1163B, 0x1163D, 0x1163E, 0x1163F, 0x116AC, 0x116AD, 0x116AE, 0x116B0,
    0x116B6, 0x116B7, 0x11720, 0x11722, 0x11726, 0x11727, 0x1182C, 0x1182F, 0x11838, 0x11839,
    0x11930, 0x1193B, 0x1193D, 0x1193E, 0x11940, 0x11943, 0x119D1, 0x119D4, 0x119DC, 0x119E0,
    0x119E4, 0x11A01, 0x11A07, 0x11A09, 0x11A39, 0x11A3B, 0x11A57, 0x11A59, 0x11A97, 0x11A98,
    0x11C2F, 0x11C30, 0x11C3E, 0x11C92, 0x11CA9, 0x11CAA, 0x11CB1, 0x11CB2, 0x11CB4, 0x11CB5,
    0x11D8A, 0x11D90, 0x11D93, 0x11D95, 0x11D96, 0x11D97, 0x11EF5, 0x16AF0, 0x16F51, 0x16F8F,
    0x16FF0, 0x1BC9D, 0x110000]⟩

def neutralChanges : Text.Boundaries :=
  ⟨#[
    0x2D, 0x30, 0xB7, 0xDF, 0x2B9, 0x2BB, 0x2C6, 0x2D0, 0x2EC, 0x2EE, 0x375, 0x377, 0x200C, 0x214E,
    0x2E2F, 0x3005, 0x30FB, 0x30FC, 0xA67F, 0xA681, 0xA717, 0xA723, 0xA788, 0xA78C]⟩

def arabicNumberChanges : Text.Boundaries := ⟨#[0x660, 0x66E, 0x10D30, 0x10E80]⟩

/-- Numbers in the digits of Europe, and in those of the East of the Arabic world. -/
def europeanNumberChanges : Text.Boundaries := ⟨#[0x30, 0x61, 0x6F0, 0x6FA]⟩

namespace Direction

def ofPoint (point : Nat) : Direction :=
  if rightwardChanges.containsPoint point then rightToLeft
  else if Text.isMark point && nonspacingChanges.containsPoint point then nonspacing
  else if arabicNumberChanges.containsPoint point then arabicNumber
  else if europeanNumberChanges.containsPoint point then europeanNumber
  else if neutralChanges.containsPoint point then neutral
  else leftToRight

/-- Whether a code point makes the rules on directions apply to its label. -/
def isRightward : Direction → Bool
  | rightToLeft | arabicNumber => true
  | _ => false

/-- Whether a label can end with a code point, where `before` tells whether it could have ended in
front of it: marks leave that as it is. -/
def canEnd (before : Bool) : Direction → Bool
  | nonspacing => before
  | neutral => false
  | _ => true

/-- Checks a label from right to left from some position on. It has numbers of one kind. -/
def checkRightToLeft (canEndBefore : Bool) (number : Option Direction) :
    (position : Nat) → List Direction → Except NameFault Unit
  | _, [] => if canEndBefore then .ok () else .error .undirectedEnd
  | position, d :: rest =>
    let isNumber := d == arabicNumber || d == europeanNumber
    if d == leftToRight then .error (.againstRightToLeft position)
    else if isNumber && number.any (· != d) then .error .mixedNumbers
    else
      checkRightToLeft (d.canEnd canEndBefore) (if isNumber then some d else number)
        (position + 1) rest

/-- Checks a label from left to right from some position on. -/
def checkLeftToRight (canEndBefore : Bool) :
    (position : Nat) → List Direction → Except NameFault Unit
  | _, [] => if canEndBefore then .ok () else .error .undirectedEnd
  | position, d :: rest =>
    if d.isRightward then .error (.againstLeftToRight position)
    else checkLeftToRight (d.canEnd canEndBefore) (position + 1) rest

/-- Checks the directions of a label whose code points are all known. -/
def check (label : List Nat) : Except NameFault Unit :=
  let directions := label.map ofPoint
  if directions.any isRightward then
    match directions.head? with
    | some rightToLeft => checkRightToLeft false none 1 directions
    | some leftToRight => checkLeftToRight false 1 directions
    | _ => .error (.undirectedStart label)
  else .ok ()

end Direction

end ExtensionAtlas.Host
