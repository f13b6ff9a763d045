/-! Finding one text in another and cutting a text at a separator. -/

namespace ExtensionAtlas.Text

def occursIn (part : List Char) : (whole : List Char) → Bool
  | [] => part.isEmpty
  | c :: rest => part.isPrefixOf (c :: rest) || occursIn part rest

/-- The pieces of a text between the occurrences of a separator; there is always one more piece than
there are separators. -/
def splitAt (separator : Char) : List Char → List (List Char)
  | [] => [[]]
  | c :: rest =>
    match splitAt separator rest with
    | [] => [[c]]
    | piece :: pieces => if c == separator then [] :: piece :: pieces else (c :: piece) :: pieces

/-- The part of a text in front of the first separator and, if there is a separator, the part behind
it. -/
def cutAt (separator : Char) (text : List Char) : List Char × Option (List Char) :=
  match text.dropWhile (· != separator) with
  | [] => (text, none)
  | _ :: rest => (text.takeWhile (· != separator), some rest)

/-- The parts of a text in front of the last separator and behind it, if there is a separator. -/
def cutAtLast (separator : Char) (text : List Char) : Option (List Char × List Char) :=
  match text.reverse.dropWhile (· != separator) with
  | [] => none
  | _ :: front => some (front.reverse, (text.reverse.takeWhile (· != separator)).reverse)

end ExtensionAtlas.Text
