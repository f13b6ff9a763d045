import ExtensionAtlas.Fault

/-! Bodies of declarations. A body runs from behind an opening brace to the brace that closes it,
and to the end of the text if none does. -/

namespace ExtensionAtlas.Source

/-- The text up to the closing brace that is `depth` levels out. -/
def takeBody : (depth : Nat) → (text : List Char) → List Char
  | _, [] => []
  | depth, c :: rest =>
    if c == '\x7b' then c :: takeBody (depth + 1) rest
    else if c == '\x7d' then
      match depth with
      | 0 => []
      | depth + 1 => c :: takeBody depth rest
    else c :: takeBody depth rest

def body (source : List Char) (start : Nat) : List Char :=
  takeBody 0 (source.drop start)

/-- The body that starts at an offset; a negative one counts from the end of the text. The search
for the closing brace then runs on at the start of the text, and the body is what lies between its
two ends in the text itself. -/
def bodyFrom (source : List Char) (start : Int) : Except Fault (List Char) :=
  let back := (-start).toNat
  let offset := source.length - back
  if 0 ≤ start then .ok (body source start.toNat)
  else if start < -Int.pow 2 63 then .error .positionTooLarge
  else if source.length < back then .error .startOutside
  else
    let length := (body (source.drop offset ++ source) 0).length
    if length < back then .ok ((source.drop offset).take length)
    else if length == back + source.length then .ok (source.drop offset)
    else .ok ((source.take (length - back)).drop offset)

end ExtensionAtlas.Source
