import ExtensionAtlas.Host.Label

/-! Names of hosts: labels between points, of which the last may be followed by a point too. There
are other characters that count as points. -/

namespace ExtensionAtlas.Host

def isPoint (c : Char) : Bool :=
  c == '.' || c == '\u3002' || c == '\uff0e' || c == '\uff61'

/-- The longest name in ASCII, without a point at its end. -/
def nameLimit : Nat := 253

/-- The labels of a name, without the empty one that stands behind a point at its end, and whether
there is such a point. -/
def labelsOf (name : List Char) : List (List Char) × Bool :=
  let labels := Text.splitAt '.' (name.map fun c => if isPoint c then '.' else c)
  if labels.getLast? == some [] then (labels.dropLast, true) else (labels, false)

/-- A name in ASCII, if it can be written so. -/
def encode? (name : List Char) : Option (List Char) :=
  if nameLimit + 1 < name.length then none
  else
    let (labels, isClosed) := labelsOf name
    match labels.mapM encodeLabel? with
    | none => none
    | some encoded =>
      let text := ['.'].intercalate (if isClosed then encoded ++ [[]] else encoded)
      if text.length ≤ (if isClosed then nameLimit + 1 else nameLimit) then some text else none

/-- The labels of a name in ASCII, by their code points. -/
def decode (name : List Char) : Except NameFault (List (List Nat)) :=
  if nameLimit + 1 < name.length then .error .tooLong
  else (labelsOf name).1.mapM decodeLabel

end ExtensionAtlas.Host
