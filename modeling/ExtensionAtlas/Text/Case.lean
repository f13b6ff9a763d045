import ExtensionAtlas.Text.CaseTables

/-! Letter case. A single letter is lowered by its partner in the table. A whole text is lowered
letter by letter with two exceptions: a dotted capital I becomes an i and a combining dot, and a
capital sigma takes its final form where it ends a word. Two characters agree up to case when their
small letters are equal or share a capital. -/

namespace ExtensionAtlas.Text

/-- The row of a table that may hold a code point: the last that starts at or below it, when that
is known to be among the `2 ^ bits` rows from `base` on. -/
def caseRowFrom (rows : Array CaseRow) (point : Nat) : (bits : Nat) → (base : Nat) → Option CaseRow
  | 0, base => rows[base]?
  | bits + 1, base =>
    match rows[base + Nat.pow 2 bits]? with
    | some row =>
      if row.first ≤ point then caseRowFrom rows point bits (base + Nat.pow 2 bits)
      else caseRowFrom rows point bits base
    | none => caseRowFrom rows point bits base

/-- The small letter of a capital; every other character is its own. -/
def lowerLetter (c : Char) : Char :=
  if c.toNat < 0x80 then c.toLower
  else
    match caseRowFrom caseRows c.toNat 8 0 with
    | some row =>
      if row.first ≤ c.toNat && c.toNat ≤ row.last && (c.toNat - row.first) % row.step == 0 then
        Char.ofNat (c.toNat + row.shift).toNat
      else c
    | none => c

/-- Whether a character has a partner of the other case. -/
def isPaired (c : Char) : Bool :=
  if c.toNat < 0x80 then c.isAlpha else pairedChanges.contains c

/-- Whether a character is a letter of either case and is not passed over at the edge of a word. -/
def isCased (c : Char) : Bool :=
  if c.toNat < 0x80 then c.isAlpha else casedChanges.contains c

/-- Whether a character is passed over in the search for the letters around a sigma. -/
def isIgnorable (c : Char) : Bool :=
  if c.toNat < 0x80 then c == '\'' || c == '.' || c == ':' || c == '^' || c == '\x60'
  else ignorableChanges.contains c

/-- Whether the first character that is not passed over is a letter. -/
def letterNext (text : List Char) : Bool :=
  match text.dropWhile isIgnorable with
  | c :: _ => isCased c
  | [] => false

/-- Lowers `rest`, where `before` is the text in front of it read backwards. -/
def lowerAfter (before : List Char) : (rest : List Char) → List Char
  | [] => []
  | c :: rest =>
    if c == 'Σ' then
      (if letterNext before && !letterNext rest then 'ς' else 'σ') :: lowerAfter (c :: before) rest
    else if c == 'İ' then 'i' :: '\u0307' :: lowerAfter (c :: before) rest
    else lowerLetter c :: lowerAfter (c :: before) rest

def lower (text : List Char) : List Char :=
  lowerAfter [] text

/-- The capitals of a character, where those of a character beyond ASCII are letters of ASCII; any
other character is left as it is. -/
def asciiCapitals (c : Char) : List Char :=
  match c with
  | 'ı' => ['I']
  | 'ſ' => ['S']
  | 'ß' => ['S', 'S']
  | 'ﬀ' => ['F', 'F']
  | 'ﬁ' => ['F', 'I']
  | 'ﬂ' => ['F', 'L']
  | 'ﬃ' => ['F', 'F', 'I']
  | 'ﬄ' => ['F', 'F', 'L']
  | 'ﬅ' | 'ﬆ' => ['S', 'T']
  | c => [c.toUpper]

/-- The small letters that count as the same letter as a given small letter. -/
def twinsOf (small : Char) : List Char :=
  match twinLetters.find? (·.contains small.toNat) with
  | some twins => twins.map Char.ofNat
  | none => [small]

/-- Whether `c` is read as the letter `wanted` when case is ignored. A wanted character without a
partner of the other case stands for itself only. -/
def agreesUpToCase (wanted c : Char) : Bool :=
  if isPaired wanted then (twinsOf (lowerLetter wanted)).contains (lowerLetter c) else c == wanted

end ExtensionAtlas.Text
