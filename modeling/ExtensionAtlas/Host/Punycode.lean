import ExtensionAtlas.Text.Search

/-! Punycode, which writes any text in small letters, digits and hyphens. In front of the last
hyphen stand the ASCII characters of the text. Behind it the others follow from the smallest code
point to the largest, each as a number: how many places are passed over from the last one written,
where a step to the next code point counts as one round over all places. A number is written to base
36 with its least digit first, and ends with a digit below the threshold of its place; the
thresholds follow the size of the numbers. -/

namespace ExtensionAtlas.Host.Punycode

/-- The least digit that does not end a number at a place. -/
def threshold (bias place : Nat) : Nat :=
  min 26 (max 1 (36 * (place + 1) - bias))

/-- The bias for numbers of about some size. -/
def biasOf (size : Nat) (rounds : Nat) : Nat :=
  if 455 < size then biasOf (size / 35) (rounds + 1) else 36 * rounds + 36 * size / (size + 38)
termination_by size

/-- The bias behind a number, where `count` characters are written by then. -/
def nextBias (number : Nat) (isFirst : Bool) (count : Nat) : Nat :=
  let size := number / (if isFirst then 700 else 2)
  biasOf (size + size / count) 0

def startBias : Nat := 72

def digitChar (digit : Nat) : Char :=
  if digit < 26 then Char.ofNat (97 + digit) else Char.ofNat (22 + digit)

def digitOf? (c : Char) : Option Nat :=
  if 'a' ≤ c && c ≤ 'z' then some (c.toNat - 97)
  else if '0' ≤ c && c ≤ '9' then some (c.toNat - 22)
  else none

/-- The digits of a number from some place on. -/
def writeNumber (bias place number : Nat) : List Char :=
  if number < threshold bias place then [digitChar number]
  else
    let rest := number - threshold bias place
    let base := 36 - threshold bias place
    digitChar (threshold bias place + rest % base) :: writeNumber bias (place + 1) (rest / base)
termination_by number
decreasing_by
  have positive : 1 ≤ threshold bias place := by simp only [threshold]; omega
  have smaller := Nat.div_le_self (number - threshold bias place) (36 - threshold bias place)
  omega

/-- The number that digits write from some place on, and the text behind it. -/
def readNumber? (bias : Nat) : (place : Nat) → (text : List Char) → Option (Nat × List Char)
  | _, [] => none
  | place, c :: text =>
    match digitOf? c with
    | none => none
    | some digit =>
      if digit < threshold bias place then some (digit, text)
      else
        (readNumber? bias (place + 1) text).map fun (number, text) =>
          (digit + number * (36 - threshold bias place), text)

/-- How far a text has been written: which number is under way, how many characters are written, and
the digits so far. -/
structure Writing where
  /-- The code point whose round is due. -/
  next : Nat := 0x80
  number : Nat := 0
  bias : Nat := startBias
  isFirst : Bool := true
  count : Nat
  digits : List Char := []

namespace Writing

/-- Passes over one character of the text in the round of a code point. -/
def pass (point : Nat) (w : Writing) (other : Nat) : Writing :=
  if other < point then { w with number := w.number + 1 }
  else if other == point then
    { w with
      number := 0
      bias := nextBias w.number w.isFirst (w.count + 1)
      isFirst := false
      count := w.count + 1
      digits := w.digits ++ writeNumber w.bias 0 w.number }
  else w

def round (text : List Nat) (w : Writing) (point : Nat) : Writing :=
  let started := { w with number := w.number + (point - w.next) * (w.count + 1) }
  let passed := text.foldl (pass point) started
  { passed with next := point + 1, number := passed.number + 1 }

end Writing

/-- The code points beyond ASCII of a text, each once, in ascending order. -/
def wideRounds (text : List Nat) : List Nat :=
  ((text.filter (0x80 ≤ ·)).mergeSort).eraseDups

/-- Writes a text that is given by its code points. -/
def encode (text : List Nat) : List Char :=
  let plain := text.filter (· < 0x80)
  let start : Writing := { count := plain.length }
  let w := (wideRounds text).foldl (Writing.round text) start
  (if plain.isEmpty then [] else plain.map Char.ofNat ++ ['-']) ++ w.digits

/-- Puts the code points that numbers stand for into a text; the next place is at `place` in the
round of `point`. Every number is at least one digit long. -/
def readNumbers? (isFirst : Bool) (done : List Nat) (point place bias : Nat) :
    (fuel : Nat) → (text : List Char) → Option (List Nat)
  | _, [] => some done
  | 0, _ => none
  | fuel + 1, text =>
    match readNumber? bias 0 text with
    | none => none
    | some (number, text) =>
      let count := done.length + 1
      let point := point + (place + number) / count
      let place := (place + number) % count
      if point < 0x110000 then
        readNumbers? false (done.take place ++ point :: done.drop place) point (place + 1)
          (nextBias number isFirst count) fuel text
      else none

/-- The code points of the text that is written so, if one is. -/
def decode? (text : List Char) : Option (List Nat) :=
  let (plain, numbers) := (Text.cutAtLast '-' text).getD ([], text)
  readNumbers? true (plain.map Char.toNat) 0x80 0 startBias numbers.length numbers

end ExtensionAtlas.Host.Punycode
