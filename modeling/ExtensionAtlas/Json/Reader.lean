import ExtensionAtlas.Json.Basic
import ExtensionAtlas.Text.Digit

/-! Reading JSON. The grammar is the strict one, with NaN and the two infinities added: no comments,
no trailing commas, no control characters inside strings. Of two members with one key the later
value counts. A whole number longer than the limit on numerals is refused with a reason of its own,
and so is a container inside more containers than there is room for.

Containers nest at most as deep as the text is long, so the readers recurse on that length. -/

namespace ExtensionAtlas.Json

/-- Why a text is not read as a JSON value. -/
inductive ReadFault where
  | malformed
  | numeralTooLong
  | nestedTooDeep
  deriving DecidableEq, Repr

/-- A reader of a prefix of a text: what it read and what is left. -/
abbrev Reader (α : Type) := List Char → Except ReadFault (α × List Char)

def isSpace (c : Char) : Bool :=
  c == ' ' || c == '\t' || c == '\n' || c == '\r'

/-- The text behind the blanks in front of it. -/
def skipSpace (text : List Char) : List Char :=
  text.dropWhile isSpace

def hexValue? (c : Char) : Option Nat :=
  if '0' ≤ c && c ≤ '9' then some (c.toNat - 48)
  else if 'a' ≤ c && c ≤ 'f' then some (c.toNat - 87)
  else if 'A' ≤ c && c ≤ 'F' then some (c.toNat - 55)
  else none

/-- The character that a one-letter escape stands for. -/
def escaped? : Char → Option Char
  | '\x22' => some '\x22'
  | '\\' => some '\\'
  | '/' => some '/'
  | 'b' => some '\x08'
  | 'f' => some '\x0c'
  | 'n' => some '\n'
  | 'r' => some '\r'
  | 't' => some '\t'
  | _ => none

/-- The code points and escaped 16-bit units of a string, up to its closing quote. -/
def readUnits : Reader (List Nat)
  | [] => .error .malformed
  | '\x22' :: rest => .ok ([], rest)
  | '\\' :: 'u' :: a :: b :: c :: d :: rest =>
    match hexValue? a, hexValue? b, hexValue? c, hexValue? d with
    | some a, some b, some c, some d =>
      match readUnits rest with
      | .ok (units, rest) => .ok ((((a * 16 + b) * 16 + c) * 16 + d) :: units, rest)
      | .error fault => .error fault
    | _, _, _, _ => .error .malformed
  | '\\' :: c :: rest =>
    match escaped? c with
    | some c =>
      match readUnits rest with
      | .ok (units, rest) => .ok (c.toNat :: units, rest)
      | .error fault => .error fault
    | none => .error .malformed
  | c :: rest =>
    if c.toNat < 0x20 || c == '\\' then .error .malformed
    else
      match readUnits rest with
      | .ok (units, rest) => .ok (c.toNat :: units, rest)
      | .error fault => .error fault

/-- Joins each high surrogate with a low one right behind it. -/
def joinSurrogates : List Nat → List Nat
  | high :: low :: rest =>
    if 0xD800 ≤ high && high < 0xDC00 && 0xDC00 ≤ low && low < 0xE000 then
      (0x10000 + (high - 0xD800) * 0x400 + (low - 0xDC00)) :: joinSurrogates rest
    else high :: joinSurrogates (low :: rest)
  | units => units

/-- The text of a list of code points, unless one of them is a surrogate. -/
def textOf? (points : List Nat) : Option String :=
  if points.any fun n => 0xD800 ≤ n && n < 0xE000 then none
  else some (String.ofList (points.map Char.ofNat))

/-- A string whose opening quote has been read. -/
def readString : Reader Json := fun text =>
  match readUnits text with
  | .ok (units, rest) =>
    .ok (((textOf? (joinSurrogates units)).map Json.string).getD .brokenString, rest)
  | .error fault => .error fault

/-- The longest front of a text that consists of decimal digits, and what is left. -/
def spanDigits (text : List Char) : List Char × List Char :=
  (text.takeWhile Char.isDigit, text.dropWhile Char.isDigit)

/-- The digits behind a decimal point, if there are any. -/
def spanFraction (text : List Char) : List Char × List Char :=
  match text with
  | '.' :: rest =>
    match spanDigits rest with
    | ([], _) => ([], text)
    | parts => parts
  | _ => ([], text)

/-- The exponent behind an `e`, if there is one. -/
def spanExponent (text : List Char) : Option Int × List Char :=
  match text with
  | [] => (none, text)
  | e :: rest =>
    if e == 'e' || e == 'E' then
      let (negative, digits) :=
        match rest with
        | '+' :: digits => (false, digits)
        | '-' :: digits => (true, digits)
        | digits => (false, digits)
      match spanDigits digits with
      | ([], _) => (none, text)
      | (digits, rest) =>
        let value : Int := Text.numeralValue digits
        (some (if negative then -value else value), rest)
    else (none, text)

def readNumber (negative : Bool) : Reader Json := fun text =>
  let (digits, rest) := spanDigits text
  let digits := match digits with
    | '0' :: _ => ['0']
    | digits => digits
  let rest := if digits == ['0'] then text.drop 1 else rest
  if digits.isEmpty then .error .malformed
  else
    let (fraction, rest) := spanFraction rest
    let (exponent?, rest) := spanExponent rest
    if fraction.isEmpty && exponent?.isNone then
      if digits.length > Text.numeralLimit then .error .numeralTooLong
      else
        let value : Int := Text.numeralValue digits
        .ok (.int (if negative then -value else value), rest)
    else
      .ok (.decimal negative (Text.numeralValue (digits ++ fraction))
        (exponent?.getD 0 - fraction.length), rest)

/-- The text behind a given word, if the text starts with the word. -/
def after? (word : String) (text : List Char) : Option (List Char) :=
  if word.toList.isPrefixOf text then some (text.drop word.length) else none

/-- A value that is neither a string nor a container. -/
def readAtom : Reader Json := fun text =>
  match after? "null" text, after? "true" text, after? "false" text, after? "NaN" text,
    after? "Infinity" text, after? "-Infinity" text with
  | some rest, _, _, _, _, _ => .ok (.null, rest)
  | _, some rest, _, _, _, _ => .ok (.bool true, rest)
  | _, _, some rest, _, _, _ => .ok (.bool false, rest)
  | _, _, _, some rest, _, _ => .ok (.special "NaN", rest)
  | _, _, _, _, some rest, _ => .ok (.special "Infinity", rest)
  | _, _, _, _, _, some rest => .ok (.special "-Infinity", rest)
  | _, _, _, _, _, _ =>
    match text with
    | '-' :: rest => readNumber true rest
    | _ => readNumber false text

/-- Whether two strings are the same key; a string without a text is no key but its own. -/
def sameKey : (key other : Json) → Bool
  | .string key, .string other => key == other
  | _, _ => false

/-- Gives a key its value: in its old place if the key is there already, at the end if not. -/
def setMember (key value : Json) : List (Json × Json) → List (Json × Json)
  | [] => [(key, value)]
  | (other, old) :: rest =>
    if sameKey other key then (key, value) :: rest else (other, old) :: setMember key value rest

/-- A member under the key that a string writes. A string without a text gives a member that has
none either. -/
def memberOf (key value : Json) : String × Json :=
  match key with
  | .string key => (key, value)
  | _ => ("\ufffd", .brokenString)

mutual

/-- A value, from its first character on, with room for some more containers inside each other. -/
def readValue : (fuel : Nat) → (room : Nat) → Reader Json
  | 0, _, _ => .error .malformed
  | fuel + 1, room, text =>
    match text with
    | '\x22' :: rest => readString rest
    | '[' :: rest =>
      match room, skipSpace rest with
      | 0, _ => .error .nestedTooDeep
      | _, ']' :: rest => .ok (.array [], rest)
      | room + 1, rest => readItems fuel room [] rest
    | '\x7b' :: rest =>
      match room, skipSpace rest with
      | 0, _ => .error .nestedTooDeep
      | _, '\x7d' :: rest => .ok (.object [], rest)
      | room + 1, rest => readMembers fuel room [] rest
    | _ => readAtom text

/-- The items of an array from some item on, where `done` holds the earlier ones in reverse. -/
def readItems : (fuel : Nat) → (room : Nat) → (done : List Json) → Reader Json
  | 0, _, _, _ => .error .malformed
  | fuel + 1, room, done, text =>
    match readValue fuel room text with
    | .error fault => .error fault
    | .ok (item, rest) =>
      match skipSpace rest with
      | ',' :: rest => readItems fuel room (item :: done) (skipSpace rest)
      | ']' :: rest => .ok (.array (item :: done).reverse, rest)
      | _ => .error .malformed

/-- The members of an object from some member on. -/
def readMembers : (fuel : Nat) → (room : Nat) → (done : List (Json × Json)) → Reader Json
  | 0, _, _, _ => .error .malformed
  | fuel + 1, room, done, text =>
    match text with
    | '\x22' :: rest =>
      match readString rest with
      | .error fault => .error fault
      | .ok (key, rest) =>
        match skipSpace rest with
        | ':' :: rest =>
          match readValue fuel room (skipSpace rest) with
          | .error fault => .error fault
          | .ok (value, rest) =>
            let done := setMember key value done
            match skipSpace rest with
            | ',' :: rest => readMembers fuel room done (skipSpace rest)
            | '\x7d' :: rest => .ok (.object (done.map fun m => memberOf m.1 m.2), rest)
            | _ => .error .malformed
        | _ => .error .malformed
    | _ => .error .malformed

end

/-- Reads a whole text as one value that nests only so deep. -/
def readNested (room : Nat) (text : List Char) : Except ReadFault Json :=
  match readValue (2 * text.length + 2) room (skipSpace text) with
  | .error fault => .error fault
  | .ok (value, rest) => if (skipSpace rest).isEmpty then .ok value else .error .malformed

def read (text : List Char) : Except ReadFault Json :=
  readNested text.length text

end ExtensionAtlas.Json
