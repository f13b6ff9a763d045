import ExtensionAtlas.Fault
import ExtensionAtlas.Json.Basic
import ExtensionAtlas.Json.Binary
import ExtensionAtlas.Text.Blank
import ExtensionAtlas.Text.Digit
import ExtensionAtlas.Text.Search

/-! Checking the members of a document. A text must be a text; a whole number is also read from a
flag, from a text and from a number without a fraction, a flag also from zero, one and the usual
words. The checks of several members are put together so that the issues of all of them are
reported, in their order. -/

namespace ExtensionAtlas.Document

/-- Whether underscores stand only between two other characters. -/
def underscoresApart : (text : List Char) → Bool
  | [] => true
  | '_' :: '_' :: _ => false
  | ['_'] => false
  | _ :: rest => underscoresApart rest

/-- Whether a character can start a number that has no leading zeros. -/
def startsNumber (c : Char) : Bool := ('1' ≤ c && c ≤ '9') || c == '-'

/-- A text whose leading zeros have been read up to and including `last`: further zeros and
underscores are passed over, and one character stays where nothing but a fraction follows. -/
def withoutZeros (last : Char) : (rest : List Char) → Option (List Char)
  | [] => some [last]
  | c :: rest =>
    if c == '0' || c == '_' then withoutZeros c rest
    else if startsNumber c then some (c :: rest)
    else if c == '.' then some (last :: c :: rest)
    else none

/-- A text without leading zeros, if it starts like a number. -/
def withoutLeadingZeros? : List Char → Option (List Char)
  | [] => none
  | c :: rest =>
    if c == '0' then withoutZeros c rest
    else if startsNumber c then some (c :: rest)
    else none

/-- A text without a fraction that consists of zeros. -/
def withoutFraction (text : List Char) : List Char :=
  match Text.cutAt '.' text with
  | (whole, some fraction) =>
    if !fraction.isEmpty && fraction.all (· == '0') then whole else text
  | _ => text

/-- A text without the underscores in it, if they stand apart. -/
def withoutUnderscores? (text : List Char) : Option (List Char) :=
  if text.head? != some '_' && underscoresApart text then some (text.filter (· != '_')) else none

/-- A number with nothing left in it but its minus and digits: the blanks around it, a plus, leading
zeros, a fraction of zeros and underscores have been taken out. A minus may also stand behind zeros,
but not right behind a plus. -/
def bareNumber? (text : List Char) : Option (List Char) := do
  let counting ←
    match Text.trimBoth Text.isNumberBlank text with
    | '+' :: '-' :: _ => none
    | '+' :: rest => withoutLeadingZeros? rest
    | '-' :: rest => (withoutLeadingZeros? rest).map ('-' :: ·)
    | rest => withoutLeadingZeros? rest
  withoutUnderscores? (withoutFraction counting)

/-- The number that digits write; they have no leading zeros and are not longer than the limit. -/
def digitsValue? (digits : List Char) : Option Nat :=
  if digits.isEmpty || !digits.all Char.isDigit || digits.length > Text.numeralLimit then none
  else if digits.head? == some '0' && digits != ['0'] then none
  else some (Text.numeralValue digits)

def bareValue? : List Char → Option Int
  | '-' :: digits => (digitsValue? digits).map fun n => -(n : Int)
  | digits => (digitsValue? digits).map fun n => (n : Int)

/-- Whether a text starts with a numeral that is longer than the limit. -/
def startsTooLong (text : List Char) : Bool :=
  let digits :=
    match text with
    | '-' :: digits => digits
    | digits => digits
  digits.head?.any (· != '0') && (digits.takeWhile Char.isDigit).length > Text.numeralLimit

def readInteger (text : List Char) : Except IssueKind Int :=
  if startsTooLong text then .error .oversizedInteger
  else
    match (bareNumber? text).bind bareValue? with
    | some value => .ok value
    | none => .error .unreadableInteger

/-- Reads a whole number from a number that has a fraction or an exponent. -/
def wholeOfDecimal (negative : Bool) (digits : Nat) (exponent : Int) : Except IssueKind Int :=
  match Json.nearestBinary? digits exponent with
  | none => .error .notFinite
  | some x =>
    match x.toWhole? with
    | none => .error .fractional
    | some n =>
      if n < Nat.pow 2 63 then .ok (if negative then -n else n) else .error .oversizedInteger

def readFlag (text : List Char) : Except IssueKind Bool :=
  let word := String.ofList (text.map Char.toLower)
  if ["0", "off", "f", "false", "n", "no"].contains word then .ok false
  else if ["1", "on", "t", "true", "y", "yes"].contains word then .ok true
  else .error .unreadableFlag

/-- Reads a flag from a whole number: zero or one. -/
def flagOfInt (n : Int) : Except IssueKind Bool :=
  if n == 0 then .ok false else if n == 1 then .ok true else .error .unreadableFlag

/-- A value that has to be a text. -/
def textOf : Json → Except IssueKind String
  | .string value => .ok value
  | .brokenString => .error .unpairedSurrogate
  | _ => .error .notText

/-- A value that has to be a text or null. -/
def optionalTextOf : Json → Except IssueKind (Option String)
  | .null => .ok none
  | value => (textOf value).map some

/-- A value that has to be or to write a whole number. -/
def integerOf : Json → Except IssueKind Int
  | .int n => .ok n
  | .bool b => .ok (if b then 1 else 0)
  | .decimal negative digits exponent => wholeOfDecimal negative digits exponent
  | .special _ => .error .notFinite
  | .string value => readInteger value.toList
  | .brokenString => .error .unreadableInteger
  | _ => .error .notInteger

/-- A value that has to be or to write a flag. -/
def flagOf : Json → Except IssueKind Bool
  | .bool b => .ok b
  | .string value => readFlag value.toList
  | .brokenString => .error .unreadableFlag
  | .int n => if -Int.pow 2 63 ≤ n && n < Int.pow 2 63 then flagOfInt n else .error .notFlag
  | .decimal negative digits exponent =>
    match wholeOfDecimal negative digits exponent with
    | .ok n => flagOfInt n
    | .error _ => .error .notFlag
  | _ => .error .notFlag

/-- A value, or all that is wrong with the document that should give it. -/
inductive Checked (α : Type) where
  | valid (value : α)
  | refused (issues : List Issue)

namespace Checked

variable {α β : Type}

def map (f : α → β) : Checked α → Checked β
  | valid value => valid (f value)
  | refused issues => refused issues

/-- Applies one checked value to another; the issues of both are kept. -/
def apply : Checked (α → β) → Checked α → Checked β
  | valid f, valid value => valid (f value)
  | valid _, refused issues => refused issues
  | refused issues, valid _ => refused issues
  | refused issues, refused more => refused (issues ++ more)

/-- Several checks are put together with all of their issues. -/
instance : Applicative Checked where
  pure := valid
  map := map
  seq f value := apply f (value ())

/-- The value, or the issues as a failure. -/
def toExcept : Checked α → Except (List Issue) α
  | valid value => .ok value
  | refused issues => .error issues

/-- The value, or the fault of a document with these issues. -/
def orFault (checked : Checked α) : Except Fault α :=
  checked.toExcept.mapError Fault.invalidDocument

end Checked

/-- The check of one member of a document, which is missing if it has no value. -/
def member {α : Type} (check : Json → Except IssueKind α) (key : String) (value : Option Json) :
    Checked α :=
  match value with
  | none => .refused [⟨[.key key], .missing⟩]
  | some value =>
    match check value with
    | .ok value => .valid value
    | .error kind => .refused [⟨[.key key], kind⟩]

/-- The check of the items of a list of texts, from some position on. -/
def textItems (key : String) : (position : Nat) → List Json → Checked (List String)
  | _, [] => .valid []
  | position, item :: items =>
    let first : Checked String :=
      match textOf item with
      | .ok value => .valid value
      | .error kind => .refused [⟨[.key key, .index position], kind⟩]
    List.cons <$> first <*> textItems key (position + 1) items

end ExtensionAtlas.Document
