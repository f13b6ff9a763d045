import ExtensionAtlas.Json.Reader
import ExtensionAtlas.Json.Value

/-! Bodies of requests. A body is JSON in UTF-8, UTF-16 or UTF-32; which of them it is shows in the
places of the zero bytes among the first four, since JSON starts with an ASCII character. An
unpaired surrogate is kept as escapes that stand for no character either. A body that cannot be
decoded, that nests too deeply or that has too long a numeral is unreadable; any other text that is
no JSON is malformed. -/

namespace ExtensionAtlas.Service.Body

/-- Why a body gives no document. -/
inductive BodyFault where
  | malformed
  | unreadable
  deriving DecidableEq, Repr

/-- The encodings of JSON: words of one, two or four bytes, with either end first. -/
inductive Encoding where
  | bytes
  | words16 (bigEnd : Bool)
  | words32 (bigEnd : Bool)
  deriving DecidableEq, Repr

def Encoding.ofBytes : List UInt8 → Encoding
  | a :: b :: c :: d :: _ =>
    if a == 0 then (if b == 0 then words32 true else words16 true)
    else if b == 0 then (if c == 0 && d == 0 then words32 false else words16 false)
    else bytes
  | [a, b] => if a == 0 then words16 true else if b == 0 then words16 false else bytes
  | _ => bytes

/-- The number that the bytes of a word write. -/
def wordOf (bigEnd : Bool) (bytes : List UInt8) : Nat :=
  (if bigEnd then bytes else bytes.reverse).foldl (fun n b => n * 256 + b.toNat) 0

/-- The words of two bytes, if none is cut short. -/
def words16? (bigEnd : Bool) : List UInt8 → Option (List Nat)
  | [] => some []
  | a :: b :: rest => (words16? bigEnd rest).map (wordOf bigEnd [a, b] :: ·)
  | _ => none

/-- The words of four bytes, if none is cut short. -/
def words32? (bigEnd : Bool) : List UInt8 → Option (List Nat)
  | [] => some []
  | a :: b :: c :: d :: rest => (words32? bigEnd rest).map (wordOf bigEnd [a, b, c, d] :: ·)
  | _ => none

/-- The text that stands for a surrogate: low ones, which pair with nothing that follows, and of
which the second pairs with nothing in front. Behind a backslash no surrogate can stand. -/
def surrogateText (escaped : Bool) : List Char :=
  if escaped then [' '] else ['\\', 'u', 'd', 'c', '0', '0', '\\', 'u', 'd', 'c', '0', '0']

/-- The text that code points write, if there are code points of those numbers; `escaped` tells
whether the first one stands behind a backslash that starts an escape. -/
def pointsText? : (escaped : Bool) → (points : List Nat) → Option (List Char)
  | _, [] => some []
  | escaped, n :: points =>
    if 0xD800 ≤ n && n < 0xE000 then
      (pointsText? false points).map (surrogateText escaped ++ ·)
    else if n < 0x110000 then
      (pointsText? (!escaped && n == '\\'.toNat) points).map (Char.ofNat n :: ·)
    else none

/-- The text of a body; a byte-order mark in front of it is no part of the text. -/
def decode? (body : String) : Option (List Char) :=
  let bytes := body.toUTF8.toList
  match Encoding.ofBytes bytes with
  | .bytes =>
    match body.toList with
    | '\ufeff' :: rest => some rest
    | text => some text
  | .words16 bigEnd => (words16? bigEnd bytes).bind fun units =>
    pointsText? false (Json.joinSurrogates units)
  | .words32 bigEnd => (words32? bigEnd bytes).bind (pointsText? false)

/-- How deeply the values of a body may nest. -/
def nestingLimit : Nat := 963

/-- How deeply a value may nest that is sent back. -/
def returnLimit : Nat := 958

def read (body : String) : Except BodyFault Json :=
  match decode? body with
  | none => .error .unreadable
  | some text =>
    match Json.readNested nestingLimit text with
    | .ok document => .ok document
    | .error .malformed => .error .malformed
    | .error _ => .error .unreadable

mutual

/-- Whether a value can be sent back: its numbers have to be finite, its texts without unpaired
surrogates, and there has to be room for its containers inside each other. -/
def canReturnWithin : (room : Nat) → Json → Bool
  | _, .special _ | _, .brokenString => false
  | _, .decimal _ digits exponent => (Json.nearestBinary? digits exponent).isSome
  | room, .array items => 0 < room && canReturnItems (room - 1) items
  | room, .object members => 0 < room && canReturnMembers (room - 1) members
  | _, _ => true

/-- Whether all items of a list can be sent back. -/
def canReturnItems : (room : Nat) → List Json → Bool
  | _, [] => true
  | room, item :: items => canReturnWithin room item && canReturnItems room items

/-- Whether all members of an object can be sent back. -/
def canReturnMembers : (room : Nat) → List (String × Json) → Bool
  | _, [] => true
  | room, (_, value) :: members => canReturnWithin room value && canReturnMembers room members

end

def canReturn (value : Json) : Bool := canReturnWithin returnLimit value

end ExtensionAtlas.Service.Body
