/-! Strict decoding of UTF-8. A refusal names the first byte of the sequence that cannot be read and
the bytes after it that could still have belonged to it: a lead byte out of range, a byte that does
not continue the sequence, or the end of the data in the middle of one. -/

namespace ExtensionAtlas.Text

/-- Why a sequence of bytes is refused. -/
inductive Utf8Reason where
  | badLead
  | badContinuation
  | truncated
  deriving DecidableEq, Repr

/-- A refusal: the bytes from `start` to just before `stop`, the first of which is `lead`. -/
structure Utf8Fault where
  reason : Utf8Reason
  lead : UInt8
  start : Nat
  stop : Nat
  deriving DecidableEq, Repr

namespace Utf8Fault

def reasonText : Utf8Reason → String
  | .badLead => "invalid start byte"
  | .badContinuation => "invalid continuation byte"
  | .truncated => "unexpected end of data"

end Utf8Fault

def isContinuation (b : UInt8) : Bool :=
  0x80 ≤ b && b < 0xC0

/-- Whether a byte may stand second after a lead byte: the ranges leave out overlong forms,
surrogates and points past the last plane. -/
def isSecond (lead b : UInt8) : Bool :=
  if lead == 0xE0 then 0xA0 ≤ b && b < 0xC0
  else if lead == 0xED then 0x80 ≤ b && b < 0xA0
  else if lead == 0xF0 then 0x90 ≤ b && b < 0xC0
  else if lead == 0xF4 then 0x80 ≤ b && b < 0x90
  else isContinuation b

/-- The six low bits of a continuation byte. -/
def lowBits (b : UInt8) : Nat := b.toNat % 64

def decodeFrom (offset : Nat) : List UInt8 → Except Utf8Fault (List Char)
  | [] => .ok []
  | a :: rest =>
    let refuse (reason : Utf8Reason) (length : Nat) : Except Utf8Fault (List Char) :=
      .error ⟨reason, a, offset, offset + length⟩
    if a < 0x80 then
      return Char.ofNat a.toNat :: (← decodeFrom (offset + 1) rest)
    else if a < 0xC2 then refuse .badLead 1
    else if a < 0xE0 then
      match rest with
      | [] => refuse .truncated 1
      | b :: rest =>
        if isContinuation b then
          return Char.ofNat (a.toNat % 32 * 64 + lowBits b) :: (← decodeFrom (offset + 2) rest)
        else refuse .badContinuation 1
    else if a < 0xF0 then
      match rest with
      | [] => refuse .truncated 1
      | [b] => if isSecond a b then refuse .truncated 2 else refuse .badContinuation 1
      | b :: c :: rest =>
        if !isSecond a b then refuse .badContinuation 1
        else if !isContinuation c then refuse .badContinuation 2
        else
          return Char.ofNat ((a.toNat % 16 * 64 + lowBits b) * 64 + lowBits c)
            :: (← decodeFrom (offset + 3) rest)
    else if a < 0xF5 then
      match rest with
      | [] => refuse .truncated 1
      | [b] => if isSecond a b then refuse .truncated 2 else refuse .badContinuation 1
      | [b, c] =>
        if !isSecond a b then refuse .badContinuation 1
        else if isContinuation c then refuse .truncated 3 else refuse .badContinuation 2
      | b :: c :: d :: rest =>
        if !isSecond a b then refuse .badContinuation 1
        else if !isContinuation c then refuse .badContinuation 2
        else if !isContinuation d then refuse .badContinuation 3
        else
          return Char.ofNat (((a.toNat % 8 * 64 + lowBits b) * 64 + lowBits c) * 64 + lowBits d)
            :: (← decodeFrom (offset + 4) rest)
    else refuse .badLead 1

/-- The text that bytes encode, or the first refusal. -/
def decodeUtf8 (bytes : List UInt8) : Except Utf8Fault (List Char) :=
  decodeFrom 0 bytes

/-- The text that bytes encode, with a replacement character for every sequence that is refused;
`fuel` is at least the number of bytes. -/
def decodeLossyFrom : (fuel : Nat) → List UInt8 → List Char
  | 0, _ => []
  | fuel + 1, bytes =>
    match decodeUtf8 bytes with
    | .ok text => text
    | .error fault =>
      (decodeUtf8 (bytes.take fault.start)).toOption.getD []
        ++ '\ufffd' :: decodeLossyFrom fuel (bytes.drop fault.stop)

/-- The text that bytes encode, as far as they encode one. -/
def decodeLossy (bytes : List UInt8) : List Char :=
  decodeLossyFrom (bytes.length + 1) bytes

/-- Writes a carriage return, with or without a line feed after it, as one line feed. -/
def unifyLines : List Char → List Char
  | [] => []
  | '\r' :: '\n' :: rest => '\n' :: unifyLines rest
  | '\r' :: rest => '\n' :: unifyLines rest
  | c :: rest => c :: unifyLines rest

end ExtensionAtlas.Text
