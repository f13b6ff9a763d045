import Mathlib.Tactic.SplitIfs
import ExtensionAtlas.Text.Utf8

/-! Text as bytes and back. The bytes of a text are those of its characters, one to four for each,
and strict decoding reads every text back from its bytes: no lead byte is refused, since no
character lies between the surrogates or past the last plane and none takes more bytes than it
needs. -/

namespace ExtensionAtlas.Text

/-- The bytes of a text. -/
def encodeUtf8 (text : List Char) : List UInt8 := text.flatMap String.utf8EncodeChar

theorem encodeUtf8_cons (c : Char) (text : List Char) :
    encodeUtf8 (c :: text) = String.utf8EncodeChar c ++ encodeUtf8 text :=
  List.flatMap_cons

/-- The byte that continues a sequence with the six low bits of a number. -/
def tailByte (n : Nat) : UInt8 := .ofNat (n % 64 + 128)

theorem toNat_tailByte (n : Nat) : (tailByte n).toNat = n % 64 + 128 := by
  rw [tailByte, UInt8.toNat_ofNat']
  omega

theorem isContinuation_tailByte (n : Nat) : isContinuation (tailByte n) = true := by
  rw [isContinuation, Bool.and_eq_true, decide_eq_true_eq, decide_eq_true_eq,
    UInt8.le_iff_toNat_le, UInt8.lt_iff_toNat_lt, toNat_tailByte]
  simp only [UInt8.reduceToNat]
  omega

theorem lowBits_tailByte (n : Nat) : lowBits (tailByte n) = n % 64 := by
  rw [lowBits, toNat_tailByte]
  omega

/-- The four lead bytes that not every continuation may follow. -/
theorem isSecond_tailByte {lead : UInt8} {n : Nat} (hthree : lead.toNat = 224 → 32 ≤ n % 64)
    (hsurrogate : lead.toNat = 237 → n % 64 < 32) (hfour : lead.toNat = 240 → 16 ≤ n % 64)
    (hlast : lead.toNat = 244 → n % 64 < 16) : isSecond lead (tailByte n) = true := by
  rw [isSecond]
  simp only [beq_iff_eq, ← UInt8.toNat_inj, UInt8.le_iff_toNat_le, UInt8.lt_iff_toNat_lt,
    toNat_tailByte, UInt8.reduceToNat, isContinuation_tailByte]
  split_ifs <;> simp only [Bool.and_eq_true, decide_eq_true_eq] <;> omega

variable {bytes : List UInt8} {text : List Char} {n offset : Nat}

theorem decodeFrom_one (hn : n ≤ 0x7F) (h : decodeFrom (offset + 1) bytes = .ok text) :
    decodeFrom offset (.ofNat n :: bytes) = .ok (Char.ofNat n :: text) := by
  have hlead : (UInt8.ofNat n).toNat = n := by
    rw [UInt8.toNat_ofNat']
    omega
  rw [decodeFrom.eq_def]
  simp only [UInt8.lt_iff_toNat_lt, hlead, UInt8.reduceToNat, h]
  rw [if_pos (by omega)]
  rfl

theorem decodeFrom_two (hn : 0x7F < n) (hn' : n ≤ 0x7FF)
    (h : decodeFrom (offset + 2) bytes = .ok text) :
    decodeFrom offset (.ofNat (n / 64 % 32 + 192) :: tailByte n :: bytes) =
      .ok (Char.ofNat n :: text) := by
  have hlead : (UInt8.ofNat (n / 64 % 32 + 192)).toNat = n / 64 % 32 + 192 := by
    rw [UInt8.toNat_ofNat']
    omega
  have hpoint : (n / 64 % 32 + 192) % 32 * 64 + n % 64 = n := by omega
  rw [decodeFrom.eq_def]
  simp only [UInt8.lt_iff_toNat_lt, hlead, UInt8.reduceToNat, isContinuation_tailByte, if_true, h,
    lowBits_tailByte, hpoint]
  rw [if_neg (by omega), if_neg (by omega), if_pos (by omega)]
  rfl

theorem decodeFrom_three (hn : 0x7FF < n) (hn' : n ≤ 0xFFFF) (hvalid : n < 0xD800 ∨ 0xDFFF < n)
    (h : decodeFrom (offset + 3) bytes = .ok text) :
    decodeFrom offset (.ofNat (n / 4096 % 16 + 224) :: tailByte (n / 64) :: tailByte n :: bytes) =
      .ok (Char.ofNat n :: text) := by
  have hlead : (UInt8.ofNat (n / 4096 % 16 + 224)).toNat = n / 4096 % 16 + 224 := by
    rw [UInt8.toNat_ofNat']
    omega
  have hsecond : isSecond (.ofNat (n / 4096 % 16 + 224)) (tailByte (n / 64)) = true := by
    apply isSecond_tailByte <;> omega
  have hpoint : ((n / 4096 % 16 + 224) % 16 * 64 + n / 64 % 64) * 64 + n % 64 = n := by omega
  rw [decodeFrom.eq_def]
  simp only [UInt8.lt_iff_toNat_lt, hlead, UInt8.reduceToNat, hsecond, isContinuation_tailByte, h,
    lowBits_tailByte, hpoint]
  rw [if_neg (by omega), if_neg (by omega), if_neg (by omega), if_pos (by omega)]
  rfl

theorem decodeFrom_four (hn : 0xFFFF < n) (hn' : n < 0x110000)
    (h : decodeFrom (offset + 4) bytes = .ok text) :
    decodeFrom offset (.ofNat (n / 262144 % 8 + 240) :: tailByte (n / 4096) :: tailByte (n / 64)
      :: tailByte n :: bytes) = .ok (Char.ofNat n :: text) := by
  have hlead : (UInt8.ofNat (n / 262144 % 8 + 240)).toNat = n / 262144 % 8 + 240 := by
    rw [UInt8.toNat_ofNat']
    omega
  have hsecond : isSecond (.ofNat (n / 262144 % 8 + 240)) (tailByte (n / 4096)) = true := by
    apply isSecond_tailByte <;> omega
  have hpoint : (((n / 262144 % 8 + 240) % 8 * 64 + n / 4096 % 64) * 64 + n / 64 % 64) * 64
      + n % 64 = n := by omega
  rw [decodeFrom.eq_def]
  simp only [UInt8.lt_iff_toNat_lt, hlead, UInt8.reduceToNat, hsecond, isContinuation_tailByte, h,
    lowBits_tailByte, hpoint]
  rw [if_neg (by omega), if_neg (by omega), if_neg (by omega), if_neg (by omega),
    if_pos (by omega)]
  rfl

/-- The bytes of a character are read as that character. -/
theorem decodeFrom_utf8EncodeChar (c : Char)
    (h : ∀ offset, decodeFrom offset bytes = .ok text) (offset : Nat) :
    decodeFrom offset (String.utf8EncodeChar c ++ bytes) = .ok (c :: text) := by
  have hvalid : c.toNat < 0xD800 ∨ 0xDFFF < c.toNat ∧ c.toNat < 0x110000 := c.valid
  have hbytes : String.utf8EncodeChar c =
      if c.toNat ≤ 0x7F then [.ofNat c.toNat]
      else if c.toNat ≤ 0x7FF then [.ofNat (c.toNat / 64 % 32 + 192), tailByte c.toNat]
      else if c.toNat ≤ 0xFFFF then
        [.ofNat (c.toNat / 4096 % 16 + 224), tailByte (c.toNat / 64), tailByte c.toNat]
      else
        [.ofNat (c.toNat / 262144 % 8 + 240), tailByte (c.toNat / 4096), tailByte (c.toNat / 64),
          tailByte c.toNat] := rfl
  suffices hread : decodeFrom offset (String.utf8EncodeChar c ++ bytes) =
      .ok (Char.ofNat c.toNat :: text) by rwa [Char.ofNat_toNat] at hread
  rw [hbytes]
  split_ifs with hone htwo hthree
  · exact decodeFrom_one hone (h _)
  · exact decodeFrom_two (by omega) htwo (h _)
  · exact decodeFrom_three (by omega) hthree (by omega) (h _)
  · have hbeyond : 0xFFFF < c.toNat := Nat.not_le.1 hthree
    exact decodeFrom_four hbeyond (by omega) (h _)

/-- Every text is read back from its bytes. -/
theorem decodeUtf8_encodeUtf8 (text : List Char) : decodeUtf8 (encodeUtf8 text) = .ok text := by
  suffices h : ∀ offset, decodeFrom offset (encodeUtf8 text) = .ok text from h 0
  induction text with
  | nil => exact fun offset => rfl
  | cons c text ih =>
      rw [encodeUtf8_cons]
      exact decodeFrom_utf8EncodeChar c ih

/-- The bytes of the mark that may stand in front of a text. -/
def byteOrderMark : List UInt8 := [0xEF, 0xBB, 0xBF]

/-- A byte-order mark is read as a character of its own. -/
theorem decodeUtf8_byteOrderMark (text : List Char) :
    decodeUtf8 (byteOrderMark ++ encodeUtf8 text) = .ok ('\ufeff' :: text) := by
  have hmark : byteOrderMark = String.utf8EncodeChar '\ufeff' := by decide
  rw [hmark, ← encodeUtf8_cons, decodeUtf8_encodeUtf8]

end ExtensionAtlas.Text
