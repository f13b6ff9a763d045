import ExtensionAtlas.Proofs.Text.Spelling
import ExtensionAtlas.Text.Numeral

/-! Plain texts and numerals, as they stand in printed sources. -/

namespace ExtensionAtlas.Text

/-- Whether a character can stand in a plain text. -/
def isPlainPart (c : Char) : Bool :=
  c.isAlphanum || c == ' ' || c == '.' || c == '-' || c == '_'

/-- A text of ASCII letters, digits, spaces, dots, hyphens and underscores that is not empty and has
no space at either end. -/
structure Plain where
  chars : List Char
  ne_nil : chars ≠ []
  parts : ∀ c ∈ chars, isPlainPart c = true
  head : ∀ c ∈ chars.head?, c ≠ ' '
  last : ∀ c ∈ chars.getLast?, c ≠ ' '

def Plain.text (p : Plain) : String := String.ofList p.chars

theorem isPlainPart_ascii {c : Char} (h : isPlainPart c = true) : c.toNat < 128 := by
  simp only [isPlainPart, Char.isAlphanum, Char.isAlpha, Char.isUpper, Char.isLower, Char.isDigit,
    Bool.or_eq_true, Bool.and_eq_true, decide_eq_true_eq, beq_iff_eq, ge_iff_le,
    UInt32.le_iff_toNat_le] at h
  change ((((((65 ≤ c.toNat ∧ c.toNat ≤ 90) ∨ (97 ≤ c.toNat ∧ c.toNat ≤ 122)) ∨
    (48 ≤ c.toNat ∧ c.toNat ≤ 57)) ∨ c = ' ') ∨ c = '.') ∨ c = '-') ∨ c = '_' at h
  rcases h with ((((h | h) | rfl) | rfl) | rfl) | rfl
  · omega
  · omega
  all_goals decide

/-- The only blank of a plain text is the space. -/
theorem isBlank_of_isPlainPart {c : Char} (h : isPlainPart c = true) (hc : c ≠ ' ') :
    isBlank c = false :=
  of_ascii (P := fun c => isPlainPart c = true → c ≠ ' ' → isBlank c = false) (by decide)
    (isPlainPart_ascii h) h hc

/-- The rest of a plain text, which may be empty but does not end with a space. -/
structure PlainTail (tail : List Char) : Prop where
  parts : ∀ c ∈ tail, isPlainPart c = true
  last : ∀ c ∈ tail.getLast?, c ≠ ' '

namespace PlainTail

variable {tail : List Char}

theorem of_append (front : List Char) (h : PlainTail (front ++ tail)) : PlainTail tail where
  parts c hc := h.parts c (List.mem_append_right front hc)
  last c hc := h.last c (List.mem_getLast?_append_of_mem_getLast? hc)

theorem of_cons {x : Char} (h : PlainTail (x :: tail)) : PlainTail tail :=
  h.of_append [x]

theorem not_mem (h : PlainTail tail) {mark : Char} (hmark : isPlainPart mark = false) :
    mark ∉ tail :=
  not_mem_of_forall h.parts hmark

/-- What is left of a plain text is not all blank. -/
theorem exists_not_blank (h : PlainTail tail) (hne : tail ≠ []) : ∃ c ∈ tail, isBlank c = false :=
  have hlast := List.getLast_mem hne
  ⟨tail.getLast hne, hlast, isBlank_of_isPlainPart (h.parts _ hlast)
    (h.last _ (List.getLast?_eq_some_getLast hne))⟩

end PlainTail

namespace Plain

variable (p : Plain)

theorem tail : PlainTail p.chars := ⟨p.parts, p.last⟩

theorem not_mem {mark : Char} (hmark : isPlainPart mark = false) : mark ∉ p.chars :=
  p.tail.not_mem hmark

theorem head_not_blank : ∀ c ∈ p.chars.head?, isBlank c = false :=
  fun c hc => isBlank_of_isPlainPart (p.parts c (List.mem_of_mem_head? hc)) (p.head c hc)

theorem trimmed : Trimmed p.chars where
  head := p.head_not_blank
  last c hc := isBlank_of_isPlainPart (p.parts c (List.mem_of_mem_getLast? hc)) (p.last c hc)

theorem strip_chars : strip p.chars = p.chars := strip_of_trimmed p.trimmed

theorem ascii : ∀ c ∈ p.chars, c.toNat < 128 := fun c hc => isPlainPart_ascii (p.parts c hc)

theorem lower_chars : lower p.chars = p.chars.map Char.toLower := lower_of_ascii p.ascii

/-- A class that holds every character but a few marks holds those of a plain text. -/
theorem all_of_marks {accepts : Char → Bool} (h : ∀ n < 128, isPlainPart (Char.ofNat n) = true →
    accepts (Char.ofNat n) = true) : ∀ c ∈ p.chars, accepts c = true :=
  fun c hc => of_ascii (P := fun c => isPlainPart c = true → accepts c = true) h
    (isPlainPart_ascii (p.parts c hc)) (p.parts c hc)

end Plain

/-- A decimal numeral that is short enough to be read; it may start with zeros. -/
structure Numeral where
  digits : List Char
  ne_nil : digits ≠ []
  decimal : ∀ c ∈ digits, c.isDigit = true
  short : digits.length ≤ 4300

namespace Numeral

def value (n : Numeral) : Nat := Nat.ofDigitChars 10 n.digits 0

variable (n : Numeral)

theorem digit_ascii {c : Char} (h : c.isDigit = true) : c.toNat < 128 := by
  have h9 := (Char.isDigit_iff_toNat.1 h).2
  have : '9'.toNat = 57 := rfl
  omega

theorem all_isDigit : ∀ c ∈ n.digits, isDigit c = true := by
  intro c hc
  rw [isDigit, if_pos (digit_ascii (n.decimal c hc))]
  exact n.decimal c hc

theorem not_mem {mark : Char} (hmark : mark.isDigit = false) : mark ∉ n.digits :=
  not_mem_of_forall n.decimal hmark

theorem not_blank : ∀ c ∈ n.digits, isBlank c = false := fun c hc =>
  of_ascii (P := fun c => c.isDigit = true → isBlank c = false) (by decide)
    (digit_ascii (n.decimal c hc)) (n.decimal c hc)

theorem readNumeral_digits : readNumeral n.digits = .ok n.value := by
  have hvalue : ∀ digits : List Char, (∀ c ∈ digits, c.isDigit = true) → ∀ value,
      digits.foldl (fun value c => value * 10 + digitValue c) value
        = Nat.ofDigitChars 10 digits value := by
    intro digits
    induction digits with
    | nil => exact fun _ _ => rfl
    | cons c digits ih =>
        intro hdigits value
        obtain ⟨hc, hdigits⟩ := List.forall_mem_cons.1 hdigits
        rw [List.foldl_cons, ih hdigits, Nat.ofDigitChars_cons, digitValue,
          if_pos (digit_ascii hc), Nat.mul_comm value 10]
        rfl
  have hshort : ¬n.digits.length > numeralLimit := Nat.not_lt.2 n.short
  rw [readNumeral, if_neg hshort, numeralValue, hvalue _ n.decimal, value]

end Numeral

end ExtensionAtlas.Text
