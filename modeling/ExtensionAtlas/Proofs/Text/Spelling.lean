import Mathlib
import ExtensionAtlas.Proofs.Text.Occurrence
import ExtensionAtlas.Proofs.Text.Trimming
import ExtensionAtlas.Text.Case
import ExtensionAtlas.Text.Word

/-! Keywords of Latin letters in any mixture of small and capital letters. Beyond ASCII some
characters agree with a Latin letter as well, so texts are compared where they are known to be
ASCII. -/

namespace ExtensionAtlas.Text

/-- What holds at the code points of ASCII holds of its characters. -/
theorem of_ascii {P : Char → Prop} (h : ∀ n < 128, P (Char.ofNat n)) {c : Char}
    (hc : c.toNat < 128) : P c :=
  Char.ofNat_toNat c ▸ h c.toNat hc

theorem isAlpha_ascii {c : Char} (h : c.isAlpha = true) : c.toNat < 128 := by
  simp only [Char.isAlpha, Char.isUpper, Char.isLower, Bool.or_eq_true, Bool.and_eq_true,
    decide_eq_true_eq, ge_iff_le, UInt32.le_iff_toNat_le] at h
  change (65 ≤ c.toNat ∧ c.toNat ≤ 90) ∨ (97 ≤ c.toNat ∧ c.toNat ≤ 122) at h
  omega

theorem isBlank_of_isAlpha {c : Char} (h : c.isAlpha = true) : isBlank c = false :=
  of_ascii (P := fun c => c.isAlpha = true → isBlank c = false) (by decide) (isAlpha_ascii h) h

theorem isAlpha_of_isBlank {c : Char} (h : isBlank c = true) : c.isAlpha = false := by
  rw [Bool.eq_false_iff]
  intro halpha
  rw [isBlank_of_isAlpha halpha] at h
  cases h

/-- In front of a letter there are no blanks. -/
theorem eq_nil_of_blanks {gap rest text : List Char} {x : Char}
    (hgap : ∀ c ∈ gap, isBlank c = true) (hx : x.isAlpha = true) (heq : gap ++ rest = x :: text) :
    gap = [] := by
  cases gap with
  | nil => rfl
  | cons y gap =>
      obtain ⟨rfl, -⟩ := List.cons.inj heq
      have hblank := hgap y List.mem_cons_self
      rw [isBlank_of_isAlpha hx] at hblank
      cases hblank

theorem isWord_of_isAlpha {c : Char} (h : c.isAlpha = true) : isWord c = true :=
  of_ascii (P := fun c => c.isAlpha = true → isWord c = true) (by decide) (isAlpha_ascii h) h

/-- Whether a word is made of small Latin letters. -/
def Small (word : List Char) : Prop := ∀ wanted ∈ word, wanted.isLower = true

instance (word : List Char) : Decidable (Small word) :=
  inferInstanceAs (Decidable (∀ wanted ∈ word, wanted.isLower = true))

theorem isLower_iff_toNat {c : Char} : c.isLower = true ↔ 97 ≤ c.toNat ∧ c.toNat ≤ 122 := by
  rw [Char.isLower, Bool.and_eq_true, decide_eq_true_eq, decide_eq_true_eq]
  exact and_congr UInt32.le_iff_toNat_le UInt32.le_iff_toNat_le

theorem toNat_lt_of_isLower {c : Char} (h : c.isLower = true) : c.toNat < 128 := by
  have := (isLower_iff_toNat.1 h).2
  omega

theorem toNat_lt_of_toLower {c wanted : Char} (h : c.toLower = wanted)
    (hwanted : wanted.isLower = true) : c.toNat < 128 := by
  rw [Char.toLower] at h
  split at h
  next hupper =>
    have hle : c.val.toNat ≤ 90 := UInt32.le_iff_toNat_le.1 hupper.2
    rw [Char.toNat_val] at hle
    omega
  next =>
    subst h
    exact toNat_lt_of_isLower hwanted

/-- The letters that count as the same letter as a small Latin one. -/
theorem twinsOf_of_isLower {wanted : Char} (h : wanted.isLower = true) :
    isPaired wanted = true ∧ wanted ∈ twinsOf (lowerLetter wanted) ∧
      ∀ twin ∈ twinsOf (lowerLetter wanted), twin = wanted ∨ twin = 'ı' ∨ twin = 'ſ' := by
  refine of_ascii (P := fun c => c.isLower = true → isPaired c = true ∧ c ∈ twinsOf (lowerLetter c)
    ∧ ∀ twin ∈ twinsOf (lowerLetter c), twin = c ∨ twin = 'ı' ∨ twin = 'ſ') ?_
    (toNat_lt_of_isLower h) h
  decide +kernel

/-- In ASCII, two letters agree up to case if one is the small letter of the other. -/
theorem agreesUpToCase_iff {wanted c : Char} (hwanted : wanted.isLower = true)
    (hc : c.toNat < 128) : agreesUpToCase wanted c = true ↔ c.toLower = wanted := by
  obtain ⟨hpaired, hself, htwins⟩ := twinsOf_of_isLower hwanted
  have hlower : lowerLetter c = c.toLower := if_pos hc
  have hascii : c.toLower.toNat < 128 :=
    of_ascii (P := fun c => c.toLower.toNat < 128) (by decide) hc
  rw [agreesUpToCase, if_pos hpaired, hlower, List.contains_iff_mem]
  constructor
  · intro hmem
    rcases htwins _ hmem with heq | hodd | hodd
    · exact heq
    · rw [hodd] at hascii
      exact absurd hascii (by decide)
    · rw [hodd] at hascii
      exact absurd hascii (by decide)
  · rintro rfl
    exact hself

theorem isAlpha_of_toLower {c wanted : Char} (h : c.toLower = wanted)
    (hwanted : wanted.isLower = true) : c.isAlpha = true := by
  subst h
  exact of_ascii (P := fun c => c.toLower.isLower = true → c.isAlpha = true) (by decide)
    (toNat_lt_of_toLower rfl hwanted) hwanted

/-- A text is a spelling of a word, letter by letter. -/
def Agrees (word text : List Char) : Prop :=
  List.Forall₂ (fun wanted c => agreesUpToCase wanted c = true) word text

/-- A spelling starts with one of each start of the word. -/
theorem Agrees.exists_start {word more text : List Char} (h : Agrees (word ++ more) text) :
    ∃ start tail, text = start ++ tail ∧ Agrees word start :=
  ⟨_, _, (List.take_append_drop word.length text).symm,
    (List.forall₂_take_append text word more h.flip).flip⟩

theorem agrees_of_map_toLower {word text : List Char} (hword : Small word)
    (h : text.map Char.toLower = word) : Agrees word text := by
  subst h
  induction text with
  | nil => exact .nil
  | cons c text ih =>
      obtain ⟨hc, htext⟩ := List.forall_mem_cons.1 hword
      exact .cons ((agreesUpToCase_iff hc (toNat_lt_of_toLower rfl hc)).2 rfl) (ih htext)

theorem map_toLower_of_agrees {word text : List Char} (hword : Small word)
    (hascii : ∀ c ∈ text, c.toNat < 128) (h : Agrees word text) :
    text.map Char.toLower = word := by
  induction h with
  | nil => rfl
  | cons hc _ ih =>
      obtain ⟨hwanted, hword⟩ := List.forall_mem_cons.1 hword
      obtain ⟨hlt, hascii⟩ := List.forall_mem_cons.1 hascii
      rw [List.map_cons, ih hword hascii, (agreesUpToCase_iff hwanted hlt).1 hc]

private theorem lowered_ofNat : ∀ n < 128, isPaired (Char.ofNat n).toLower = isPaired (Char.ofNat n)
    ∧ lowerLetter (Char.ofNat n).toLower = lowerLetter (Char.ofNat n)
    ∧ (isPaired (Char.ofNat n) = true ↔ (Char.ofNat n).toLower.isLower = true)
    ∧ (isPaired (Char.ofNat n) = false → (Char.ofNat n).toLower = Char.ofNat n) := by
  decide

/-- Whether a letter of ASCII is wanted as a capital makes no difference. -/
theorem agreesUpToCase_toLower {wanted : Char} (hwanted : wanted.toNat < 128) (c : Char) :
    agreesUpToCase wanted.toLower c = agreesUpToCase wanted c := by
  obtain ⟨hpaired, hlowered, -, hsame⟩ :=
    Char.ofNat_toNat wanted ▸ lowered_ofNat wanted.toNat hwanted
  cases hletter : isPaired wanted with
  | true =>
      rw [agreesUpToCase, agreesUpToCase, hpaired, hlowered, hletter]
      rfl
  | false => rw [hsame hletter]

/-- In ASCII, characters agree up to case if they have the same small letter. -/
theorem agreesUpToCase_ascii_iff {wanted c : Char} (hwanted : wanted.toNat < 128)
    (hc : c.toNat < 128) : agreesUpToCase wanted c = true ↔ c.toLower = wanted.toLower := by
  obtain ⟨-, -, hsmall, hsame⟩ := Char.ofNat_toNat wanted ▸ lowered_ofNat wanted.toNat hwanted
  cases hletter : isPaired wanted with
  | true => rw [← agreesUpToCase_toLower hwanted, agreesUpToCase_iff (hsmall.1 hletter) hc]
  | false =>
      have hexact : agreesUpToCase wanted c = (c == wanted) := by
        rw [agreesUpToCase, hletter]
        rfl
      rw [hexact, beq_iff_eq, hsame hletter]
      constructor
      · rintro rfl
        exact hsame hletter
      · intro hlower
        obtain ⟨hpaired', -, -, hsame'⟩ := Char.ofNat_toNat c ▸ lowered_ofNat c.toNat hc
        rw [hlower, hletter] at hpaired'
        rw [← hlower, hsame' hpaired'.symm]

/-- A word in ASCII is spelled like the same word in small letters. -/
theorem agrees_map_toLower_iff {word text : List Char} (hword : ∀ c ∈ word, c.toNat < 128) :
    Agrees (word.map Char.toLower) text ↔ Agrees word text := by
  induction word generalizing text with
  | nil => rfl
  | cons wanted word ih =>
      obtain ⟨hwanted, hword⟩ := List.forall_mem_cons.1 hword
      cases text with
      | nil => simp [Agrees]
      | cons c text =>
          rw [Agrees, List.map_cons, List.forall₂_cons, Agrees, List.forall₂_cons,
            agreesUpToCase_toLower hwanted]
          exact and_congr_right' (ih hword)

theorem agrees_ascii_iff {word text : List Char} (hword : ∀ c ∈ word, c.toNat < 128)
    (htext : ∀ c ∈ text, c.toNat < 128) :
    Agrees word text ↔ text.map Char.toLower = word.map Char.toLower := by
  induction word generalizing text with
  | nil => simp [Agrees]
  | cons wanted word ih =>
      obtain ⟨hwanted, hword⟩ := List.forall_mem_cons.1 hword
      cases text with
      | nil => simp [Agrees]
      | cons c text =>
          obtain ⟨hc, htext⟩ := List.forall_mem_cons.1 htext
          rw [Agrees, List.forall₂_cons, List.map_cons, List.map_cons, List.cons.injEq,
            agreesUpToCase_ascii_iff hwanted hc]
          exact and_congr_right' (ih hword htext)

/-- Whether a text stands in another one, letter case aside. -/
def StandsIn (part whole : List Char) : Prop :=
  part.map Char.toLower <:+: whole.map Char.toLower

instance (part whole : List Char) : Decidable (StandsIn part whole) :=
  inferInstanceAs (Decidable (part.map Char.toLower <:+: whole.map Char.toLower))

theorem standsIn_iff {part whole : List Char} (hpart : ∀ c ∈ part, c.toNat < 128)
    (hwhole : ∀ c ∈ whole, c.toNat < 128) : StandsIn part whole ↔
      ∃ front text back, whole = front ++ (text ++ back) ∧ Agrees part text := by
  constructor
  · rintro ⟨front, back, heq⟩
    rw [List.append_assoc] at heq
    obtain ⟨front, behind, rfl, -, hbehind⟩ := List.map_eq_append_iff.1 heq.symm
    obtain ⟨text, back, rfl, htext, -⟩ := List.map_eq_append_iff.1 hbehind
    refine ⟨front, text, back, rfl, (agrees_ascii_iff hpart fun c hc => hwhole c ?_).2 htext⟩
    simp [hc]
  · rintro ⟨front, text, back, rfl, hagrees⟩
    have htext := (agrees_ascii_iff hpart fun c hc => hwhole c (by simp [hc])).1 hagrees
    refine ⟨front.map Char.toLower, back.map Char.toLower, ?_⟩
    rw [← htext, List.map_append, List.map_append, List.append_assoc]

/-- Only letters agree with the letters of a word. -/
theorem not_mem_of_agrees {word text : List Char} (hword : Small word) (h : Agrees word text)
    {mark : Char} (hascii : mark.toNat < 128) (hmark : mark.isAlpha = false) : mark ∉ text := by
  induction h with
  | nil => exact List.not_mem_nil
  | cons hc _ ih =>
      obtain ⟨hwanted, hword⟩ := List.forall_mem_cons.1 hword
      rw [List.mem_cons, not_or]
      refine ⟨?_, ih hword⟩
      rintro rfl
      rw [isAlpha_of_toLower ((agreesUpToCase_iff hwanted hascii).1 hc) hwanted] at hmark
      cases hmark

/-- A text that starts with a mark starts with no word. -/
theorem cons_ne_append_of_agrees {word text : List Char} (hword : Small word) (hne : word ≠ [])
    (h : Agrees word text) {x : Char} (hascii : x.toNat < 128) (hx : x.isAlpha = false)
    (t rest : List Char) : x :: t ≠ text ++ rest := by
  intro heq
  cases text with
  | nil => exact hne (List.forall₂_nil_right_iff.1 h)
  | cons y text =>
      rw [List.cons_append, List.cons.injEq] at heq
      exact not_mem_of_agrees hword h hascii hx (heq.1 ▸ List.mem_cons_self)

/-- A word that stands in front of a mark is known from the text, and so is what is around it. -/
theorem word_inj {word word' text text' back back' : List Char} {mark mark' : Char}
    (hword : Small word) (h : Agrees word text) (hmark : mark.isAlpha = false)
    (hword' : Small word') (h' : text'.map Char.toLower = word') (hascii' : mark'.toNat < 128)
    (hmark' : mark'.isAlpha = false) (heq : text ++ mark :: back = text' ++ mark' :: back') :
    word = word' ∧ text = text' ∧ back = back' := by
  have hletter : ∀ c ∈ text', c.isAlpha = true := fun c hc =>
    isAlpha_of_toLower rfl (hword' c.toLower (h' ▸ List.mem_map_of_mem hc))
  obtain ⟨rfl, -, rfl⟩ := append_marks_inj (not_mem_of_agrees hword h hascii' hmark')
    (not_mem_of_forall hletter hmark) heq
  refine ⟨?_, rfl, rfl⟩
  rw [← h', map_toLower_of_agrees hword (fun c hc => isAlpha_ascii (hletter c hc)) h]

/-- Text of ASCII is lowered character by character. -/
theorem lower_of_ascii {text : List Char} (h : ∀ c ∈ text, c.toNat < 128) :
    lower text = text.map Char.toLower := by
  suffices hafter : ∀ before, lowerAfter before text = text.map Char.toLower from hafter []
  induction text with
  | nil => exact fun _ => rfl
  | cons c text ih =>
      intro before
      obtain ⟨hc, htext⟩ := List.forall_mem_cons.1 h
      have hsigma : (c == 'Σ') = false := of_ascii (P := fun c => (c == 'Σ') = false) (by decide) hc
      have hdotted : (c == 'İ') = false :=
        of_ascii (P := fun c => (c == 'İ') = false) (by decide) hc
      rw [lowerAfter, hsigma, hdotted, ih htext]
      simp [lowerLetter, hc]

/-- A keyword in any mixture of small and capital letters. -/
structure Spelling (keyword : String) where
  letters : List Char
  spells : letters.map Char.toLower = keyword.toList

namespace Spelling

variable {keyword : String} (s : Spelling keyword)

theorem isAlpha (hkeyword : Small keyword.toList) {c : Char} (hc : c ∈ s.letters) :
    c.isAlpha = true :=
  isAlpha_of_toLower rfl (hkeyword _ (s.spells ▸ List.mem_map_of_mem hc))

theorem agrees (hkeyword : Small keyword.toList) : Agrees keyword.toList s.letters :=
  agrees_of_map_toLower hkeyword s.spells

theorem not_mem (hkeyword : Small keyword.toList) {mark : Char} (hmark : mark.isAlpha = false) :
    mark ∉ s.letters :=
  not_mem_of_forall (fun _ hc => s.isAlpha hkeyword hc) hmark

theorem lower_letters (hkeyword : Small keyword.toList) : lower s.letters = keyword.toList := by
  rw [lower_of_ascii fun c hc => isAlpha_ascii (s.isAlpha hkeyword hc), s.spells]

theorem ne_nil (hne : keyword.toList ≠ []) : s.letters ≠ [] := by
  intro h
  rw [← s.spells, h] at hne
  exact hne rfl

end Spelling

end ExtensionAtlas.Text
