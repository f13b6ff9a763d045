import ExtensionAtlas.Proofs.Text.Spelling
import ExtensionAtlas.Proofs.Traversal

/-! The characters beyond ASCII that are read as letters of a keyword: the dotted capital I, the
dotless i and the long s. A keyword that is written with one of them is recognised, but lowering it
does not give the keyword. -/

namespace ExtensionAtlas.Text

def oddLetters : List Char := ['İ', 'ı', 'ſ']

theorem mem_of_caseRowFrom {rows : Array CaseRow} {point bits base : Nat} {row : CaseRow}
    (h : caseRowFrom rows point bits base = some row) : row ∈ rows.toList := by
  induction bits generalizing base with
  | zero =>
      rw [caseRowFrom] at h
      exact Array.mem_def.1 (Array.mem_of_getElem? h)
  | succ bits ih =>
      rw [caseRowFrom] at h
      split at h
      · split at h <;> exact ih h
      · exact ih h

/-- Two capitals beyond ASCII have small letters in ASCII, and none has a dotless i or a long s. -/
theorem caseRows_beyond_ascii : ∀ row ∈ caseRows.toList,
    (row.first = 0x130 ∧ row.last = 0x130) ∨
    (row.first = 0x212A ∧ row.last = 0x212A ∧ row.shift = -0x20BF) ∨
    (128 ≤ row.first + row.shift ∧
      (row.last + row.shift < 0x131 ∨ 0x131 < row.first + row.shift) ∧
      (row.last + row.shift < 0x17F ∨ 0x17F < row.first + row.shift)) := by
  decide +kernel

/-- The small letters of the capitals of a row are characters. -/
theorem caseRows_valid : ∀ row ∈ caseRows.toList, 0 ≤ row.first + row.shift ∧
    (row.last + row.shift < 0xD800 ∨
      (0xDFFF < row.first + row.shift ∧ row.last + row.shift < 0x110000)) := by
  decide +kernel

/-- A character beyond ASCII is its own small letter, or its row says where that is. -/
theorem lowerLetter_eq_or_row {c : Char} (hc : 128 ≤ c.toNat) : lowerLetter c = c ∨
    ∃ row ∈ caseRows.toList, row.first ≤ c.toNat ∧ c.toNat ≤ row.last ∧
      ((lowerLetter c).toNat : Int) = c.toNat + row.shift := by
  rw [lowerLetter, if_neg (Nat.not_lt.2 hc)]
  split
  · next row hrow =>
    split
    · next hin =>
      simp only [Bool.and_eq_true, decide_eq_true_eq] at hin
      obtain ⟨⟨hfirst, hlast⟩, -⟩ := hin
      have hmem := mem_of_caseRowFrom hrow
      obtain ⟨hnonneg, hrange⟩ := caseRows_valid row hmem
      have hvalid : (c.toNat + row.shift).toNat.isValidChar := by
        rcases hrange with hlow | hhigh
        · exact .inl (by omega)
        · exact .inr (by omega)
      have hpoint : (Char.ofNat (c.toNat + row.shift).toNat).toNat =
          (c.toNat + row.shift).toNat := by
        rw [Char.ofNat, dif_pos hvalid]
        rfl
      exact .inr ⟨row, hmem, hfirst, hlast, by omega⟩
    · exact .inl rfl
  · exact .inl rfl

/-- A small Latin letter but the k, a dotless i or a long s is the small letter of no other
character beyond ASCII than the dotted capital I. -/
theorem mem_oddLetters_of_lowerLetter {c small : Char} (hc : 128 ≤ c.toNat)
    (hsmall : (small.isLower = true ∧ small ≠ 'k') ∨ small = 'ı' ∨ small = 'ſ')
    (h : lowerLetter c = small) : c ∈ oddLetters := by
  have hpoint : (97 ≤ small.toNat ∧ small.toNat ≤ 122 ∧ small.toNat ≠ 107) ∨
      small.toNat = 0x131 ∨ small.toNat = 0x17F := by
    rcases hsmall with ⟨hlower, hk⟩ | rfl | rfl
    · have hne : small.toNat ≠ 107 := fun heq => hk (Char.toNat_inj.1 heq)
      have := isLower_iff_toNat.1 hlower
      omega
    · decide
    · decide
  rcases lowerLetter_eq_or_row hc with hself | ⟨row, hrow, hfirst, hlast, hshifted⟩
  · obtain rfl : c = small := hself.symm.trans h
    rcases hsmall with ⟨hlower, -⟩ | rfl | rfl
    · have := toNat_lt_of_isLower hlower
      omega
    · decide
    · decide
  · rw [h] at hshifted
    rcases caseRows_beyond_ascii row hrow with hrow | hrow | hrow
    · have hdotted : c = 'İ' := Char.toNat_inj.1 (show c.toNat = 0x130 by omega)
      rw [hdotted]
      decide
    · omega
    · omega

/-- Beyond ASCII only these characters are read as small Latin letters but the k. -/
theorem mem_oddLetters_of_agrees {wanted c : Char} (hwanted : wanted.isLower = true)
    (hk : wanted ≠ 'k') (hc : 128 ≤ c.toNat) (h : agreesUpToCase wanted c = true) :
    c ∈ oddLetters := by
  obtain ⟨hpaired, -, htwins⟩ := twinsOf_of_isLower hwanted
  rw [agreesUpToCase, if_pos hpaired, List.contains_iff_mem] at h
  refine mem_oddLetters_of_lowerLetter hc ?_ rfl
  rcases htwins _ h with heq | hodd
  · rw [heq]
    exact .inl ⟨hwanted, hk⟩
  · exact .inr hodd

/-- The odd letters are read as an i or an s, and as no other small Latin letter. -/
theorem not_agreesUpToCase_odd {wanted : Char} (hwanted : wanted.isLower = true)
    (hi : wanted ≠ 'i') (hs : wanted ≠ 's') : ∀ c ∈ oddLetters, agreesUpToCase wanted c = false :=
  of_ascii (P := fun wanted => wanted.isLower = true → wanted ≠ 'i' → wanted ≠ 's' →
    ∀ c ∈ oddLetters, agreesUpToCase wanted c = false) (by decide +kernel)
    (toNat_lt_of_isLower hwanted) hwanted hi hs

/-- What is read as a small Latin letter but the i, the k and the s is that letter in ASCII. -/
theorem agreesUpToCase_iff_toLower {wanted c : Char} (hwanted : wanted.isLower = true)
    (hi : wanted ≠ 'i') (hk : wanted ≠ 'k') (hs : wanted ≠ 's') :
    agreesUpToCase wanted c = true ↔ c.toLower = wanted := by
  constructor
  · intro h
    refine (agreesUpToCase_iff hwanted ?_).1 h
    by_contra hbeyond
    have hodd := mem_oddLetters_of_agrees hwanted hk (Nat.not_lt.1 hbeyond) h
    rw [not_agreesUpToCase_odd hwanted hi hs c hodd] at h
    cases h
  · intro h
    exact (agreesUpToCase_iff hwanted (toNat_lt_of_toLower h hwanted)).2 h

/-- What is read as a word without a k has Latin letters, or odd ones that are read as such. -/
theorem isAlpha_or_odd_of_agrees {word text : List Char} (hword : Small word)
    (hk : 'k' ∉ word) (h : Agrees word text) :
    ∀ c ∈ text, c.isAlpha = true ∨ c ∈ oddLetters := by
  intro c hc
  obtain ⟨wanted, hwanted, hagrees⟩ := exists_left_of_mem h hc
  have hsmall := hword wanted hwanted
  rcases Nat.lt_or_ge c.toNat 128 with hascii | hbeyond
  · exact .inl (isAlpha_of_toLower ((agreesUpToCase_iff hsmall hascii).1 hagrees) hsmall)
  · have hne : wanted ≠ 'k' := fun heq => hk (heq ▸ hwanted)
    exact .inr (mem_oddLetters_of_agrees hsmall hne hbeyond hagrees)

/-- However it is written, a word starts with a word character. -/
theorem exists_head_of_agrees {word text : List Char} (hword : Small word) (hk : 'k' ∉ word)
    (hne : word ≠ []) (h : Agrees word text) :
    ∃ x rest, text = x :: rest ∧ isWord x = true := by
  have hodd : ∀ c ∈ oddLetters, isWord c = true := by decide +kernel
  cases text with
  | nil => exact absurd (List.forall₂_nil_right_iff.1 h) hne
  | cons x rest =>
      exact ⟨x, rest, rfl, (isAlpha_or_odd_of_agrees hword hk h x List.mem_cons_self).elim
        isWord_of_isAlpha (hodd x)⟩

/-- Lowering such a character leaves a character beyond ASCII. -/
theorem exists_mem_lower {text : List Char} {c : Char} (hc : c ∈ text) (hodd : c ∈ oddLetters) :
    ∃ d ∈ lower text, 128 ≤ d.toNat := by
  have hdotless : lowerLetter 'ı' = 'ı' := by decide +kernel
  have hlong : lowerLetter 'ſ' = 'ſ' := by decide +kernel
  suffices hafter : ∀ before, ∃ d ∈ lowerAfter before text, 128 ≤ d.toNat from hafter []
  induction text with
  | nil => exact absurd hc List.not_mem_nil
  | cons x text ih =>
      intro before
      rcases List.mem_cons.1 hc with rfl | hc
      · simp only [oddLetters, List.mem_cons, List.not_mem_nil, or_false] at hodd
        rcases hodd with rfl | rfl | rfl
        · exact ⟨'\u0307', by simp [lowerAfter], by decide⟩
        · exact ⟨'ı', by simp [lowerAfter, hdotless], by decide⟩
        · exact ⟨'ſ', by simp [lowerAfter, hlong], by decide⟩
      · obtain ⟨d, hd, hbeyond⟩ := ih hc (x :: before)
        refine ⟨d, ?_, hbeyond⟩
        rw [lowerAfter]
        split
        · exact .tail _ hd
        · split
          · exact .tail _ (.tail _ hd)
          · exact .tail _ hd

/-! Marks that are no letters are read as they are. -/

/-- The small letter of a character beyond ASCII is a letter, or it is beyond ASCII as well. -/
theorem lowerLetter_beyond_ascii {c : Char} (hc : 128 ≤ c.toNat) :
    (lowerLetter c).isAlpha = true ∨ 128 ≤ (lowerLetter c).toNat := by
  rcases lowerLetter_eq_or_row hc with hself | ⟨row, hrow, hfirst, hlast, hshifted⟩
  · exact .inr (hself.symm ▸ hc)
  · rcases caseRows_beyond_ascii row hrow with hrow | hrow | hrow
    · have hdotted : c = 'İ' := Char.toNat_inj.1 (show c.toNat = 0x130 by omega)
      exact .inl (hdotted ▸ by decide +kernel)
    · have hkelvin : c = '\u212A' := Char.toNat_inj.1 (show c.toNat = 0x212A by omega)
      exact .inl (hkelvin ▸ by decide +kernel)
    · right
      omega

theorem twins_beyond_ascii : ∀ twins ∈ twinLetters, ∀ n ∈ twins,
    (Char.ofNat n).isAlpha = true ∨ 128 ≤ (Char.ofNat n).toNat := by
  decide +kernel

/-- A mark that is no letter counts as the same as itself only. -/
theorem agreesUpToCase_mark_iff {wanted mark : Char} (hascii : mark.toNat < 128)
    (hmark : mark.isAlpha = false) : agreesUpToCase wanted mark = true ↔ wanted = mark := by
  have hplain {c : Char} (h : c.isAlpha = true ∨ 128 ≤ c.toNat) : c ≠ mark := by
    rintro rfl
    rcases h with halpha | hbeyond
    · rw [hmark] at halpha
      cases halpha
    · omega
  have hself : lowerLetter mark = mark := by
    rw [lowerLetter, if_pos hascii]
    exact of_ascii (P := fun c => c.isAlpha = false → c.toLower = c) (by decide) hascii hmark
  have hsmall (hpaired : isPaired wanted = true) : lowerLetter wanted ≠ mark := by
    rcases Nat.lt_or_ge wanted.toNat 128 with hwanted | hwanted
    · rw [isPaired, if_pos hwanted] at hpaired
      rw [lowerLetter, if_pos hwanted]
      exact hplain (.inl (of_ascii (P := fun c => c.isAlpha = true → c.toLower.isAlpha = true)
        (by decide) hwanted hpaired))
    · exact hplain (lowerLetter_beyond_ascii hwanted)
  rw [agreesUpToCase]
  split
  · next hpaired =>
    rw [hself, List.contains_iff_mem, twinsOf]
    constructor
    · intro hmem
      split at hmem
      · next twins hfind =>
        obtain ⟨n, hn, hmark⟩ := List.mem_map.1 hmem
        have htwins := twins_beyond_ascii twins (List.mem_of_find?_eq_some hfind) n hn
        exact absurd hmark (hplain htwins)
      · exact absurd (List.mem_singleton.1 hmem).symm (hsmall hpaired)
    · rintro rfl
      exact absurd hself (hsmall hpaired)
  · rw [beq_iff_eq, eq_comm]

/-- A mark that is no letter is read only where it was wanted. -/
theorem mem_iff_of_agrees {word text : List Char} {mark : Char} (hascii : mark.toNat < 128)
    (hmark : mark.isAlpha = false) (h : Agrees word text) : mark ∈ text ↔ mark ∈ word := by
  constructor
  · intro hmem
    obtain ⟨wanted, hwanted, hagrees⟩ := exists_left_of_mem h hmem
    exact (agreesUpToCase_mark_iff hascii hmark).1 hagrees ▸ hwanted
  · intro hmem
    obtain ⟨c, hc, hagrees⟩ := exists_right_of_mem h hmem
    have hpaired : isPaired mark = false := by rw [isPaired, if_pos hascii, hmark]
    have heq : c = mark := by simpa [agreesUpToCase, hpaired] using hagrees
    exact heq ▸ hc

end ExtensionAtlas.Text
