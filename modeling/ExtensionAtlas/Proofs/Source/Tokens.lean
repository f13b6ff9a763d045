import ExtensionAtlas.Proofs.Pattern.Run
import ExtensionAtlas.Proofs.Source.Declarations
import ExtensionAtlas.Text.Digit
import ExtensionAtlas.Text.Name

/-! How patterns pass over the tokens of printed text: keywords, blanks, numerals and names in
quotes. -/

namespace ExtensionAtlas.Source

open Pattern
open Text (Numeral Plain Spelling isBlank)

/-- A text does not start with a blank. -/
def NoBlank (text : List Char) : Prop := ∀ x ∈ text.head?, isBlank x = false

theorem NoBlank.cons {x : Char} (hx : isBlank x = false) (rest : List Char) :
    NoBlank (x :: rest) := by
  rintro y ⟨⟩
  exact hx

theorem NoBlank.append {u : List Char} (hu : NoBlank u) (hne : u ≠ []) (rest : List Char) :
    NoBlank (u ++ rest) := by
  rw [NoBlank, List.head?_append_of_ne_nil _ hne]
  exact hu

theorem noBlank_plain (p : Plain) (rest : List Char) : NoBlank (p.chars ++ rest) :=
  NoBlank.append p.head_not_blank p.ne_nil rest

theorem noBlank_numeral (n : Numeral) (rest : List Char) : NoBlank (n.digits ++ rest) :=
  NoBlank.append (fun _ hx => n.not_blank _ (List.mem_of_mem_head? hx)) n.ne_nil rest

theorem noBlank_spelling {keyword : String} (hsmall : Text.Small keyword.toList)
    (hne : keyword.toList ≠ []) (s : Spelling keyword) (rest : List Char) :
    NoBlank (s.letters ++ rest) :=
  NoBlank.append (fun _ hx =>
    Text.isBlank_of_isAlpha (s.isAlpha hsmall (List.mem_of_mem_head? hx))) (s.ne_nil hne) rest

/-! Characters that are no blanks. -/

/-- The code points of the blanks. -/
def blankPoints : List Nat :=
  [9, 10, 11, 12, 13, 28, 29, 30, 31, 32, 0x85, 0xA0, 0x1680, 0x2000, 0x2001, 0x2002, 0x2003,
    0x2004, 0x2005, 0x2006, 0x2007, 0x2008, 0x2009, 0x200A, 0x2028, 0x2029, 0x202F, 0x205F, 0x3000]

theorem of_blank {P : Char → Prop} (h : ∀ n ∈ blankPoints, P (Char.ofNat n)) {c : Char}
    (hc : isBlank c = true) : P c := by
  have hpoint : c.toNat ∈ blankPoints := by
    simp only [isBlank, Bool.or_eq_true, Bool.and_eq_true, decide_eq_true_eq, beq_iff_eq] at hc
    simp only [blankPoints, List.mem_cons, List.not_mem_nil, or_false]
    omega
  exact Char.ofNat_toNat c ▸ h c.toNat hpoint

/-- A row of characters without blanks. -/
def Solid (text : List Char) : Prop := ∀ c ∈ text, isBlank c = false

theorem isBlank_of_accepts {accepts : Char → Bool}
    (haccepts : ∀ n ∈ blankPoints, accepts (Char.ofNat n) = false) {c : Char}
    (h : accepts c = true) : isBlank c = false := by
  by_contra hblank
  rw [Bool.not_eq_false] at hblank
  have hno : accepts c = false := of_blank (P := fun c => accepts c = false) haccepts hblank
  rw [h] at hno
  cases hno

theorem solid_of_forall {accepts : Char → Bool}
    (haccepts : ∀ n ∈ blankPoints, accepts (Char.ofNat n) = false) {text : List Char}
    (h : ∀ c ∈ text, accepts c = true) : Solid text :=
  fun c hc => isBlank_of_accepts haccepts (h c hc)

theorem Solid.not_mem {text : List Char} (h : Solid text) {blank : Char}
    (hblank : isBlank blank = true) : blank ∉ text := by
  intro hmem
  rw [h blank hmem] at hblank
  cases hblank

theorem solid_of_isNamePart {text : List Char} (h : ∀ c ∈ text, Text.isNamePart c = true) :
    Solid text :=
  solid_of_forall (by decide +kernel) h

theorem solid_of_isDigit {text : List Char} (h : ∀ c ∈ text, Text.isDigit c = true) : Solid text :=
  solid_of_forall (by decide +kernel) h

/-- Behind the blanks at the start of a line a word can start. -/
theorem not_isWord_last_indent (front : List Char) :
    ∀ y ∈ (front ++ indent).getLast?, Text.isWord y = false :=
  Text.last_append_of_forall front (by decide) (by decide)

namespace Modifier

variable (m : Modifier)

theorem small_keyword : Text.Small m.keyword.toList := by
  cases m with
  | localOnly _ => exact (by decide : Text.Small "local".toList)
  | internalOnly _ => exact (by decide : Text.Small "internal".toList)

theorem keyword_ne_nil : m.keyword.toList ≠ [] := by
  cases m with
  | localOnly _ => exact (by decide : "local".toList ≠ [])
  | internalOnly _ => exact (by decide : "internal".toList ≠ [])

theorem not_mem_letters {mark : Char} (hmark : mark.isAlpha = false) : mark ∉ m.letters :=
  m.spelling.not_mem m.small_keyword hmark

end Modifier

section

variable {σ β : Type} {front rest : List Char} {captures : Captures σ}
  {k : Cursor → Captures σ → Option β} {good : β → Prop}

theorem run_word {keyword : String} (hsmall : Text.Small keyword.toList) (s : Spelling keyword) :
    (word keyword).run (.between front (s.letters ++ rest)) captures k
      = k (.between (front ++ s.letters) rest) captures :=
  run_letters (s.agrees hsmall)

/-- A keyword starts at the edge of a word, unless a word character is in front of it. -/
theorem run_wordEdge_word {keyword : String} (hsmall : Text.Small keyword.toList)
    (hne : keyword.toList ≠ []) (s : Spelling keyword)
    (hfront : ∀ y ∈ front.getLast?, Text.isWord y = false) :
    (wordEdge : Pattern σ).run (.between front (s.letters ++ rest)) captures k
      = k (.between front (s.letters ++ rest)) captures := by
  obtain ⟨x, letters, hletters⟩ := List.exists_cons_of_ne_nil (s.ne_nil hne)
  have hx : Text.isWord x = true :=
    Text.isWord_of_isAlpha (s.isAlpha hsmall (hletters ▸ List.mem_cons_self))
  rw [hletters, List.cons_append]
  exact run_wordEdge hfront hx

/-- No other keyword is read where one stands in front of a mark, if what follows starts with a
mark as well. -/
theorem run_word_eq_none {keyword keyword' : String} (hsmall : Text.Small keyword.toList)
    (hsmall' : Text.Small keyword'.toList) (hne : keyword' ≠ keyword) (s : Spelling keyword)
    {mark : Char} (hascii : mark.toNat < 128) (hmark : mark.isAlpha = false)
    (hk : ∀ front text captures, k (.between front text) captures ≠ none →
      ∃ x rest, text = x :: rest ∧ x.isAlpha = false) :
    (word keyword').run (.between front (s.letters ++ mark :: rest)) captures k = none := by
  apply run_eq_none
  intro stretch rest' captures' htext hd
  by_contra hsome
  obtain ⟨x, rest'', rfl, hx⟩ := hk _ _ _ hsome
  exact hne (String.toList_inj.1
    (Text.word_inj hsmall' (describes_letters.1 hd) hx hsmall s.spells hascii hmark htext.symm).1)

/-- Of several keywords the one that stands in front of a mark is read. -/
theorem run_keyword {words : List String} (hsmall : ∀ w ∈ words, Text.Small w.toList)
    {keyword : String} (hmem : keyword ∈ words) (s : Spelling keyword) {mark : Char}
    (hascii : mark.toNat < 128) (hmark : mark.isAlpha = false)
    (hfails : ∀ front text captures, k (.between front text) captures ≠ none →
      ∃ x rest, text = x :: rest ∧ x.isAlpha = false)
    (hk : ∃ r ∈ k (.between (front ++ s.letters) (mark :: rest)) captures, good r) :
    ∃ r ∈ (oneOf (words.map word)).run (.between front (s.letters ++ mark :: rest)) captures k,
      good r := by
  have hown : ∃ r ∈ (word keyword).run (.between front (s.letters ++ mark :: rest)) captures k,
      good r := by
    rwa [run_word (hsmall keyword hmem)]
  apply run_oneOf
  · intro p hp
    obtain ⟨w, hw, rfl⟩ := List.mem_map.1 hp
    by_cases heq : w = keyword
    · subst heq
      exact Or.inr hown
    · exact Or.inl (run_word_eq_none (hsmall keyword hmem) (hsmall w hw) heq s hascii hmark hfails)
  · exact ⟨_, List.mem_map_of_mem hmem, hown⟩

theorem run_blanks_nil (h : NoBlank rest) (hk : ∃ r ∈ k (.between front rest) captures, good r) :
    ∃ r ∈ blanks.run (.between front rest) captures k, good r :=
  run_most_nil h hk

theorem run_blanks_space (h : NoBlank rest)
    (hk : ∃ r ∈ k (.between (front ++ [' ']) rest) captures, good r) :
    ∃ r ∈ blanks.run (.between front (' ' :: rest)) captures k, good r :=
  run_most (u := [' ']) (by decide) h hk

theorem run_someBlanks_space (h : NoBlank rest)
    (hk : ∃ r ∈ k (.between (front ++ [' ']) rest) captures, good r) :
    ∃ r ∈ someBlanks.run (.between front (' ' :: rest)) captures k, good r :=
  run_someMost (u := [' ']) (by decide) (by decide) h hk

theorem run_digits (n : Numeral) (h : ∀ x ∈ rest.head?, Text.isDigit x = false)
    (hk : ∃ r ∈ k (.between (front ++ n.digits) rest) captures, good r) :
    ∃ r ∈ (someMost Text.isDigit).run (.between front (n.digits ++ rest)) captures k, good r :=
  run_someMost n.ne_nil n.all_isDigit h hk

/-- A name in quotes is captured without them. -/
theorem run_quotedName {slot : σ} (p : Plain)
    (hk : ∀ stretch : Stretch, stretch.chars = p.chars →
      ∃ r ∈ k (.between (front ++ quote p) rest) ((slot, stretch) :: captures), good r) :
    ∃ r ∈ (quotedName slot).run (.between front (quote p ++ rest)) captures k, good r := by
  have hquotable : ∀ c ∈ p.chars, Text.isQuotable c = true := p.all_of_marks (by decide)
  have htext : quote p ++ rest = '\x22' :: (p.chars ++ '\x22' :: rest) := by simp [quote]
  have hfront : front ++ ['\x22'] ++ p.chars ++ ['\x22'] = front ++ quote p := by simp [quote]
  rw [quotedName, htext, run_cons, run_char, run_cons, run_capture]
  apply run_someMost p.ne_nil hquotable (by rintro x ⟨⟩; decide)
  rw [run_cons, run_char, run_nil, hfront]
  exact hk _ (Stretch.chars_between _ _ _)

/-- A name between double quotes on one line, or an identifier. -/
def IsName (text : List Char) : Prop :=
  (∃ quoted, text = '\x22' :: (quoted ++ ['\x22']) ∧ ∀ c ∈ quoted, Text.isQuotable c = true) ∨
    text ≠ [] ∧ ∀ c ∈ text, Text.isNamePart c = true

theorem isName_of_describes {slot : σ} {stretch : List Char}
    (h : (name slot).Describes front stretch rest) : IsName stretch := by
  rcases h with ⟨_, _, rfl, hopen, quoted, _, rfl, hquoted, _, _, rfl, hclose, rfl⟩ |
    ⟨_, bare, rfl, ⟨x, rfl, hx⟩, hbare⟩
  · obtain rfl := describes_char.1 hopen
    obtain rfl := describes_char.1 hclose
    exact .inl ⟨quoted, rfl, (describes_someMost.1 hquoted).2⟩
  · refine .inr ⟨List.cons_ne_nil _ _, ?_⟩
    rintro c (_ | ⟨_, hc⟩)
    · rw [Text.isNamePart, hx, Bool.true_or]
    · exact hbare c hc

theorem run_name {slot : σ} (p : Plain)
    (hk : ∀ stretch : Stretch, stretch.chars = p.chars →
      ∃ r ∈ k (.between (front ++ quote p) rest) ((slot, stretch) :: captures), good r) :
    ∃ r ∈ (Pattern.name slot).run (.between front (quote p ++ rest)) captures k, good r :=
  run_either_left (run_quotedName p hk)

end

end ExtensionAtlas.Source
