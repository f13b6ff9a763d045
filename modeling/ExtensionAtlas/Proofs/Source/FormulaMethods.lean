import ExtensionAtlas.Proofs.Source.WrittenNames
import ExtensionAtlas.Proofs.Text.Spelling

/-! The method of a formula. It is decided by the letters that the formula starts with. An
identifier may go on behind its letters with digits and underscores, which do not count, so `Sum2`
names the same method as `Sum`. -/

namespace ExtensionAtlas.Source

open Formula (isNamePart)
open Text (isBlank)

/-- Behind blanks a formula starts with a word of characters of a class, and no such character is at
the start of the rest. -/
structure StartsWith (inside : Char → Bool) (formula word rest : List Char) : Prop where
  behind_blanks : ∃ gap, formula = gap ++ (word ++ rest) ∧ ∀ c ∈ gap, isBlank c = true
  all_inside : ∀ c ∈ word, inside c = true
  ends : ∀ c ∈ rest.head?, inside c = false

/-- A formula starts with the letters of a word. -/
def LeadingLetters (formula word : List Char) : Prop :=
  ∃ rest, StartsWith Char.isAlpha formula word rest

/-- A formula starts with an identifier. -/
def LeadingToken (formula token : List Char) : Prop :=
  formulaNames.IsIdentifier token ∧ ∃ rest, StartsWith isNamePart formula token rest

/-- A word is the name of a method, letter case aside. -/
def Spells (method : CalcMethod) (word : List Char) : Prop :=
  method ∈ CalcMethod.named ∧ word.map Char.toLower = method.label.toList.map Char.toLower

/-- The method of a formula that is named by a word at its start; it is unknown if there is no such
word. -/
inductive IsMethod (Leads : (formula word : List Char) → Prop) (formula : List Char) :
    CalcMethod → Prop where
  | named {method : CalcMethod} {word : List Char} (leads : Leads formula word)
      (spells : Spells method word) : IsMethod Leads formula method
  | unknown (none_spells : ∀ word method, Leads formula word → ¬Spells method word) :
      IsMethod Leads formula .unknown

namespace Spells

variable {method method' : CalcMethod} {word : List Char}

theorem isAlpha (h : Spells method word) : ∀ c ∈ word, c.isAlpha = true := by
  have hlabels : ∀ method ∈ CalcMethod.named,
      Text.Small (method.label.toList.map Char.toLower) := by
    decide
  intro c hc
  exact Text.isAlpha_of_toLower rfl (hlabels method h.1 _ (h.2 ▸ List.mem_map_of_mem hc))

theorem ne_nil (h : Spells method word) : word ≠ [] := by
  have hlabels : ∀ method ∈ CalcMethod.named, method.label.toList.map Char.toLower ≠ [] := by
    decide
  rintro rfl
  exact hlabels method h.1 h.2.symm

theorem find? (h : Spells method word) : (CalcMethod.named.find? fun method =>
    method.label.toList.map Char.toLower == word.map Char.toLower) = some method := by
  have hlabels : ∀ method ∈ CalcMethod.named, CalcMethod.named.find? (fun found =>
      found.label.toList.map Char.toLower == method.label.toList.map Char.toLower)
        = some method := by
    decide
  rw [h.2]
  exact hlabels method h.1

theorem ne_unknown (h : Spells method word) : method ≠ .unknown := by
  rintro rfl
  exact absurd h.1 (by decide)

end Spells

/-- The letters at the start of a formula are known from it, if there are any. -/
theorem StartsWith.eq_takeWhile {formula word rest : List Char}
    (h : StartsWith Char.isAlpha formula word rest) (hne : word ≠ []) :
    word = (formula.dropWhile isBlank).takeWhile Char.isAlpha ∧
      rest = (formula.dropWhile isBlank).dropWhile Char.isAlpha := by
  obtain ⟨⟨gap, rfl, hgap⟩, hall, hends⟩ := h
  have hword : (word ++ rest).dropWhile isBlank = word ++ rest := by
    refine Text.dropWhile_eq_self_of_head fun c hc => ?_
    rw [List.head?_append_of_ne_nil _ hne] at hc
    exact Text.isBlank_of_isAlpha (hall c (List.mem_of_mem_head? hc))
  have hrest : rest.dropWhile Char.isAlpha = rest := Text.dropWhile_eq_self_of_head hends
  have htake : rest.takeWhile Char.isAlpha = [] := by
    simpa [hrest] using List.takeWhile_append_dropWhile (p := Char.isAlpha) (l := rest)
  rw [List.dropWhile_append_of_pos hgap, hword, List.takeWhile_append_of_pos hall,
    List.dropWhile_append_of_pos hall, hrest, htake, List.append_nil]
  exact ⟨rfl, rfl⟩

theorem leadingLetters_takeWhile (formula : List Char) :
    LeadingLetters formula ((formula.dropWhile isBlank).takeWhile Char.isAlpha) := by
  refine ⟨(formula.dropWhile isBlank).dropWhile Char.isAlpha,
    ⟨formula.takeWhile isBlank, ?_, fun c hc => List.mem_takeWhile_imp hc⟩,
    fun c hc => List.mem_takeWhile_imp hc, ?_⟩
  · rw [List.takeWhile_append_dropWhile, List.takeWhile_append_dropWhile]
  · intro c hc
    have hhead := List.head?_dropWhile_not Char.isAlpha (formula.dropWhile isBlank)
    rwa [Option.mem_def.1 hc] at hhead

/-- A method that the letters at the start of a formula spell is that of the formula. -/
theorem method_eq_of_spells {formula word : List Char} {method : CalcMethod}
    (hleads : LeadingLetters formula word) (hspells : Spells method word) :
    Formula.method formula = method := by
  obtain ⟨rest, hstarts⟩ := hleads
  rw [Formula.method, ← (hstarts.eq_takeWhile hspells.ne_nil).1, hspells.find?]
  rfl

theorem method_eq_iff_isMethod {formula : List Char} {method : CalcMethod} :
    Formula.method formula = method ↔ IsMethod LeadingLetters formula method := by
  have hletters := leadingLetters_takeWhile formula
  constructor
  · rintro rfl
    rw [Formula.method]
    cases hfind : CalcMethod.named.find? fun method => method.label.toList.map Char.toLower ==
        ((formula.dropWhile isBlank).takeWhile Char.isAlpha).map Char.toLower with
    | some method =>
        have hspelled := List.find?_some hfind
        exact .named hletters ⟨List.mem_of_find?_eq_some hfind, (beq_iff_eq.1 hspelled).symm⟩
    | none =>
        refine .unknown fun word method ⟨rest, hstarts⟩ hspells => ?_
        rw [← (hstarts.eq_takeWhile hspells.ne_nil).1, hspells.find?] at hfind
        cases hfind
  · rintro (⟨hleads, hspells⟩ | hnone)
    · exact method_eq_of_spells hleads hspells
    · rw [Formula.method, List.find?_eq_none.2]
      · rfl
      · intro method hnamed hspelled
        exact hnone _ method hletters ⟨hnamed, (beq_iff_eq.1 hspelled).symm⟩

/-! Identifiers. -/

theorem isNamePart_of_isAlpha {c : Char} (h : c.isAlpha = true) : isNamePart c = true := by
  rw [isNamePart, Char.isAlphanum, h]
  rfl

theorem isIdentifier_of_isAlpha {word : List Char} (hne : word ≠ [])
    (h : ∀ c ∈ word, c.isAlpha = true) : formulaNames.IsIdentifier word := by
  obtain ⟨c, rest, rfl⟩ := List.exists_cons_of_ne_nil hne
  obtain ⟨hc, hrest⟩ := List.forall_mem_cons.1 h
  refine ⟨c, rest, rfl, ?_, fun d hd => isNamePart_of_isAlpha (hrest d hd)⟩
  change Formula.isNameStart c = true
  rw [Formula.isNameStart, hc]
  rfl

/-- An identifier that spells a method is made of the letters at the start of the formula. -/
theorem LeadingToken.letters {formula token : List Char} {method : CalcMethod}
    (h : LeadingToken formula token) (hspells : Spells method token) :
    ∃ rest, StartsWith Char.isAlpha formula token rest ∧
      ∀ c ∈ rest.head?, isNamePart c = false := by
  obtain ⟨-, rest, hblanks, -, hends⟩ := h
  refine ⟨rest, ⟨hblanks, hspells.isAlpha, fun c hc => ?_⟩, hends⟩
  by_contra halpha
  rw [Bool.not_eq_false] at halpha
  have hno := hends c hc
  rw [isNamePart_of_isAlpha halpha] at hno
  cases hno

/-- A formula starts with the name of a method that goes on, with a digit or an underscore. -/
def GoesOn (formula : List Char) : Prop :=
  ∃ method word c rest, StartsWith Char.isAlpha formula word (c :: rest) ∧ isNamePart c = true ∧
    Spells method word

theorem GoesOn.not_isMethod {formula : List Char} (h : GoesOn formula) :
    ¬IsMethod LeadingToken formula (Formula.method formula) := by
  obtain ⟨method, word, c, rest, hstarts, hc, hspells⟩ := h
  rw [method_eq_of_spells ⟨_, hstarts⟩ hspells]
  rintro (⟨hleads, hspells'⟩ | hnone)
  · obtain ⟨rest', hstarts', hends⟩ := hleads.letters hspells'
    have hrest : c :: rest = rest' :=
      (hstarts.eq_takeWhile hspells.ne_nil).2.trans (hstarts'.eq_takeWhile hspells'.ne_nil).2.symm
    rw [hends c (hrest ▸ rfl)] at hc
    cases hc
  · exact hspells.ne_unknown rfl

/-- Where the name of a method does not go on, it is an identifier. -/
theorem leadingToken_iff {formula word : List Char} {method : CalcMethod} (h : ¬GoesOn formula)
    (hspells : Spells method word) : LeadingToken formula word ↔ LeadingLetters formula word := by
  constructor
  · intro hleads
    obtain ⟨rest, hstarts, -⟩ := hleads.letters hspells
    exact ⟨rest, hstarts⟩
  · rintro ⟨rest, hstarts⟩
    refine ⟨isIdentifier_of_isAlpha hspells.ne_nil hspells.isAlpha, rest, hstarts.behind_blanks,
      fun c hc => isNamePart_of_isAlpha (hspells.isAlpha c hc), ?_⟩
    cases rest with
    | nil => exact nofun
    | cons c rest =>
        rintro _ ⟨⟩
        by_contra hc
        exact h ⟨method, word, c, rest, hstarts, Bool.not_eq_false _ ▸ hc, hspells⟩

theorem IsMethod.congr {Leads Leads' : List Char → List Char → Prop} {formula : List Char}
    (h : ∀ word method, Spells method word → (Leads formula word ↔ Leads' formula word))
    {method : CalcMethod} (hmethod : IsMethod Leads formula method) :
    IsMethod Leads' formula method := by
  rcases hmethod with ⟨hleads, hspells⟩ | hnone
  · exact .named ((h _ _ hspells).1 hleads) hspells
  · exact .unknown fun word method hleads hspells =>
      hnone word method ((h _ _ hspells).2 hleads) hspells

/-- **The method of a formula.** It is the one that the letters at the start of the formula spell.
It is also the one that the identifier at the start spells, if these letters do not go on as an
identifier. -/
theorem method_of_letters (formula : List Char) :
    (∀ method, Formula.method formula = method ↔ IsMethod LeadingLetters formula method) ∧
    ((∀ method, Formula.method formula = method ↔ IsMethod LeadingToken formula method) ↔
      ¬GoesOn formula) := by
  refine ⟨fun _ => method_eq_iff_isMethod, fun htoken hgoes => ?_, fun hends method => ?_⟩
  · exact hgoes.not_isMethod ((htoken _).1 rfl)
  · rw [method_eq_iff_isMethod]
    exact ⟨.congr fun _ _ hspells => (leadingToken_iff hends hspells).symm,
      .congr fun _ _ hspells => leadingToken_iff hends hspells⟩

def numberedFormula : List Char := "Sum2(Entry.Due)".toList

/-- The letters in front of a digit name a method, although the identifier does not. -/
theorem method_numberedFormula : Formula.method numberedFormula = .sum ∧
    ¬IsMethod LeadingToken numberedFormula .sum := by
  have hmethod : Formula.method numberedFormula = .sum := by decide
  have hgoes : GoesOn numberedFormula :=
    ⟨.sum, "Sum".toList, '2', "(Entry.Due)".toList,
      ⟨⟨[], rfl, by decide⟩, by decide, by rintro _ ⟨⟩; decide⟩, by decide, by decide, rfl⟩
  exact ⟨hmethod, hmethod ▸ hgoes.not_isMethod⟩

end ExtensionAtlas.Source
