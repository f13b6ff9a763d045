import Mathlib.Data.List.Basic
import Mathlib.Data.List.Infix
import ExtensionAtlas.Text.Case

/-! How a text is lowered where it stands. What is around a text matters only to the capital sigmas
in it: a sigma takes its final form behind a letter and in front of none, where the characters that
are passed over do not count. The text in front of a place is read backwards, as in `lowerAfter`. -/

namespace ExtensionAtlas.Text

/-- Whether a capital sigma takes its final form between two texts. -/
def isFinal (before rest : List Char) : Bool := letterNext before && !letterNext rest

/-- The small letter of a capital sigma between two texts. -/
def sigmaForm (before rest : List Char) : Char := if isFinal before rest then 'ς' else 'σ'

/-- What a character becomes between two texts. -/
def lowerChar (before : List Char) (c : Char) (rest : List Char) : List Char :=
  if c = 'Σ' then [sigmaForm before rest]
  else if c = 'İ' then ['i', '\u0307']
  else [lowerLetter c]

/-- What a text becomes between two texts. -/
def lowerBetween (before : List Char) : (text rest : List Char) → List Char
  | [], _ => []
  | c :: text, rest => lowerChar before c (text ++ rest) ++ lowerBetween (c :: before) text rest

theorem lowerAfter_eq (before text : List Char) :
    lowerAfter before text = lowerBetween before text [] := by
  induction text generalizing before with
  | nil => rfl
  | cons c text ih =>
      rw [lowerAfter, lowerBetween, lowerChar, List.append_nil, ih]
      by_cases hsigma : c = 'Σ'
      · simp [hsigma, sigmaForm, isFinal]
      · by_cases hdotted : c = 'İ' <;> simp [hsigma, hdotted]

theorem lower_eq (text : List Char) : lower text = lowerBetween [] text [] := lowerAfter_eq [] text

theorem lowerBetween_append (before front back rest : List Char) :
    lowerBetween before (front ++ back) rest =
      lowerBetween before front (back ++ rest) ++
        lowerBetween (front.reverse ++ before) back rest := by
  induction front generalizing before with
  | nil => rfl
  | cons c front ih =>
      rw [List.cons_append, lowerBetween, ih, lowerBetween, List.append_assoc, List.append_assoc,
        List.reverse_cons, List.append_assoc, List.singleton_append]

/-- A text within a longer one is lowered as it stands there. -/
theorem lower_around (front text back : List Char) :
    lower (front ++ text ++ back) = lowerBetween [] front (text ++ back) ++
      (lowerBetween front.reverse text back ++ lowerBetween (text.reverse ++ front.reverse) back [])
    := by
  rw [lower_eq, List.append_assoc, lowerBetween_append, lowerBetween_append]
  simp only [List.append_nil]

/-! Sigmas. -/

/-- What holds at every capital sigma of a text, of what is around it in the text. -/
def AtSigmas (holds : (before rest : List Char) → Prop) (text : List Char) : Prop :=
  ∀ front back, text = front ++ 'Σ' :: back → holds front.reverse back

theorem atSigmas_cons {holds : List Char → List Char → Prop} {c : Char} {text : List Char} :
    AtSigmas holds (c :: text) ↔
      (c = 'Σ' → holds [] text) ∧ AtSigmas (fun before => holds (before ++ [c])) text := by
  constructor
  · intro h
    refine ⟨?_, ?_⟩
    · rintro rfl
      exact h [] text rfl
    · rintro front back rfl
      have hfront := h (c :: front) back rfl
      rwa [List.reverse_cons] at hfront
  · rintro ⟨hhead, htail⟩ front back heq
    cases front with
    | nil =>
        obtain ⟨rfl, rfl⟩ := List.cons.inj heq
        exact hhead rfl
    | cons d front =>
        obtain ⟨rfl, rfl⟩ := List.cons.inj heq
        rw [List.reverse_cons]
        exact htail front back rfl

instance decidableAtSigmas (holds : List Char → List Char → Prop)
    [∀ before rest, Decidable (holds before rest)] : (text : List Char) →
      Decidable (AtSigmas holds text)
  | [] => isTrue fun front _ h => absurd h.symm (List.append_ne_nil_of_right_ne_nil front
      (List.cons_ne_nil _ _))
  | c :: text =>
    have := decidableAtSigmas (fun before => holds (before ++ [c])) text
    decidable_of_iff _ atSigmas_cons.symm

section

variable {before before' text rest rest' : List Char}

/-- A text is lowered alike in two places if its sigmas have the same forms there. -/
theorem lowerBetween_congr (h : AtSigmas (fun own behind =>
      sigmaForm (own ++ before) (behind ++ rest) = sigmaForm (own ++ before') (behind ++ rest'))
      text) :
    lowerBetween before text rest = lowerBetween before' text rest' := by
  induction text generalizing before before' with
  | nil => rfl
  | cons c text ih =>
      obtain ⟨hhead, htail⟩ := atSigmas_cons.1 h
      simp only [List.append_assoc, List.singleton_append] at htail
      have htext : lowerBetween (c :: before) text rest = lowerBetween (c :: before') text rest' :=
        ih htail
      have hchar : lowerChar before c (text ++ rest) = lowerChar before' c (text ++ rest') := by
        rw [lowerChar, lowerChar]
        split
        · next hsigma => exact congrArg (fun form => [form]) (hhead hsigma)
        · rfl
      rw [lowerBetween, lowerBetween, hchar, htext]

theorem length_lowerBetween :
    (lowerBetween before text rest).length = (lowerBetween before' text rest').length := by
  induction text generalizing before before' with
  | nil => rfl
  | cons c text ih =>
      have hchar : (lowerChar before c (text ++ rest)).length =
          (lowerChar before' c (text ++ rest')).length := by
        rw [lowerChar, lowerChar]
        split <;> rfl
      rw [lowerBetween, lowerBetween, List.length_append, List.length_append, hchar, ih]

/-- The form of a sigma is as frequent in one place as in another if the sigmas that have it there
have it here. -/
theorem count_lowerChar_le {form c : Char} (h : c = 'Σ' → sigmaForm before rest = form →
      sigmaForm before' rest' = form) :
    (lowerChar before c rest).count form ≤ (lowerChar before' c rest').count form := by
  rw [lowerChar, lowerChar]
  split
  · next hsigma =>
    by_cases hform : sigmaForm before rest = form
    · rw [hform, h hsigma hform]
    · rw [List.count_singleton, if_neg (by simpa using hform)]
      exact Nat.zero_le _
  · exact Nat.le_refl _

theorem count_lowerBetween_le {form : Char} (h : AtSigmas (fun own behind =>
      sigmaForm (own ++ before) (behind ++ rest) = form →
        sigmaForm (own ++ before') (behind ++ rest') = form) text) :
    (lowerBetween before text rest).count form ≤ (lowerBetween before' text rest').count form := by
  induction text generalizing before before' with
  | nil => exact Nat.le_refl 0
  | cons c text ih =>
      obtain ⟨hhead, htail⟩ := atSigmas_cons.1 h
      simp only [List.append_assoc, List.singleton_append] at htail
      rw [lowerBetween, lowerBetween, List.count_append, List.count_append]
      exact Nat.add_le_add (count_lowerChar_le hhead) (ih htail)

/-- It is more frequent if a sigma has it here only. -/
theorem count_lowerBetween_lt {form : Char} {front back : List Char}
    (h : AtSigmas (fun own behind => sigmaForm (own ++ before) (behind ++ rest) = form →
      sigmaForm (own ++ before') (behind ++ rest') = form) (front ++ 'Σ' :: back))
    (hhere : sigmaForm (front.reverse ++ before) (back ++ rest) ≠ form)
    (hthere : sigmaForm (front.reverse ++ before') (back ++ rest') = form) :
    (lowerBetween before (front ++ 'Σ' :: back) rest).count form <
      (lowerBetween before' (front ++ 'Σ' :: back) rest').count form := by
  induction front generalizing before before' with
  | nil =>
      obtain ⟨-, htail⟩ := atSigmas_cons.1 h
      simp only [List.append_assoc, List.singleton_append] at htail
      have hback : (lowerBetween ('Σ' :: before) back rest).count form ≤
          (lowerBetween ('Σ' :: before') back rest').count form := count_lowerBetween_le htail
      rw [List.reverse_nil, List.nil_append] at hhere hthere
      have hzero : [sigmaForm before (back ++ rest)].count form = 0 :=
        List.count_eq_zero.2 fun hmem => hhere (List.mem_singleton.1 hmem).symm
      simp only [List.nil_append, lowerBetween, lowerChar, if_true, List.count_append, hthere,
        List.count_singleton_self, hzero]
      omega
  | cons c front ih =>
      rw [List.cons_append] at h
      obtain ⟨hhead, htail⟩ := atSigmas_cons.1 h
      simp only [List.append_assoc, List.singleton_append] at htail
      rw [List.reverse_cons, List.append_assoc, List.singleton_append] at hhere hthere
      rw [List.cons_append, lowerBetween, lowerBetween, List.count_append, List.count_append]
      exact Nat.add_lt_add_of_le_of_lt (count_lowerChar_le hhead) (ih htail hhere hthere)

end

/-! Texts whose sigmas have the same forms wherever they stand. -/

/-- What stands next to a place on one side: whether the first character that is not passed over is
a letter, if there is one. -/
def neighbour? (side : List Char) : Option Bool :=
  (side.find? fun c => !isIgnorable c).map isCased

theorem letterNext_eq (side : List Char) : letterNext side = (neighbour? side == some true) := by
  rw [letterNext, neighbour?]
  induction side with
  | nil => rfl
  | cons c side ih =>
      cases hc : isIgnorable c with
      | true => rw [List.dropWhile_cons_of_pos hc, List.find?_cons_of_neg (by simp [hc]), ih]
      | false =>
          rw [List.dropWhile_cons_of_neg (by simp [hc]), List.find?_cons_of_pos (by simp [hc])]
          cases hletter : isCased c <;> simp [hletter]

theorem neighbour?_append (side more : List Char) :
    neighbour? (side ++ more) = (neighbour? side).or (neighbour? more) := by
  rw [neighbour?, List.find?_append, Option.map_or]
  rfl

theorem isFinal_iff {before rest : List Char} : isFinal before rest = true ↔
    neighbour? before = some true ∧ neighbour? rest ≠ some true := by
  simp [isFinal, letterNext_eq]

theorem sigmaForm_eq_final_iff {before rest : List Char} :
    sigmaForm before rest = 'ς' ↔ isFinal before rest = true := by
  rw [sigmaForm]
  split <;> simp [*]

theorem sigmaForm_eq_plain_iff {before rest : List Char} :
    sigmaForm before rest = 'σ' ↔ ¬isFinal before rest = true := by
  rw [sigmaForm]
  split <;> simp [*]

/-- Whether the texts on both sides of a sigma settle its form, whatever is around them: there is no
letter in front, or a letter behind, or a letter in front and none behind. -/
def Settles (before rest : List Char) : Prop :=
  neighbour? before = some false ∨ neighbour? rest = some true ∨
    (neighbour? before = some true ∧ neighbour? rest = some false)

instance (before rest : List Char) : Decidable (Settles before rest) :=
  inferInstanceAs (Decidable (_ ∨ _ ∨ _))

theorem Settles.sigmaForm_append {before rest : List Char} (h : Settles before rest)
    (more more' : List Char) :
    sigmaForm (before ++ more) (rest ++ more') = sigmaForm before rest := by
  have hfinal : isFinal (before ++ more) (rest ++ more') = isFinal before rest := by
    rw [Bool.eq_iff_iff, isFinal_iff, isFinal_iff, neighbour?_append, neighbour?_append]
    rcases h with h | h | ⟨h, h'⟩ <;> simp [*]
  rw [sigmaForm, hfinal, sigmaForm]

/-- A sigma that is not settled lacks a neighbour: a letter stands in front of it and nothing
behind, or nothing in front and no letter behind. -/
theorem not_settles_iff {before rest : List Char} : ¬Settles before rest ↔
    (neighbour? before = some true ∧ neighbour? rest = none) ∨
      (neighbour? before = none ∧ neighbour? rest ≠ some true) := by
  rw [Settles]
  rcases neighbour? before with _ | _ | _ <;> rcases neighbour? rest with _ | _ | _ <;> simp

/-- Whether the sigmas of a text have the same forms wherever it stands. -/
def Settled (text : List Char) : Prop := AtSigmas Settles text

instance (text : List Char) : Decidable (Settled text) := decidableAtSigmas Settles text

/-- Whether the sigmas of a text have the same forms between two texts as alone. -/
def KeepsForms (front text back : List Char) : Prop :=
  AtSigmas (fun own behind => sigmaForm (own ++ front.reverse) (behind ++ back) =
    sigmaForm own behind) text

instance (front text back : List Char) : Decidable (KeepsForms front text back) :=
  decidableAtSigmas _ text

theorem Settled.keepsForms {text : List Char} (h : Settled text) (front back : List Char) :
    KeepsForms front text back :=
  fun own behind htext => (h own behind htext).sigmaForm_append front.reverse back

/-- A text whose sigmas keep their forms is found again in the lowered text around it. -/
theorem KeepsForms.infix_lower {front text back : List Char} (h : KeepsForms front text back) :
    lower text <:+: lower (front ++ text ++ back) := by
  have hsame : lowerBetween front.reverse text back = lower text := by
    rw [lower_eq]
    apply lowerBetween_congr
    simpa only [KeepsForms, List.append_nil] using h
  rw [lower_around, hsame, ← List.append_assoc]
  exact List.infix_append _ _ _

theorem length_lower_le (front text back : List Char) :
    (lower text).length ≤ (lower (front ++ text ++ back)).length := by
  have hlength : (lowerBetween [] text []).length = (lowerBetween front.reverse text back).length :=
    length_lowerBetween
  rw [lower_around, lower_eq, List.length_append, List.length_append, hlength]
  omega

/-- A letter next to a text takes its form from a sigma that is not settled, so that the lowered
text is not found again. -/
theorem not_infix_of_not_settled {text : List Char} (h : ¬Settled text) :
    ¬lower text <:+: lower ([] ++ text ++ ['A']) ∨
      ¬lower text <:+: lower (['A'] ++ text ++ []) := by
  obtain ⟨front, back, rfl, hunsettled⟩ : ∃ front back, text = front ++ 'Σ' :: back ∧
      ¬Settles front.reverse back := by
    simpa [Settled, AtSigmas] using h
  have hletter : neighbour? ['A'] = some true := by decide
  have hlowered (before rest : List Char) : lowerBetween before ['A'] rest = ['a'] := rfl
  rcases not_settles_iff.1 hunsettled with ⟨hfront, hback⟩ | ⟨hfront, hback⟩
  · -- behind the text the letter takes a final form away, and gives none
    left
    intro hwithin
    have hfewer : (lowerBetween [] (front ++ 'Σ' :: back) ['A']).count 'ς' <
        (lowerBetween [] (front ++ 'Σ' :: back) []).count 'ς' := by
      apply count_lowerBetween_lt
      · intro own behind _
        simp only [sigmaForm_eq_final_iff, isFinal_iff, List.append_nil, neighbour?_append]
        rcases neighbour? behind with _ | _ | _ <;> simp_all
      · simp [sigmaForm_eq_final_iff, isFinal_iff, neighbour?_append, *]
      · simp [sigmaForm_eq_final_iff, isFinal_iff, *]
    have hcount := hwithin.sublist.count_le 'ς'
    rw [lower_around, lower_eq, hlowered, lowerBetween, List.nil_append,
      List.count_append] at hcount
    exact absurd hcount (Nat.not_le.2 hfewer)
  · -- in front of the text it makes a form final that was not, and no other plain
    right
    intro hwithin
    have hfewer : (lowerBetween ['A'] (front ++ 'Σ' :: back) []).count 'σ' <
        (lowerBetween [] (front ++ 'Σ' :: back) []).count 'σ' := by
      apply count_lowerBetween_lt
      · intro own behind _
        simp only [sigmaForm_eq_plain_iff, isFinal_iff, List.append_nil, neighbour?_append]
        rcases neighbour? own with _ | _ | _ <;> simp_all
      · simp [sigmaForm_eq_plain_iff, isFinal_iff, neighbour?_append, *]
      · simp [sigmaForm_eq_plain_iff, isFinal_iff, *]
    have hcount := hwithin.sublist.count_le 'σ'
    rw [lower_around, lower_eq, hlowered, lowerBetween, List.append_nil] at hcount
    exact absurd hcount (Nat.not_le.2 hfewer)

end ExtensionAtlas.Text
