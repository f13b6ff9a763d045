import Mathlib.Data.List.DropRight
import ExtensionAtlas.Text.Blank

/-! Trimming. A trimmed text has no blank at either end, and a text of that sort is left alone. What
holds of the characters of a text is decided on the text, and not over all the characters there
are. -/

namespace ExtensionAtlas.Text

instance decidableForallMemText (P : Char → Prop) [DecidablePred P] (text : List Char) :
    Decidable (∀ c ∈ text, P c) :=
  List.decidableBAll P text

instance decidableForallMemEnd (P : Char → Prop) [DecidablePred P] (mark : Option Char) :
    Decidable (∀ c ∈ mark, P c) :=
  Option.decidableForallMem mark

theorem not_mem_of_forall {accepts : Char → Bool} {text : List Char}
    (h : ∀ c ∈ text, accepts c = true) {mark : Char} (hmark : accepts mark = false) :
    mark ∉ text := by
  intro hmem
  rw [h mark hmem] at hmark
  cases hmark

/-- What holds of the characters of a text holds at the end of another one that ends with it. -/
theorem last_append_of_forall {P : Char → Prop} (front : List Char) {text : List Char}
    (hne : text ≠ []) (h : ∀ c ∈ text, P c) : ∀ c ∈ (front ++ text).getLast?, P c := by
  intro c hc
  rw [List.getLast?_append_of_ne_nil _ hne] at hc
  exact h c (List.mem_of_mem_getLast? hc)

/-- A text that neither starts nor ends with a blank; the empty text is one. -/
structure Trimmed (text : List Char) : Prop where
  head : ∀ c ∈ text.head?, isBlank c = false
  last : ∀ c ∈ text.getLast?, isBlank c = false

instance (text : List Char) : Decidable (Trimmed text) :=
  decidable_of_iff ((∀ c ∈ text.head?, isBlank c = false) ∧ ∀ c ∈ text.getLast?, isBlank c = false)
    ⟨fun h => ⟨h.1, h.2⟩, fun h => ⟨h.head, h.last⟩⟩

theorem trimEnd_eq_rdropWhile (drops : Char → Bool) (text : List Char) :
    trimEnd drops text = text.rdropWhile drops := rfl

theorem dropWhile_eq_self_of_head {drops : Char → Bool} {text : List Char}
    (h : ∀ c ∈ text.head?, drops c = false) : text.dropWhile drops = text := by
  cases text with
  | nil => rfl
  | cons c rest => exact List.dropWhile_cons_of_neg (by rw [h c rfl]; decide)

/-- A text whose ends are not of a class keeps them when that class is trimmed. -/
theorem trimBoth_of_ends {drops : Char → Bool} {text : List Char}
    (hhead : ∀ c ∈ text.head?, drops c = false) (hlast : ∀ c ∈ text.getLast?, drops c = false) :
    trimBoth drops text = text := by
  rw [trimBoth, dropWhile_eq_self_of_head hhead, trimEnd_eq_rdropWhile,
    List.rdropWhile_eq_self_iff]
  intro hne hdrops
  rw [hlast _ (List.getLast?_eq_some_getLast hne)] at hdrops
  cases hdrops

theorem strip_of_trimmed {text : List Char} (h : Trimmed text) : strip text = text :=
  trimBoth_of_ends h.head h.last

/-- What is left after trimming stood in the text between blanks. -/
theorem exists_eq_strip (text : List Char) : ∃ lead trail, text = lead ++ (strip text ++ trail) ∧
    (∀ c ∈ lead, isBlank c = true) ∧ ∀ c ∈ trail, isBlank c = true := by
  refine ⟨text.takeWhile isBlank, (text.dropWhile isBlank).rtakeWhile isBlank, ?_, ?_, ?_⟩
  · rw [strip, trimBoth, trimEnd_eq_rdropWhile, List.rdropWhile_append_rtakeWhile,
      List.takeWhile_append_dropWhile]
  · exact fun c hc => List.mem_takeWhile_imp hc
  · exact fun c hc => List.mem_rtakeWhile_imp hc

theorem mem_of_mem_strip {text : List Char} {c : Char} (h : c ∈ strip text) : c ∈ text := by
  obtain ⟨lead, trail, htext, -, -⟩ := exists_eq_strip text
  rw [htext]
  exact List.mem_append_right _ (List.mem_append_left _ h)

theorem trimmed_strip (text : List Char) : Trimmed (strip text) where
  head c hc := by
    have hhead : c ∈ (text.dropWhile isBlank).head? :=
      List.singleton_prefix_iff_head?_eq_some.1
        ((List.singleton_prefix_iff_head?_eq_some.2 hc).trans (List.rdropWhile_prefix _ _))
    have h := List.head?_dropWhile_not isBlank text
    rw [hhead] at h
    exact h
  last c hc := by
    have hne : strip text ≠ [] := by
      rintro h
      rw [h] at hc
      cases hc
    have h := List.rdropWhile_last_not isBlank (text.dropWhile isBlank) hne
    rw [List.getLast?_eq_some_getLast hne, Option.mem_some_iff] at hc
    subst hc
    exact Bool.eq_false_iff.2 h

/-- Trimmed texts with a mark between them are trimmed. -/
theorem Trimmed.append_cons {front back : List Char} {mark : Char} (hfront : Trimmed front)
    (hmark : isBlank mark = false) (hback : Trimmed back) : Trimmed (front ++ mark :: back) where
  head c hc := by
    cases front with
    | nil => exact (show mark = c by simpa using hc) ▸ hmark
    | cons d rest => exact hfront.head c hc
  last c hc := by
    rw [List.getLast?_append, List.getLast?_cons] at hc
    cases hlast : back.getLast? with
    | none => exact (show mark = c by simpa [hlast] using hc) ▸ hmark
    | some d => exact (show d = c by simpa [hlast] using hc) ▸ hback.last d hlast

/-- A text between two trimmed ones is trimmed with them. -/
theorem Trimmed.surround {front back : List Char} (hfront : Trimmed front) (hfront' : front ≠ [])
    (hback : Trimmed back) (hback' : back ≠ []) (middle : List Char) :
    Trimmed (front ++ (middle ++ back)) where
  head c hc := hfront.head c (by rwa [List.head?_append_of_ne_nil _ hfront'] at hc)
  last c hc := by
    rw [← List.append_assoc, List.getLast?_append_of_ne_nil _ hback'] at hc
    exact hback.last c hc

/-- Nothing is left of a text if it is made of blanks. -/
theorem strip_eq_nil_iff {text : List Char} :
    strip text = [] ↔ ∀ c ∈ text, isBlank c = true := by
  constructor
  · intro hnil
    obtain ⟨lead, trail, htext, hlead, htrail⟩ := exists_eq_strip text
    rw [htext, hnil]
    exact List.forall_mem_append.2 ⟨hlead, htrail⟩
  · intro hblank
    cases hstrip : strip text with
    | nil => rfl
    | cons c rest =>
        -- the first character that is left is not blank
        have hhead := (trimmed_strip text).head c (by rw [hstrip]; rfl)
        have hc : c ∈ strip text := hstrip ▸ List.mem_cons_self
        rw [hblank c (mem_of_mem_strip hc)] at hhead
        cases hhead

theorem strip_cons_of_isBlank {c : Char} (h : isBlank c = true) (text : List Char) :
    strip (c :: text) = strip text := by
  rw [strip, trimBoth, List.dropWhile_cons_of_pos h]
  rfl

/-- Blanks in front of a text do not count. -/
theorem strip_append_of_blanks {gap : List Char} (h : ∀ c ∈ gap, isBlank c = true)
    (text : List Char) : strip (gap ++ text) = strip text := by
  rw [strip, trimBoth, List.dropWhile_append_of_pos h]
  rfl

/-- Where the blanks at the end of a text start is known from the text. -/
theorem append_blanks_inj {s t gap gap' : List Char} (hs : ∀ c ∈ s.getLast?, isBlank c = false)
    (ht : ∀ c ∈ t.getLast?, isBlank c = false) (hgap : ∀ c ∈ gap, isBlank c = true)
    (hgap' : ∀ c ∈ gap', isBlank c = true) (heq : s ++ gap = t ++ gap') : s = t := by
  have htrim {s gap : List Char} (hs : ∀ c ∈ s.getLast?, isBlank c = false)
      (hgap : ∀ c ∈ gap, isBlank c = true) : trimEnd isBlank (s ++ gap) = s := by
    rw [trimEnd, List.reverse_append, List.dropWhile_append_of_pos (by simpa using hgap),
      dropWhile_eq_self_of_head (by simpa using hs), List.reverse_reverse]
  rw [← htrim hs hgap, heq, htrim ht hgap']

end ExtensionAtlas.Text
