import ExtensionAtlas.Proofs.Pattern.Scan

/-! What all matches of a search give, without the search. Of some sort of items that stand in a
text one is taken where it starts, and the reading goes on behind it; where none starts it goes on
with the next character. -/

namespace ExtensionAtlas

variable {ι : Type}

/-- The items in a text from left to right, none of which starts within the one before. Whether an
item is at the start of a text may depend on what is in front of it. -/
inductive LeftToRight (At : (front text : List Char) → ι → (behind : List Char) → Prop) :
    (front text : List Char) → List ι → Prop where
  | nil {front : List Char} (none_at : ∀ item behind, ¬At front [] item behind) :
      LeftToRight At front [] []
  | skip {front rest : List Char} {c : Char} {items : List ι}
      (none_at : ∀ item behind, ¬At front (c :: rest) item behind)
      (later : LeftToRight At (front ++ [c]) rest items) : LeftToRight At front (c :: rest) items
  | hit {front text taken behind : List Char} {item : ι} {items : List ι}
      (text_eq : text = taken ++ behind) (ne_nil : taken ≠ []) (item_at : At front text item behind)
      (later : LeftToRight At (front ++ taken) behind items) :
      LeftToRight At front text (item :: items)

namespace LeftToRight

variable {At : (front text : List Char) → ι → (behind : List Char) → Prop}

/-- The items of a text are known if one that stands at a place is. -/
theorem unique {front text : List Char} {items items' : List ι}
    (h : LeftToRight At front text items) (h' : LeftToRight At front text items')
    (hat : ∀ {front text item item' behind behind'}, At front text item behind →
      At front text item' behind' → item = item' ∧ behind = behind') : items = items' := by
  induction h generalizing items' with
  | nil hnone =>
      cases h' with
      | nil => rfl
      | hit _ _ hitem => exact absurd hitem (hnone _ _)
  | skip hnone _ ih =>
      cases h' with
      | skip _ hlater => exact ih hlater
      | hit _ _ hitem => exact absurd hitem (hnone _ _)
  | hit htext hne hitem _ ih =>
      cases h' with
      | nil hnone => exact absurd hitem (hnone _ _)
      | skip hnone => exact absurd hitem (hnone _ _)
      | hit htext' _ hitem' hlater =>
          obtain ⟨rfl, rfl⟩ := hat hitem hitem'
          obtain rfl := List.append_cancel_right (htext.symm.trans htext')
          rw [ih hlater]

end LeftToRight

namespace Pattern

variable {σ : Type}

/-- A pattern matches exactly where an item starts, and its match gives that item and ends where the
item does. -/
structure Recognizes (p : Pattern σ) (value : Match σ → ι)
    (At : (front text : List Char) → ι → (behind : List Char) → Prop) : Prop where
  found : ∀ {front text item behind}, At front text item behind →
    ∃ m ∈ p.matchAt (.between front text), value m = item ∧ ∃ taken, text = taken ++ behind ∧
      taken ≠ [] ∧ m.stop = .between (front ++ taken) behind
  offered : ∀ {front text}, p.Offers front text → ∃ item behind, At front text item behind

namespace Recognizes

variable {p : Pattern σ} {value : Match σ → ι}
  {At : (front text : List Char) → ι → (behind : List Char) → Prop}

theorem unique (h : p.Recognizes value At) {front text behind behind' : List Char} {item item' : ι}
    (hitem : At front text item behind) (hitem' : At front text item' behind') :
    item = item' ∧ behind = behind' := by
  obtain ⟨m, hm, rfl, taken, -, -, hstop⟩ := h.found hitem
  obtain ⟨m', hm', rfl, taken', -, -, hstop'⟩ := h.found hitem'
  obtain rfl := Option.some.inj (hm.symm.trans hm')
  exact ⟨rfl, congrArg Cursor.rest (hstop.symm.trans hstop')⟩

theorem none_at (h : p.Recognizes value At) {front text : List Char}
    (hnone : p.matchAt (.between front text) = none) (item : ι) (behind : List Char) :
    ¬At front text item behind := by
  intro hitem
  obtain ⟨m, hm, -⟩ := h.found hitem
  rw [hnone] at hm
  cases hm

theorem exists_at (h : p.Recognizes value At) {front text : List Char} {m : Match σ}
    (hm : p.matchAt (.between front text) = some m) :
    ∃ taken behind, text = taken ++ behind ∧ taken ≠ [] ∧ At front text (value m) behind ∧
      m.stop = .between (front ++ taken) behind := by
  have hoffers : p.Offers front text := by
    by_contra hno
    rw [matchAt_eq_none_iff.2 hno] at hm
    cases hm
  obtain ⟨item, behind, hitem⟩ := h.offered hoffers
  obtain ⟨m', hm', rfl, taken, htext, hne, hstop⟩ := h.found hitem
  obtain rfl := Option.some.inj (hm.symm.trans hm')
  exact ⟨taken, behind, htext, hne, hitem, hstop⟩

theorem leftToRight_allBehind (h : p.Recognizes value At) (front text : List Char) :
    LeftToRight At front text ((p.allBehind front text).map value) := by
  induction hlength : text.length using Nat.strong_induction_on generalizing front text with
  | _ n ih =>
      subst hlength
      cases hm : p.matchAt (.between front text) with
      | some m =>
          obtain ⟨taken, behind, rfl, hne, hitem, hstop⟩ := h.exists_at hm
          have hfinds : Finds p front taken behind [m] := .single hne hm hstop
          have hshorter : behind.length < (taken ++ behind).length := by
            have := List.length_pos_iff.2 hne
            rw [List.length_append]
            omega
          rw [hfinds, List.singleton_append, List.map_cons]
          exact .hit rfl hne hitem (ih _ hshorter _ _ rfl)
      | none =>
          cases text with
          | nil =>
              have hnil : p.allBehind front [] = [] := by
                change (p.matchAt (.between front [])).toList = []
                rw [hm]
                rfl
              rw [hnil]
              exact .nil (h.none_at hm)
          | cons c rest =>
              have hfinds : Finds p front [c] rest [] := .cons hm .nil
              have hrest : p.allBehind front (c :: rest) = p.allBehind (front ++ [c]) rest := hfinds
              rw [hrest]
              exact .skip (h.none_at hm) (ih _ (Nat.lt_succ_self _) _ _ rfl)

/-- The matches of a search give the items of the text. -/
theorem map_all_eq_iff (h : p.Recognizes value At) {text : List Char} {items : List ι} :
    (p.all text).map value = items ↔ LeftToRight At [] text items := by
  have hall : LeftToRight At [] text ((p.all text).map value) := h.leftToRight_allBehind [] text
  constructor
  · rintro rfl
    exact hall
  · exact fun hitems => hall.unique hitems h.unique

end Recognizes

end Pattern

end ExtensionAtlas
