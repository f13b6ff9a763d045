import Mathlib.Data.Finmap

/-! Entries that are set one after another. The last entry of a key counts and a key without entries
keeps its value, so setting the same entries once more changes nothing. -/

namespace ExtensionAtlas.Graph

variable {α β γ : Type} [DecidableEq α]

/-- The value of a key that entries set last. -/
def lastValue? (entries : List (α × β)) (key : α) : Option β := entries.reverse.lookup key

/-- A map after some entries have been set. -/
def overlay (old : Finmap fun _ : α => β) (entries : List (α × β)) : Finmap fun _ : α => β :=
  entries.foldl (fun m entry => m.insert entry.1 entry.2) old

theorem lastValue?_append (first second : List (α × β)) (key : α) :
    lastValue? (first ++ second) key = (lastValue? second key).or (lastValue? first key) := by
  rw [lastValue?, List.reverse_append, List.lookup_append]
  rfl

@[simp]
theorem lastValue?_cons (entry : α × β) (entries : List (α × β)) (key : α) :
    lastValue? (entry :: entries) key =
      (lastValue? entries key).or (if key = entry.1 then some entry.2 else none) := by
  obtain ⟨own, value⟩ := entry
  rw [← List.singleton_append, lastValue?_append]
  by_cases h : key = own
  · simp [lastValue?, h]
  · have hne : (key == own) = false := beq_false_of_ne h
    simp [lastValue?, List.lookup_cons, h, hne]

theorem lastValue?_eq_none_iff {entries : List (α × β)} {key : α} :
    lastValue? entries key = none ↔ ∀ entry ∈ entries, entry.1 ≠ key := by
  simp only [lastValue?, List.lookup_eq_none_iff, List.mem_reverse, bne_iff_ne]
  exact forall₂_congr fun _ _ => ne_comm

theorem lastValue?_flatMap_ne_none_iff {xs : List γ} {block : γ → List (α × β)} {key : α} :
    lastValue? (xs.flatMap block) key ≠ none ↔ ∃ x ∈ xs, lastValue? (block x) key ≠ none := by
  simp only [ne_eq, lastValue?_eq_none_iff, List.mem_flatMap]
  push Not
  exact ⟨fun ⟨entry, ⟨x, hx, hmem⟩, heq⟩ => ⟨x, hx, entry, hmem, heq⟩,
    fun ⟨x, hx, entry, hmem, heq⟩ => ⟨entry, ⟨x, hx, hmem⟩, heq⟩⟩

/-- The value that blocks of entries set last is that of the last block that sets any. -/
theorem lastValue?_flatMap (xs : List γ) (block : γ → List (α × β)) (key : α) :
    lastValue? (xs.flatMap block) key =
      (xs.filterMap fun x => lastValue? (block x) key).getLast? := by
  induction xs with
  | nil => rfl
  | cons x xs ih =>
      rw [List.flatMap_cons, lastValue?_append, ih, List.filterMap_cons]
      cases lastValue? (block x) key with
      | none => exact Option.or_none
      | some value =>
          rw [List.getLast?_cons]
          cases (xs.filterMap fun x => lastValue? (block x) key).getLast? <;> rfl

theorem mem_of_lastValue? {entries : List (α × β)} {key : α} {value : β}
    (h : lastValue? entries key = some value) : (key, value) ∈ entries := by
  obtain ⟨front, back, heq, -⟩ := List.lookup_eq_some_iff.1 h
  rw [← List.mem_reverse, heq]
  exact List.mem_append_right _ List.mem_cons_self

/-- A key whose entries all have one value has that value. -/
theorem lastValue?_eq_some {entries : List (α × β)} {key : α} {value : β}
    (hmem : (key, value) ∈ entries) (h : ∀ other, (key, other) ∈ entries → other = value) :
    lastValue? entries key = some value := by
  cases hlast : lastValue? entries key with
  | none => exact absurd rfl (lastValue?_eq_none_iff.1 hlast _ hmem)
  | some other => rw [h other (mem_of_lastValue? hlast)]

theorem overlay_append (old : Finmap fun _ : α => β) (first second : List (α × β)) :
    overlay old (first ++ second) = overlay (overlay old first) second :=
  List.foldl_append

/-- A key has its last value, and otherwise the one that it had. -/
theorem lookup_overlay (old : Finmap fun _ : α => β) (entries : List (α × β)) (key : α) :
    (overlay old entries).lookup key = (lastValue? entries key).or (old.lookup key) := by
  induction entries generalizing old with
  | nil => rfl
  | cons entry entries ih =>
      change (overlay (old.insert entry.1 entry.2) entries).lookup key = _
      rw [ih, lastValue?_cons, Option.or_assoc]
      by_cases h : key = entry.1
      · rw [h, Finmap.lookup_insert, if_pos rfl, Option.some_or]
      · rw [Finmap.lookup_insert_of_ne _ h, if_neg h, Option.none_or]

theorem mem_overlay {old : Finmap fun _ : α => β} {entries : List (α × β)} {key : α} :
    key ∈ overlay old entries ↔ lastValue? entries key ≠ none ∨ key ∈ old := by
  rw [← Finmap.lookup_isSome, ← Finmap.lookup_isSome, lookup_overlay, Option.isSome_or,
    Bool.or_eq_true, Option.isSome_iff_ne_none]

/-- Setting the same entries again changes nothing. -/
theorem overlay_overlay_self (old : Finmap fun _ : α => β) (entries : List (α × β)) :
    overlay (overlay old entries) entries = overlay old entries := by
  refine Finmap.ext_lookup fun key => ?_
  rw [lookup_overlay, lookup_overlay, ← Option.or_assoc, Option.or_self]

end ExtensionAtlas.Graph
