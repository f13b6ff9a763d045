import ExtensionAtlas.Integration.Resolve
import ExtensionAtlas.Proofs.Text.Lowering
import ExtensionAtlas.Proofs.Text.Occurrence

/-! Which event names match. Two names match if one contains the other, letter case aside, where
both are lowered as a whole. A name is not found in a longer one if a capital sigma has another form
there. -/

namespace ExtensionAtlas

theorem eventNamesMatch_iff {name other : String} : eventNamesMatch name other = true ↔
    Text.lower other.toList <:+: Text.lower name.toList ∨
      Text.lower name.toList <:+: Text.lower other.toList := by
  simp only [eventNamesMatch, Bool.or_eq_true, beq_iff_eq, Text.occursIn_iff_infix]
  constructor
  · rintro ((rfl | h) | h)
    · exact .inl List.infix_rfl
    · exact .inr h
    · exact .inl h
  · rintro (h | h)
    · exact .inr h
    · exact .inl (.inr h)

theorem eventNamesMatch_comm {name other : String} :
    eventNamesMatch name other = true ↔ eventNamesMatch other name = true := by
  rw [eventNamesMatch_iff, eventNamesMatch_iff, or_comm]

/-- A name matches one around it exactly if it is found in that, lowered. -/
theorem eventNamesMatch_append_iff {front name back : String} :
    eventNamesMatch name (front ++ name ++ back) = true ↔
      Text.lower name.toList <:+: Text.lower (front.toList ++ name.toList ++ back.toList) := by
  rw [eventNamesMatch_iff, String.toList_append, String.toList_append]
  refine ⟨fun h => h.elim (fun hlonger => ?_) id, .inr⟩
  rw [hlonger.eq_of_length_le (Text.length_lower_le _ _ _)]

/-- **Names within names.** Matching does not depend on the order of the names. A name matches one
around it if its capital sigmas have the same forms there as alone, and it matches every name around
it exactly if their forms are settled. -/
theorem eventNamesMatch_around (name : String) :
    (∀ other, eventNamesMatch name other = eventNamesMatch other name) ∧
    (∀ front back : String, Text.KeepsForms front.toList name.toList back.toList →
      eventNamesMatch name (front ++ name ++ back) = true ∧
        eventNamesMatch (front ++ name ++ back) name = true) ∧
    ((∀ front back, eventNamesMatch name (front ++ name ++ back) = true ∧
        eventNamesMatch (front ++ name ++ back) name = true) ↔ Text.Settled name.toList) := by
  have hkept (front back : String)
      (h : Text.KeepsForms front.toList name.toList back.toList) :
      eventNamesMatch name (front ++ name ++ back) = true ∧
        eventNamesMatch (front ++ name ++ back) name = true := by
    have hmatch := eventNamesMatch_append_iff.2 h.infix_lower
    exact ⟨hmatch, eventNamesMatch_comm.1 hmatch⟩
  refine ⟨fun other => Bool.eq_iff_iff.2 eventNamesMatch_comm, hkept, fun hall => ?_,
    fun h front back => hkept front back (h.keepsForms _ _)⟩
  by_contra hunsettled
  have hwithin (front back : String) := eventNamesMatch_append_iff.1 (hall front back).1
  rcases Text.not_infix_of_not_settled hunsettled with hnot | hnot
  · exact hnot (hwithin "" "A")
  · exact hnot (hwithin "A" "")

/-- A sigma at the end of a name keeps its form in front of a blank. -/
theorem eventNamesMatch_around_blank :
    Text.KeepsForms "Νέα ".toList "ΟΔΟΣ".toList " 2".toList ∧
      eventNamesMatch "ΟΔΟΣ" "Νέα ΟΔΟΣ 2" = true := by
  have hkeeps : Text.KeepsForms "Νέα ".toList "ΟΔΟΣ".toList " 2".toList := by decide +kernel
  exact ⟨hkeeps, ((eventNamesMatch_around "ΟΔΟΣ").2.1 "Νέα " " 2" hkeeps).1⟩

/-- In front of a letter it does not, and the longer name does not match. -/
theorem not_eventNamesMatch_letter :
    eventNamesMatch "ΟΔΟΣ" ("" ++ "ΟΔΟΣ" ++ "ΗΜΑΝΣΗ") = false ∧
      eventNamesMatch ("" ++ "ΟΔΟΣ" ++ "ΗΜΑΝΣΗ") "ΟΔΟΣ" = false := by
  decide +kernel

end ExtensionAtlas
