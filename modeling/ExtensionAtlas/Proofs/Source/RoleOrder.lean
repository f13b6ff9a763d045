import ExtensionAtlas.Proofs.Source.EventAttributes

/-! How the role of a procedure depends on the text around it. An attribute and what stands behind
it up to the name are found wherever they stand, so more text in front of a body or behind it takes
no attribute away, and neither does a shorter name: whatever starts with a name starts with each
start of it. More text may bring a role, or make a subscriber of a publisher, but nothing else. -/

namespace ExtensionAtlas

open Pattern

namespace EventRole

/-- How much a role counts: that of a subscriber the most, and none the least. -/
def rank : Option EventRole → Nat
  | none => 0
  | some publisher => 1
  | some subscriber => 2

/-- What an attribute stands in front of, with more text around it and less of the name asked for.
-/
theorem occursIn_attributePattern_around {role : EventRole} {body name : List Char}
    (front rest more : List Char)
    (h : (attributePattern role (name ++ more)).occursIn body = true) :
    (attributePattern role name).occursIn (front ++ body ++ rest) = true := by
  obtain ⟨before, stretch, behind, rfl, hdescribes⟩ := occursIn_iff.1 h
  obtain ⟨gap, word, arguments, gap', lead, mark, letters, rfl, hgap, hword, harguments, hgap',
    hlead, hmark, hletters⟩ := Source.describes_attributePattern.1 hdescribes
  obtain ⟨start, tail, rfl, hstart⟩ := Text.Agrees.exists_start hletters
  refine occursIn_iff.2 ⟨front ++ before,
    '[' :: (gap ++ (word ++ (arguments ++ ']' :: (gap' ++ (lead ++ (mark ++ start)))))),
    tail ++ (behind ++ rest), by simp, ?_⟩
  exact Source.describes_attributePattern.2 ⟨gap, word, arguments, gap', lead, mark, start, rfl,
    hgap, hword, harguments, hgap', hlead, hmark, hstart⟩

/-- A role that counts less is found only where no attribute gives one that counts more. -/
theorem rank_find?_le_of_occursIn {body body' name name' : List Char}
    (h : ∀ role, (attributePattern role name).occursIn body = true →
      (attributePattern role name').occursIn body' = true) :
    rank (find? body name) ≤ rank (find? body' name') := by
  rw [find?, find?]
  by_cases hsubscriber : (attributePattern subscriber name').occursIn body' = true
  · rw [if_pos hsubscriber]
    split_ifs <;> decide
  · rw [if_neg (mt (h subscriber) hsubscriber), if_neg hsubscriber]
    by_cases hpublisher : (attributePattern publisher name').occursIn body' = true
    · rw [if_pos hpublisher]
      split_ifs <;> decide
    · rw [if_neg (mt (h publisher) hpublisher), if_neg hpublisher]

/-- More text around a body gives a name no role that counts less, and neither does leaving out the
end of the name. -/
theorem rank_find?_le (front body rest name more : List Char) :
    rank (find? body name) ≤ rank (find? (front ++ body ++ rest) name) ∧
      rank (find? body (name ++ more)) ≤ rank (find? body name) := by
  constructor
  · refine rank_find?_le_of_occursIn fun role h => ?_
    exact occursIn_attributePattern_around front rest [] (by rwa [List.append_nil])
  · refine rank_find?_le_of_occursIn fun role h => ?_
    have hbody := occursIn_attributePattern_around [] [] more h
    rwa [List.nil_append, List.append_nil] at hbody

/-- A publisher becomes a subscriber by a text in front of it that goes on with a name of which its
own is the start. -/
example :
    let body := "[BusinessEvent()] procedure Post".toList
    let front := "[EventSubscriber()] procedure PostAll; ".toList
    find? body "Post".toList = some publisher ∧
      find? (front ++ body) "Post".toList = some subscriber ∧
      find? (front ++ body) "PostAll".toList = some subscriber := by
  decide +kernel

end EventRole

end ExtensionAtlas
