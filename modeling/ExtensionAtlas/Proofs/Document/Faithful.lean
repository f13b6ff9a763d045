import ExtensionAtlas.Document.Export
import ExtensionAtlas.Json.Value
import ExtensionAtlas.Proofs.Model.Vocabulary

/-! What documents keep of the records that they show. Two documents are compared as values are,
member by member and item by item. As every record shows all of its parts under keys of their own,
the documents of two records are the same exactly if the records are equal; leaving out the source
text of an extension leaves out nothing else. -/

namespace ExtensionAtlas

namespace Json

/-- Members are compared key by key, wherever other members stand in front of them. -/
theorem sameMembers_append {members others front : List (String × Json)}
    (hkeys : members.map Prod.fst = others.map Prod.fst) (hnodup : (members.map Prod.fst).Nodup)
    (hfront : ∀ key ∈ members.map Prod.fst, front.lookup key = none) :
    sameMembers members (front ++ others) =
      sameItems (members.map Prod.snd) (others.map Prod.snd) := by
  induction members generalizing others front with
  | nil =>
      obtain rfl := List.map_eq_nil_iff.1 hkeys.symm
      rfl
  | cons member members ih =>
      obtain ⟨key, value⟩ := member
      obtain _ | ⟨⟨key', other⟩, others⟩ := others
      · cases hkeys
      · obtain ⟨rfl, hrest⟩ := List.cons.inj hkeys
        obtain ⟨hfresh, hnodup⟩ := List.nodup_cons.1 hnodup
        have hlookup : (front ++ (key, other) :: others).lookup key = some other := by
          rw [List.lookup_append, hfront key (.head _), Option.none_or, List.lookup_cons_self]
        have hmembers : sameMembers members (front ++ (key, other) :: others) =
            sameItems (members.map Prod.snd) (others.map Prod.snd) := by
          rw [List.append_cons]
          refine ih hrest hnodup fun other hother => ?_
          have hne : (other == key) = false := beq_false_of_ne (ne_of_mem_of_not_mem hother hfresh)
          rw [List.lookup_append, hfront other (.tail _ hother), List.lookup_cons, hne]
          rfl
        rw [sameMembers, hlookup, hmembers]
        rfl

/-- Objects with the same keys are compared value by value. -/
theorem same_object {members others : List (String × Json)} (keys : List String)
    (hmembers : members.map Prod.fst = keys) (hothers : others.map Prod.fst = keys)
    (hnodup : keys.Nodup) :
    same (.object members) (.object others) =
      sameItems (members.map Prod.snd) (others.map Prod.snd) := by
  have hkeys := hmembers.trans hothers.symm
  have hlength : members.length = others.length := by
    simpa only [List.length_map] using congrArg List.length hkeys
  rw [same, hlength, beq_self_eq_true, Bool.true_and, ← List.nil_append others]
  exact sameMembers_append hkeys (hmembers ▸ hnodup) fun _ _ => rfl

/-- Documents that are the same exactly for equal values. -/
abbrev Faithful {α : Type} (document : α → Json) : Prop :=
  ∀ a b, (document a).same (document b) = true ↔ a = b

namespace Faithful

variable {α : Type} {document : α → Json}

theorem eq_iff (h : Faithful document) (a b : α) : document a = document b ↔ a = b := by
  refine ⟨fun heq => (h a b).1 ?_, congrArg document⟩
  rw [← heq]
  exact (h a a).2 rfl

theorem array (h : Faithful document) : Faithful fun xs : List α => .array (xs.map document) := by
  intro xs ys
  rw [same]
  induction xs generalizing ys with
  | nil => cases ys <;> simp [sameItems]
  | cons x xs ih =>
      cases ys with
      | nil => simp [sameItems]
      | cons y ys => simp [sameItems, h x y, ih ys]

end Faithful

@[simp] theorem faithful_string : Faithful string := by
  intro s t
  rw [same, beq_iff_eq]

@[simp] theorem faithful_int : Faithful int := by
  intro m n
  simp [same, quantity?, Quantity.same, Int.pow]

@[simp] theorem faithful_bool : Faithful bool := by
  intro a b
  cases a <;> cases b <;> decide

/-- A text that is not there is shown as null, which is no text, not even an empty one. -/
@[simp] theorem faithful_ofText? : Faithful ofText? := by
  intro s t
  cases s <;> cases t <;> simp [ofText?, same, quantity?]

@[simp] theorem faithful_ofTexts : Faithful ofTexts :=
  faithful_string.array

end Json

open Json (Faithful faithful_string same_object sameItems)

theorem Parameter.faithful_document : Faithful document := by
  rintro ⟨_, _, _⟩ ⟨_, _, _⟩
  rw [document, document, same_object ["name", "type", "isVar"] rfl rfl (by decide)]
  simp [sameItems]

theorem Procedure.faithful_document : Faithful document := by
  rintro ⟨_, _, _, _, _, _⟩ ⟨_, _, _, _, _, _⟩
  rw [document, document, same_object
    ["name", "parameters", "returnType", "isEvent", "eventType", "isLocal"] rfl rfl (by decide)]
  simp [sameItems, Parameter.faithful_document.array,
    (Option.map_injective EventRole.label_injective).eq_iff]

theorem Field.faithful_document : Faithful document := by
  rintro ⟨_, _, _, _, _⟩ ⟨_, _, _, _, _⟩
  rw [document, document, same_object
    ["id", "name", "type", "isFlowfield", "calcFormula"] rfl rfl (by decide)]
  simp [sameItems]

theorem Object.faithful_document : Faithful document := by
  rintro ⟨_, _, _, _, _, _⟩ ⟨_, _, _, _, _, _⟩
  rw [document, document, same_object
    ["type", "id", "name", "extends", "fields", "procedures"] rfl rfl (by decide)]
  simp [sameItems, ObjectKind.keyword_injective.eq_iff, Field.faithful_document.array,
    Procedure.faithful_document.array]

theorem Event.faithful_document : Faithful document := by
  rintro ⟨_, _, _, _, _⟩ ⟨_, _, _, _, _⟩
  rw [document, document, same_object
    ["name", "eventType", "objectType", "objectName", "parameters"] rfl rfl (by decide)]
  simp [sameItems, (Option.map_injective EventRole.label_injective).eq_iff,
    ObjectKind.keyword_injective.eq_iff, Parameter.faithful_document.array]

theorem DerivedField.faithful_document : Faithful document := by
  rintro ⟨_, _, _, _, _⟩ ⟨_, _, _, _, _⟩
  rw [document, document, same_object
    ["name", "tableName", "calcMethod", "sourceTable", "sourceField"] rfl rfl (by decide)]
  simp [sameItems, CalcMethod.label_injective.eq_iff]

theorem Integration.faithful_document (count : Int) : Faithful (document count) := by
  rintro ⟨_, _, _, _⟩ ⟨_, _, _, _⟩
  rw [document, document, same_object
    ["source", "target", "type", "description", "count"] rfl rfl (by decide)]
  simp [sameItems, IntegrationKind.label_injective.eq_iff]

namespace Extension

/-- The structure of an extension is all of it but its source text. -/
theorem sameStructure_iff (a b : Extension) :
    a.sameStructure b = true ↔ { a with source := b.source } = b := by
  obtain ⟨_, _, _, _, _, _, _⟩ := a
  obtain ⟨_, _, _, _, _, _, _⟩ := b
  simp [sameStructure]

theorem same_shownSource (withSource : Bool) (source source' : String) :
    (if withSource then Json.string source else .null).same
        (if withSource then .string source' else .null) = true ↔
      (withSource = true → source = source') := by
  cases withSource
  · simp [Json.same]
  · simp

/-- The documents of extensions show their structure, and their source texts if they are asked for.
-/
theorem same_document (withSource : Bool) (a b : Extension) :
    (a.document withSource).same (b.document withSource) = true ↔
      a.sameStructure b = true ∧ (withSource = true → a.source = b.source) := by
  rw [sameStructure_iff]
  obtain ⟨_, _, _, _, _, _, _⟩ := a
  obtain ⟨_, _, _, _, _, _, _⟩ := b
  rw [document, document, same_object
    ["name", "filePath", "objects", "events", "flowfields", "dependencies", "sourceCode"]
    rfl rfl (by decide)]
  simp [sameItems, same_shownSource, and_assoc, Object.faithful_document.array,
    Event.faithful_document.array, DerivedField.faithful_document.array]

theorem faithful_document : Faithful (document true) := by
  intro a b
  rw [same_document, sameStructure_iff]
  constructor
  · rintro ⟨hstructure, hsource⟩
    rw [← hsource rfl] at hstructure
    exact hstructure
  · rintro rfl
    exact ⟨rfl, fun _ => rfl⟩

/-- Without their source texts, documents that are the same are written alike. -/
theorem document_false_eq_iff (a b : Extension) :
    a.document false = b.document false ↔ a.sameStructure b = true := by
  constructor
  · refine fun heq => ((same_document false a b).1 ?_).1
    rw [← heq]
    exact (same_document false a a).2 ⟨(sameStructure_iff a a).2 rfl, fun _ => rfl⟩
  · intro hstructure
    have hdocument : a.document false = { a with source := b.source }.document false := rfl
    rw [hdocument, (sameStructure_iff a b).1 hstructure]

end Extension

theorem Analysis.faithful_document : Faithful (document true) := by
  rintro ⟨_, _, _, _⟩ ⟨_, _, _, _⟩
  rw [document, document, analysisDocument, analysisDocument, same_object
    ["extensions", "dependencies", "crossModuleIntegrations", "failedPaths"] rfl rfl (by decide)]
  simp [sameItems, Extension.faithful_document.array, (Integration.faithful_document 1).array,
    and_left_comm]

/-- The documents of extensions and analyses lose nothing but the source texts that are left out:
whether they are compared as values or as they are written, they are equal exactly for extensions of
one structure and, with the source texts, for equal extensions and equal analyses. -/
theorem document_lossless (a b : Extension) (x y : Analysis) :
    ((a.document false).same (b.document false) = true ↔ a.sameStructure b = true) ∧
      (a.document false = b.document false ↔ a.sameStructure b = true) ∧
      (a.sameStructure b = true ↔ { a with source := b.source } = b) ∧
      ((a.document true).same (b.document true) = true ↔ a = b) ∧
      (a.document true = b.document true ↔ a = b) ∧
      ((x.document true).same (y.document true) = true ↔ x = y) ∧
      (x.document true = y.document true ↔ x = y) := by
  refine ⟨?_, a.document_false_eq_iff b, a.sameStructure_iff b, Extension.faithful_document a b,
    Extension.faithful_document.eq_iff a b, Analysis.faithful_document x y,
    Analysis.faithful_document.eq_iff x y⟩
  rw [Extension.same_document]
  simp

end ExtensionAtlas
