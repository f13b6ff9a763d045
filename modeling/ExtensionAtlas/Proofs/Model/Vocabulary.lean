import ExtensionAtlas.Model.Vocabulary
import Mathlib.Logic.Function.Basic

/-! The words of the vocabularies are read back, so different values have different words. -/

namespace ExtensionAtlas

theorem word_injective {α : Type} {word : α → String} {read? : String → Option α}
    (h : ∀ a, read? (word a) = some a) : word.Injective := by
  intro a b heq
  have hread := congrArg read? heq
  rw [h, h] at hread
  exact Option.some.inj hread

namespace ObjectKind

theorem ofKeyword?_keyword (kind : ObjectKind) : ofKeyword? kind.keyword = some kind := by
  cases kind <;> decide

theorem keyword_injective : keyword.Injective :=
  word_injective ofKeyword?_keyword

end ObjectKind

theorem EventRole.ofLabel?_label (role : EventRole) : ofLabel? role.label = some role := by
  cases role <;> decide

theorem EventRole.label_injective : label.Injective :=
  word_injective ofLabel?_label

theorem CalcMethod.ofLabel?_label (method : CalcMethod) : ofLabel? method.label = some method := by
  cases method <;> decide

theorem CalcMethod.label_injective : label.Injective :=
  word_injective ofLabel?_label

theorem IntegrationKind.ofLabel?_label (kind : IntegrationKind) :
    ofLabel? kind.label = some kind := by
  cases kind <;> decide

theorem IntegrationKind.label_injective : label.Injective :=
  word_injective ofLabel?_label

end ExtensionAtlas
