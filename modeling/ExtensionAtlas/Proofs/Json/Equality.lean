import ExtensionAtlas.Json.Basic

/-! Equality of JSON values as they are written, which can be decided part by part. -/

namespace ExtensionAtlas.Json

mutual

/-- Whether two values are written alike. -/
def alike : Json → Json → Bool
  | .null, .null | .brokenString, .brokenString => true
  | .bool a, .bool b => a == b
  | .int a, .int b => a == b
  | .decimal negative digits exponent, .decimal negative' digits' exponent' =>
    negative == negative' && digits == digits' && exponent == exponent'
  | .special a, .special b => a == b
  | .string a, .string b => a == b
  | .array items, .array others => alikeItems items others
  | .object members, .object others => alikeMembers members others
  | _, _ => false

def alikeItems : List Json → List Json → Bool
  | [], [] => true
  | item :: items, other :: others => alike item other && alikeItems items others
  | _, _ => false

def alikeMembers : List (String × Json) → List (String × Json) → Bool
  | [], [] => true
  | (key, value) :: members, (key', value') :: others =>
    key == key' && alike value value' && alikeMembers members others
  | _, _ => false

end

mutual

theorem alike_iff_eq (a b : Json) : alike a b = true ↔ a = b := by
  cases a with
  | array items =>
      cases b with
      | array others => simp [alike, alikeItems_iff_eq items others]
      | _ => simp [alike]
  | object members =>
      cases b with
      | object others => simp [alike, alikeMembers_iff_eq members others]
      | _ => simp [alike]
  | _ => cases b <;> simp [alike, and_assoc]

theorem alikeItems_iff_eq (items others : List Json) :
    alikeItems items others = true ↔ items = others := by
  cases items with
  | nil => cases others <;> simp [alikeItems]
  | cons item items =>
      cases others with
      | nil => simp [alikeItems]
      | cons other others =>
          simp [alikeItems, alike_iff_eq item other, alikeItems_iff_eq items others]

theorem alikeMembers_iff_eq (members others : List (String × Json)) :
    alikeMembers members others = true ↔ members = others := by
  cases members with
  | nil => cases others <;> simp [alikeMembers]
  | cons member members =>
      cases others with
      | nil => simp [alikeMembers]
      | cons other others =>
          simp [alikeMembers, alike_iff_eq member.2 other.2, alikeMembers_iff_eq members others,
            Prod.ext_iff]

end

instance : DecidableEq Json := fun a b => decidable_of_iff _ (alike_iff_eq a b)

end ExtensionAtlas.Json
