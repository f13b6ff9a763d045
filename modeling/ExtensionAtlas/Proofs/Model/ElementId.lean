import Mathlib
import ExtensionAtlas.Graph.Storage
import ExtensionAtlas.Proofs.Model.Vocabulary
import ExtensionAtlas.Proofs.Text.Occurrence
import ExtensionAtlas.Proofs.Text.Trimming

/-! What identifiers of elements look like, and what they tell apart. That of an object is the
trimmed name of its extension, its keyword and its number. The last two hold no slash, so all three
are known from the identifier, read from its end. That of a member adds the trimmed name of the
member, which may hold slashes; it is read from the front, which takes names of extensions without
slashes. An object whose number cannot be written has no identifier. -/

namespace ExtensionAtlas

theorem toList_elementId (segments : List String) :
    (elementId segments).toList = ['/'].intercalate
      ((segments.filter (!·.isEmpty)).map fun segment => Text.strip segment.toList) := by
  simp [elementId, String.toList_intercalate, List.map_map, Function.comp_def]

theorem isBlank_eq_false_of_isDigit {c : Char} (h : c.isDigit = true) : Text.isBlank c = false := by
  simp only [Char.isDigit, Bool.and_eq_true, decide_eq_true_eq, ge_iff_le,
    UInt32.le_iff_toNat_le] at h
  have hlow : 48 ≤ c.toNat := h.1
  have hhigh : c.toNat ≤ 57 := h.2
  simp only [Text.isBlank, Bool.or_eq_false_iff, Bool.and_eq_false_iff, decide_eq_false_iff_not,
    beq_eq_false_iff_ne]
  omega

/-- A number is written with digits and a minus. -/
theorem isDigit_of_mem_toString {n : Int} {c : Char} (h : c ∈ (toString n).toList) :
    c = '-' ∨ c.isDigit = true := by
  have hdigits {m : Nat} (hc : c ∈ m.repr.toList) : c.isDigit = true := by
    rw [Nat.toList_repr] at hc
    exact Nat.isDigit_of_mem_toDigits (by decide) (by decide) hc
  rw [Int.toString_eq_repr, Int.repr_eq_if] at h
  split at h
  · exact .inr (hdigits h)
  · rw [String.toList_append, List.mem_append] at h
    exact h.imp (fun h => by simpa using h) hdigits

theorem isBlank_of_mem_toString {n : Int} {c : Char} (h : c ∈ (toString n).toList) :
    Text.isBlank c = false := by
  rcases isDigit_of_mem_toString h with rfl | hdigit
  · decide
  · exact isBlank_eq_false_of_isDigit hdigit

theorem toString_ne_empty (n : Int) : toString n ≠ "" := by
  rw [Int.toString_eq_repr, Int.repr_eq_if, ← String.toList_inj.ne]
  split
  · rw [Nat.toList_repr]
    exact Nat.toDigits_ne_nil
  · simp

theorem toList_toString_inj {n k : Int} : (toString n).toList = (toString k).toList ↔ n = k := by
  rw [String.toList_inj, Int.toString_eq_repr, Int.toString_eq_repr, Int.repr_inj]

theorem trimmed_toString (n : Int) : Text.Trimmed (toString n).toList where
  head _ hc := isBlank_of_mem_toString (List.mem_of_mem_head? hc)
  last _ hc := isBlank_of_mem_toString (List.mem_of_mem_getLast? hc)

theorem keyword_ne_empty (kind : ObjectKind) : kind.keyword ≠ "" := by
  cases kind <;> decide

theorem trimmed_keyword (kind : ObjectKind) : Text.Trimmed kind.keyword.toList := by
  constructor <;> cases kind <;> decide

theorem slash_notMem_toString (n : Int) : '/' ∉ (toString n).toList := fun h => by
  rcases isDigit_of_mem_toString h with h | h <;> revert h <;> decide

theorem slash_notMem_keyword (kind : ObjectKind) : '/' ∉ kind.keyword.toList := by
  cases kind <;> decide

theorem toList_elementId_pair {a b : String} (ha : a ≠ "") (hb : b ≠ "") :
    (elementId [a, b]).toList = Text.strip a.toList ++ '/' :: Text.strip b.toList := by
  simp [toList_elementId, ha, hb, List.intercalate]

theorem toList_elementId_triple {a b c : String} (ha : a ≠ "") (hb : b ≠ "") (hc : c ≠ "") :
    (elementId [a, b, c]).toList =
      Text.strip a.toList ++ '/' :: (Text.strip b.toList ++ '/' :: Text.strip c.toList) := by
  simp [toList_elementId, ha, hb, hc, List.intercalate]

namespace Text

theorem writeInt_eq_ok_iff {n : Int} {number : String} :
    writeInt n = .ok number ↔ IsWritable n ∧ number = toString n := by
  rw [writeInt]
  split
  · next h => simp [h, eq_comm]
  · next h => simp [h]

theorem writeInt_of_not_isWritable {n : Int} (h : ¬IsWritable n) :
    writeInt n = .error .numeralUnwritable := if_neg h

end Text

namespace Extension

/-- What the identifier of an object is, if its number can be written. -/
def address (e : Extension) (o : Object) : String :=
  elementId [e.name, o.kind.keyword, toString o.id]

theorem objectId_of_isWritable (e : Extension) {o : Object} (h : Text.IsWritable o.id) :
    e.objectId o = .ok (e.address o) := by
  rw [objectId, Text.writeInt_eq_ok_iff.2 ⟨h, rfl⟩]
  rfl

theorem objectId_of_not_isWritable (e : Extension) {o : Object} (h : ¬Text.IsWritable o.id) :
    e.objectId o = .error .numeralUnwritable := by
  rw [objectId, Text.writeInt_of_not_isWritable h]
  rfl

theorem objectId_eq_ok_iff {e : Extension} {o : Object} {id : String} :
    e.objectId o = .ok id ↔ Text.IsWritable o.id ∧ id = e.address o := by
  by_cases h : Text.IsWritable o.id
  · rw [objectId_of_isWritable e h, Except.ok.injEq, eq_comm, and_iff_right h]
  · rw [objectId_of_not_isWritable e h]
    simp [h]

theorem toList_address {e : Extension} (h : e.name ≠ "") (o : Object) :
    (e.address o).toList = Text.strip e.name.toList ++
      '/' :: (o.kind.keyword.toList ++ '/' :: (toString o.id).toList) := by
  rw [address, toList_elementId_triple h (keyword_ne_empty _) (toString_ne_empty _),
    Text.strip_of_trimmed (trimmed_keyword _), Text.strip_of_trimmed (trimmed_toString _)]

theorem address_ne_empty {e : Extension} (h : e.name ≠ "") (o : Object) : e.address o ≠ "" := by
  rw [← String.toList_inj.ne, toList_address h]
  simp

theorem trimmed_address {e : Extension} (h : e.name ≠ "") (o : Object) :
    Text.Trimmed (e.address o).toList := by
  rw [toList_address h]
  exact (Text.trimmed_strip _).append_cons (by decide)
    ((trimmed_keyword _).append_cons (by decide) (trimmed_toString _))

/-- The identifier of an object ends with its keyword and its number, neither of which holds a
slash, so it tells which extension it belongs to even if the name of that holds slashes. -/
theorem address_eq_iff {e e' : Extension} {o o' : Object} (he : e.name ≠ "") (he' : e'.name ≠ "") :
    e.address o = e'.address o' ↔
      Text.strip e.name.toList = Text.strip e'.name.toList ∧ o.kind = o'.kind ∧ o.id = o'.id := by
  rw [← String.toList_inj, toList_address he, toList_address he']
  constructor
  · intro h
    have hassoc (name keyword number : List Char) : name ++ '/' :: (keyword ++ '/' :: number) =
        (name ++ '/' :: keyword) ++ '/' :: number := by
      simp
    rw [hassoc, hassoc] at h
    obtain ⟨h, hnumber⟩ :=
      Text.append_mark_inj_right (slash_notMem_toString o.id) (slash_notMem_toString o'.id) h
    obtain ⟨hname, hkeyword⟩ :=
      Text.append_mark_inj_right (slash_notMem_keyword _) (slash_notMem_keyword _) h
    exact ⟨hname, ObjectKind.keyword_injective (String.toList_inj.1 hkeyword),
      toList_toString_inj.1 hnumber⟩
  · rintro ⟨hname, hkind, hid⟩
    rw [hname, hkind, hid]

end Extension

namespace Graph

/-- The identifier of a member without a name is that of its object. -/
theorem memberId_empty {e : Extension} (h : e.name ≠ "") (o : Object) :
    memberId (e.address o) "" = e.address o := by
  rw [← String.toList_inj, memberId, toList_elementId]
  simp [Extension.address_ne_empty h, List.intercalate,
    Text.strip_of_trimmed (Extension.trimmed_address h o)]

/-- The identifier of a member with a name adds it behind a slash. -/
theorem toList_memberId {e : Extension} (h : e.name ≠ "") (o : Object) {name : String}
    (hname : name ≠ "") :
    (memberId (e.address o) name).toList =
      (e.address o).toList ++ '/' :: Text.strip name.toList := by
  rw [memberId, toList_elementId_pair (Extension.address_ne_empty h o) hname,
    Text.strip_of_trimmed (Extension.trimmed_address h o)]

/-- The identifier of a member is that of its object, with what its name adds. -/
theorem toList_memberId_append {e : Extension} (h : e.name ≠ "") (o : Object) (name : String) :
    (memberId (e.address o) name).toList =
      (e.address o).toList ++ if name = "" then [] else '/' :: Text.strip name.toList := by
  by_cases hempty : name = ""
  · rw [if_pos hempty, hempty, memberId_empty h, List.append_nil]
  · rw [if_neg hempty, toList_memberId h o hempty]

/-- Identifiers of members tell apart their objects and, but for the blanks around them, their
names, as long as the names of extensions hold no slash. -/
theorem memberId_eq_iff {e e' : Extension} {o o' : Object} {name name' : String} (he : e.name ≠ "")
    (he' : e'.name ≠ "") (hslash : '/' ∉ e.name.toList) (hslash' : '/' ∉ e'.name.toList) :
    memberId (e.address o) name = memberId (e'.address o') name' ↔ e.address o = e'.address o' ∧
      (name = "" ↔ name' = "") ∧ Text.strip name.toList = Text.strip name'.toList := by
  rw [← String.toList_inj, toList_memberId_append he, toList_memberId_append he']
  constructor
  · intro h
    rw [Extension.toList_address he, Extension.toList_address he'] at h
    simp only [List.append_assoc, List.cons_append] at h
    obtain ⟨hextension, h⟩ := Text.append_mark_inj (mt Text.mem_of_mem_strip hslash)
      (mt Text.mem_of_mem_strip hslash') h
    obtain ⟨hkeyword, h⟩ :=
      Text.append_mark_inj (slash_notMem_keyword _) (slash_notMem_keyword _) h
    have hkind := ObjectKind.keyword_injective (String.toList_inj.1 hkeyword)
    -- a name may hold slashes, but the number in front of it ends at the first one
    have hnumber := slash_notMem_toString o.id
    have hnumber' := slash_notMem_toString o'.id
    rw [Extension.address_eq_iff he he', ← toList_toString_inj]
    by_cases hempty : name = "" <;> by_cases hempty' : name' = ""
    · simp only [hempty, hempty', if_true, List.append_nil] at h ⊢
      exact ⟨⟨hextension, hkind, h⟩, trivial, trivial⟩
    · rw [if_pos hempty, if_neg hempty', List.append_nil] at h
      exact absurd (h ▸ List.mem_append_right _ List.mem_cons_self) hnumber
    · rw [if_neg hempty, if_pos hempty', List.append_nil] at h
      exact absurd (h ▸ List.mem_append_right _ List.mem_cons_self) hnumber'
    · rw [if_neg hempty, if_neg hempty'] at h
      obtain ⟨hid, hname⟩ := Text.append_mark_inj hnumber hnumber' h
      exact ⟨⟨hextension, hkind, hid⟩, iff_of_false hempty hempty', hname⟩
  · rintro ⟨hobject, hempty, hname⟩
    rw [hobject, hname]
    simp only [hempty]

/-- Names without blanks around them are told apart as well. -/
theorem eq_of_memberId_eq {e e' : Extension} {o o' : Object} {name name' : String}
    (he : e.name ≠ "") (he' : e'.name ≠ "") (hslash : '/' ∉ e.name.toList)
    (hslash' : '/' ∉ e'.name.toList) (hname : Text.Trimmed name.toList)
    (hname' : Text.Trimmed name'.toList)
    (h : memberId (e.address o) name = memberId (e'.address o') name') :
    e.address o = e'.address o' ∧ name = name' := by
  obtain ⟨hobject, -, hstrip⟩ := (memberId_eq_iff he he' hslash hslash').1 h
  rw [Text.strip_of_trimmed hname, Text.strip_of_trimmed hname'] at hstrip
  exact ⟨hobject, String.toList_inj.1 hstrip⟩

/-- An object has an identifier exactly if its number can be written. Objects have one identifier
exactly if their extensions have one trimmed name and they are of one kind and number, whatever the
names hold. Where the names of the extensions hold no slash, members have one identifier exactly if
their objects do and neither has a name, or both have one and these are the same but for the blanks
around them. -/
theorem objectId_eq_iff_and_memberId_eq_iff {e e' : Extension} (he : e.name ≠ "")
    (he' : e'.name ≠ "") (o o' : Object) :
    ((∃ id, e.objectId o = .ok id) ↔ Text.IsWritable o.id) ∧
    ∀ id id', e.objectId o = .ok id → e'.objectId o' = .ok id' →
      (id = id' ↔
        Text.strip e.name.toList = Text.strip e'.name.toList ∧ o.kind = o'.kind ∧ o.id = o'.id) ∧
      ('/' ∉ e.name.toList → '/' ∉ e'.name.toList → ∀ name name' : String,
        memberId id name = memberId id' name' ↔ id = id' ∧
          (name = "" ∧ name' = "" ∨
            name ≠ "" ∧ name' ≠ "" ∧ Text.strip name.toList = Text.strip name'.toList)) := by
  refine ⟨?_, fun id id' hid hid' => ?_⟩
  · simp only [Extension.objectId_eq_ok_iff, exists_and_left, exists_eq, and_true]
  obtain ⟨-, rfl⟩ := Extension.objectId_eq_ok_iff.1 hid
  obtain ⟨-, rfl⟩ := Extension.objectId_eq_ok_iff.1 hid'
  refine ⟨Extension.address_eq_iff he he', fun hslash hslash' name name' => ?_⟩
  rw [memberId_eq_iff he he' hslash hslash']
  refine and_congr_right fun _ => ?_
  by_cases hempty : name = "" <;> by_cases hempty' : name' = "" <;> simp [hempty, hempty']

/-- A member with a blank name is told apart from its object, which a member without one is not. -/
theorem memberId_ne_of_blank :
    let sales : Extension := { name := "Sales ", path := "" }
    let others : Extension := { name := "\tSales", path := "" }
    let o : Object := { kind := .page, id := -7, name := "Due" }
    sales.name ≠ "" ∧ others.name ≠ "" ∧ '/' ∉ sales.name.toList ∧ '/' ∉ others.name.toList ∧
      ∃ id id', sales.objectId o = .ok id ∧ others.objectId o = .ok id' ∧ id = id' ∧
        memberId id " Due/Date" = memberId id' "Due/Date " ∧
        memberId id "" ≠ memberId id' " " := by
  intro sales others o
  have hslash : '/' ∉ sales.name.toList := by decide
  have hslash' : '/' ∉ others.name.toList := by decide
  have hname : sales.name ≠ "" := by decide
  have hname' : others.name ≠ "" := by decide
  have hid := sales.objectId_of_isWritable (o := o) (by decide)
  have hid' := others.objectId_of_isWritable (o := o) (by decide)
  obtain ⟨hobject, hmember⟩ :=
    (objectId_eq_iff_and_memberId_eq_iff hname hname' o o).2 _ _ hid hid'
  replace hmember := hmember hslash hslash'
  have hsame : sales.address o = others.address o := hobject.2 ⟨by decide, rfl, rfl⟩
  refine ⟨hname, hname', hslash, hslash', _, _, hid, hid', hsame, ?_, ?_⟩
  · exact (hmember _ _).2 ⟨hsame, .inr ⟨by decide, by decide, by decide⟩⟩
  · exact fun heq => absurd ((hmember _ _).1 heq).2 (by decide)

end Graph

end ExtensionAtlas
