import ExtensionAtlas.Proofs.Text.OddLetters
import ExtensionAtlas.Source.Parameter

/-! Parameter lists piece by piece. A list is read as what stands between its semicolons is, and a
piece is read as the parameter that it was written for: `var` marks it if a blank stands behind the
word, the first colon ends the name, and the rest is the type. What keeps the parts of a parameter
apart is said of the parameter, and what its text may look like is said beside it. -/

namespace ExtensionAtlas.Parameter

open Text (isBlank Trimmed)

/-- Whether a text starts with `var`, in any letter case, and a blank. -/
def Marked (text : List Char) : Prop :=
  ∃ word blank rest, text = word ++ blank :: rest ∧ word.map Char.toLower = "var".toList ∧
    isBlank blank = true

theorem agreesUpToCase_var {wanted c : Char} (h : wanted ∈ "var".toList) :
    Text.agreesUpToCase wanted c = true ↔ c.toLower = wanted := by
  have hletters : ∀ wanted ∈ "var".toList, wanted.isLower = true ∧ wanted ≠ 'i' ∧ wanted ≠ 'k' ∧
      wanted ≠ 's' := by
    decide
  obtain ⟨hlower, hi, hk, hs⟩ := hletters wanted h
  exact Text.agreesUpToCase_iff_toLower hlower hi hk hs

theorem afterVar?_append {word : List Char} {blank : Char}
    (hword : word.map Char.toLower = "var".toList) (hblank : isBlank blank = true)
    (rest : List Char) : afterVar? (word ++ blank :: rest) = some (Text.strip rest) := by
  obtain ⟨v, a, r, rfl⟩ : ∃ v a r, word = [v, a, r] := by
    have hlength : word.length = 3 := by
      rw [← List.length_map Char.toLower, hword]
      rfl
    exact List.length_eq_three.1 hlength
  obtain ⟨hv, ha, hr⟩ : v.toLower = 'v' ∧ a.toLower = 'a' ∧ r.toLower = 'r' := by
    simpa using hword
  change afterVar? (v :: a :: r :: blank :: rest) = _
  rw [afterVar?, (agreesUpToCase_var (by decide)).2 hv, (agreesUpToCase_var (by decide)).2 ha,
    (agreesUpToCase_var (by decide)).2 hr, hblank, Text.strip_cons_of_isBlank hblank]
  rfl

theorem afterVar?_eq_none {text : List Char} (h : ¬Marked text) : afterVar? text = none := by
  rw [afterVar?.eq_def]
  split
  · next v a r blank rest =>
    rw [if_neg]
    intro hvar
    simp only [Bool.and_eq_true] at hvar
    obtain ⟨⟨⟨hv, ha⟩, hr⟩, hblank⟩ := hvar
    refine h ⟨[v, a, r], blank, rest, rfl, ?_, hblank⟩
    rw [List.map_cons, List.map_cons, List.map_cons, (agreesUpToCase_var (by decide)).1 hv,
      (agreesUpToCase_var (by decide)).1 ha, (agreesUpToCase_var (by decide)).1 hr]
    rfl
  · rfl

instance (text : List Char) : Decidable (Marked text) :=
  decidable_of_iff ((afterVar? text).isSome = true) <| by
    constructor
    · intro h
      by_contra hmarked
      rw [afterVar?_eq_none hmarked] at h
      cases h
    · rintro ⟨word, blank, rest, rfl, hword, hblank⟩
      rw [afterVar?_append hword hblank]
      rfl

/-- A mark in front of a colon does not need the colon. -/
theorem Marked.of_append_colon {name rest : List Char} (h : Marked (name ++ ':' :: rest)) :
    Marked name := by
  obtain ⟨word, blank, rest', htext, hword, hblank⟩ := h
  have hcolon : ':' ∉ word ++ [blank] := by
    intro hmem
    rcases List.mem_append.1 hmem with hmem | hmem
    · have hletter : ':' ∈ word.map Char.toLower := List.mem_map.2 ⟨':', hmem, rfl⟩
      rw [hword] at hletter
      exact absurd hletter (by decide)
    · rw [← List.mem_singleton.1 hmem] at hblank
      cases hblank
  have hcut : (word ++ [blank]) ++ rest' = name ++ ':' :: rest := by
    rw [htext, List.append_assoc]
    rfl
  obtain ⟨middle, hname, -⟩ := Text.exists_of_append_eq_append_cons hcolon hcut
  exact ⟨word, blank, middle, by rw [hname, List.append_assoc]; rfl, hword, hblank⟩

/-- What keeps the parts of a parameter apart in a list: its name has no mark of its own, its type
is there, and neither holds what separates them from what is around them. -/
@[mk_iff]
structure Separable (p : Parameter) : Prop where
  name_trimmed : Trimmed p.name.toList
  semicolon_notMem_name : ';' ∉ p.name.toList
  colon_notMem_name : ':' ∉ p.name.toList
  head_unquoted : ∀ c ∈ p.name.toList.head?, c ≠ '\x22'
  last_unquoted : ∀ c ∈ p.name.toList.getLast?, c ≠ '\x22'
  unmarked : p.isVar = false → ¬Marked p.name.toList
  type_ne_nil : p.type.toList ≠ []
  type_trimmed : Trimmed p.type.toList
  semicolon_notMem_type : ';' ∉ p.type.toList

instance (p : Parameter) : Decidable p.Separable := decidable_of_iff' _ (separable_iff p)

/-- The name and the type of a parameter with a colon between them. -/
def typed (p : Parameter) : List Char := p.name.toList ++ ':' :: ' ' :: p.type.toList

/-- The texts that write a parameter: its name and its type, behind `var` in any letter case if it
is one. -/
inductive Writes (p : Parameter) : List Char → Prop
  | plain (h : p.isVar = false) : Writes p p.typed
  | marked (h : p.isVar = true) {word : List Char} (hword : word.map Char.toLower = "var".toList) :
      Writes p (word ++ ' ' :: p.typed)

section Piece

variable {p : Parameter} {piece : List Char}

theorem trimmed_typed (h : p.Separable) : Trimmed p.typed := by
  have hnil : Trimmed [] := ⟨by simp, by simp⟩
  have hmiddle : Trimmed (p.name.toList ++ [':']) := h.name_trimmed.append_cons (by decide) hnil
  have htyped := hmiddle.surround (by simp) h.type_trimmed h.type_ne_nil [' ']
  rwa [List.append_assoc] at htyped

theorem semicolon_notMem_typed (h : p.Separable) : ';' ∉ p.typed := by
  simp [typed, h.semicolon_notMem_name, h.semicolon_notMem_type]

/-- The word that marks a parameter has letters only. -/
theorem isAlpha_of_mem_mark {word : List Char} (hword : word.map Char.toLower = "var".toList) :
    ∀ c ∈ word, c.isAlpha = true := by
  intro c hc
  have hsmall : Text.Small "var".toList := by decide
  exact Text.isAlpha_of_toLower rfl (hsmall _ (hword ▸ List.mem_map_of_mem hc))

namespace Writes

theorem ne_nil (hw : p.Writes piece) : piece ≠ [] := by
  cases hw with
  | plain _ => exact List.append_ne_nil_of_right_ne_nil _ (List.cons_ne_nil _ _)
  | marked _ _ => exact List.append_ne_nil_of_right_ne_nil _ (List.cons_ne_nil _ _)

theorem semicolon_notMem (h : p.Separable) (hw : p.Writes piece) : ';' ∉ piece := by
  cases hw with
  | plain _ => exact semicolon_notMem_typed h
  | marked _ hword =>
      have hmark : ';' ∉ _ := Text.not_mem_of_forall (isAlpha_of_mem_mark hword) (by decide)
      simp [hmark, semicolon_notMem_typed h]

theorem trimmed (h : p.Separable) (hw : p.Writes piece) : Trimmed piece := by
  cases hw with
  | plain _ => exact trimmed_typed h
  | @marked _ word hword =>
      have hblank : ∀ c ∈ word, isBlank c = false := fun c hc =>
        Text.isBlank_of_isAlpha (isAlpha_of_mem_mark hword c hc)
      have hne : word ≠ [] := by
        rintro rfl
        cases hword
      have hmark : Trimmed word :=
        ⟨fun c hc => hblank c (List.mem_of_mem_head? hc),
          fun c hc => hblank c (List.mem_of_mem_getLast? hc)⟩
      exact hmark.surround hne (trimmed_typed h)
        (List.append_ne_nil_of_right_ne_nil _ (List.cons_ne_nil _ _)) [' ']

/-- A text that writes a parameter is seen to be marked exactly if the parameter is, and the rest is
its name and its type. -/
theorem afterVar?_eq (h : p.Separable) (hw : p.Writes piece) :
    (afterVar? piece).isSome = p.isVar ∧ (afterVar? piece).getD piece = p.typed := by
  cases hw with
  | plain hvar =>
      have hnone : afterVar? p.typed = none :=
        afterVar?_eq_none fun hmarked => h.unmarked hvar hmarked.of_append_colon
      rw [hnone, hvar]
      exact ⟨rfl, rfl⟩
  | marked hvar hword =>
      rw [afterVar?_append hword (by decide), Text.strip_of_trimmed (trimmed_typed h), hvar]
      exact ⟨rfl, rfl⟩

/-- A text that writes a parameter is read as that parameter. -/
theorem ofPiece_eq (h : p.Separable) (hw : p.Writes piece) : ofPiece piece = p := by
  obtain ⟨hvar, htyped⟩ := hw.afterVar?_eq h
  have hcut : Text.cutAt ':' p.typed = (p.name.toList, some (' ' :: p.type.toList)) :=
    Text.cutAt_append_cons h.colon_notMem_name _
  have hname : Text.trimBoth (· == '\x22') (Text.strip p.name.toList) = p.name.toList := by
    rw [Text.strip_of_trimmed h.name_trimmed]
    exact Text.trimBoth_of_ends (fun c hc => beq_eq_false_iff_ne.2 (h.head_unquoted c hc))
      fun c hc => beq_eq_false_iff_ne.2 (h.last_unquoted c hc)
  have htype : typeOf (some (' ' :: p.type.toList)) = p.type := by
    have hstrip : Text.strip ((some (' ' :: p.type.toList)).getD []) = p.type.toList := by
      rw [Option.getD_some, Text.strip_cons_of_isBlank (by decide),
        Text.strip_of_trimmed h.type_trimmed]
    rw [typeOf, hstrip]
    split
    · next hnil => exact absurd hnil h.type_ne_nil
    · exact String.ofList_toList
  calc ofPiece piece
      = ⟨String.ofList (Text.trimBoth (· == '\x22') (Text.strip p.name.toList)),
          typeOf (some (' ' :: p.type.toList)), (afterVar? piece).isSome⟩ := by
        rw [ofPiece, htyped, hcut]
    _ = p := by rw [hname, htype, hvar, String.ofList_toList]

theorem scan_eq (h : p.Separable) (hw : p.Writes piece) : scan piece = [p] := by
  have hempty : piece.isEmpty = false := by
    rw [List.isEmpty_eq_false_iff]
    exact hw.ne_nil
  rw [scan, Text.splitAt_of_not_mem (hw.semicolon_notMem h), List.map_singleton,
    Text.strip_of_trimmed (hw.trimmed h), List.filterMap_cons, hempty, List.filterMap_nil]
  exact congrArg (· :: []) (hw.ofPiece_eq h)

end Writes

end Piece

/-- A list is read piece by piece. -/
theorem scan_append (front back : List Char) :
    scan (front ++ ';' :: back) = scan front ++ scan back := by
  rw [scan, Text.splitAt_append, List.map_append, List.filterMap_append]
  rfl

/-- Blanks in front of a list do not count. -/
theorem scan_cons_of_isBlank {blank : Char} (h : isBlank blank = true) (text : List Char) :
    scan (blank :: text) = scan text := by
  have hblank : blank ≠ ';' := by
    rintro rfl
    cases h
  obtain ⟨first, pieces, htext, hsplit⟩ := Text.exists_splitAt_cons ';' blank text
  rw [scan, scan, hsplit, htext, if_neg hblank, List.map_cons, List.map_cons,
    Text.strip_cons_of_isBlank h]

/-- A list that writes some parameters is read as these. -/
theorem scan_intercalate {ps : List Parameter} {pieces : List (List Char)}
    (hwrites : List.Forall₂ Writes ps pieces) (h : ∀ p ∈ ps, p.Separable) :
    scan ([';', ' '].intercalate pieces) = ps := by
  induction hwrites with
  | nil => rfl
  | @cons p piece ps pieces hw hwrites ih =>
      obtain ⟨hp, hps⟩ := List.forall_mem_cons.1 h
      cases pieces with
      | nil =>
          cases hwrites
          rw [List.intercalate_singleton, hw.scan_eq hp]
      | cons next rest =>
          have hlist : [';', ' '].intercalate (piece :: next :: rest) =
              piece ++ ';' :: ' ' :: [';', ' '].intercalate (next :: rest) := by
            rw [List.intercalate_cons_cons, List.append_assoc]
            rfl
          rw [hlist, scan_append, scan_cons_of_isBlank (by decide), hw.scan_eq hp, ih hps]
          rfl

end ExtensionAtlas.Parameter
