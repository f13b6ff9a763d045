import ExtensionAtlas.Proofs.Source.Declarations
import ExtensionAtlas.Proofs.Source.ParameterPieces

/-! Printed parameters are read back: plain names and types keep apart, and no name in a list reads
as `var`. -/

namespace ExtensionAtlas.Source

namespace ParameterDecl

variable (d : ParameterDecl)

theorem not_mem_print {mark : Char} (hplain : Text.isPlainPart mark = false) (hcolon : mark ≠ ':')
    (halpha : mark.isAlpha = false) : mark ∉ d.print := by
  have hspace : mark ≠ ' ' := by
    rintro rfl
    cases hplain
  have hmarker : mark ∉ d.marker.elim [] (·.letters ++ [' ']) := by
    cases d.marker with
    | none => exact List.not_mem_nil
    | some v => simp [v.not_mem (by decide) halpha, hspace]
  simp [print, hmarker, d.name.not_mem hplain, d.type.not_mem hplain, hcolon, hspace]

theorem toList_name : d.parameter.name.toList = d.name.chars := String.toList_ofList

theorem toList_type : d.parameter.type.toList = d.type.chars := String.toList_ofList

/-- The name of a parameter without `var` is not taken for one behind it. -/
theorem not_marked (h : d.marker = none) : ¬Parameter.Marked d.name.chars := by
  rintro ⟨word, blank, rest, hname, hword, hblank⟩
  have hspace : blank = ' ' := by
    by_contra hne
    have hpart := d.name.parts blank (by simp [hname])
    rw [Text.isBlank_of_isPlainPart hpart hne] at hblank
    cases hblank
  apply d.unmarked h
  refine ⟨rest.map Char.toLower, ?_⟩
  rw [hname, List.map_append, List.map_cons, hword, hspace]
  rfl

theorem separable_parameter : d.parameter.Separable where
  name_trimmed := d.toList_name ▸ d.name.trimmed
  semicolon_notMem_name := d.toList_name ▸ d.name.not_mem (by decide)
  colon_notMem_name := d.toList_name ▸ d.name.not_mem (by decide)
  head_unquoted c hc := by
    rintro rfl
    rw [d.toList_name] at hc
    exact d.name.not_mem (by decide) (List.mem_of_mem_head? hc)
  last_unquoted c hc := by
    rintro rfl
    rw [d.toList_name] at hc
    exact d.name.not_mem (by decide) (List.mem_of_mem_getLast? hc)
  unmarked hvar :=
    d.toList_name ▸ d.not_marked (Option.not_isSome_iff_eq_none.1 (Bool.eq_false_iff.1 hvar))
  type_ne_nil := d.toList_type ▸ d.type.ne_nil
  type_trimmed := d.toList_type ▸ d.type.trimmed
  semicolon_notMem_type := d.toList_type ▸ d.type.not_mem (by decide)

theorem writes_print : d.parameter.Writes d.print := by
  have htyped : d.parameter.typed = d.name.chars ++ ':' :: ' ' :: d.type.chars := by
    rw [Parameter.typed, d.toList_name, d.toList_type]
  rw [print, ← htyped]
  cases h : d.marker with
  | none =>
      have hvar : d.parameter.isVar = false := by rw [parameter, h]; rfl
      exact .plain hvar
  | some v =>
      have hvar : d.parameter.isVar = true := by rw [parameter, h]; rfl
      rw [Option.elim, List.append_assoc]
      exact .marked hvar v.spells

end ParameterDecl

theorem not_mem_intercalate_print {mark : Char} (hplain : Text.isPlainPart mark = false)
    (hcolon : mark ≠ ':') (hsemicolon : mark ≠ ';') (halpha : mark.isAlpha = false)
    (ds : List ParameterDecl) : mark ∉ [';', ' '].intercalate (ds.map ParameterDecl.print) := by
  intro hmem
  rcases Text.mem_of_mem_intercalate hmem with hmem | ⟨t, ht, hmem⟩
  · have hspace : mark ≠ ' ' := by
      rintro rfl
      cases hplain
    simp [hspace, hsemicolon] at hmem
  · obtain ⟨d, -, rfl⟩ := List.mem_map.1 ht
    exact d.not_mem_print hplain hcolon halpha hmem

/-- A printed list of parameters is read back. -/
theorem scan_intercalate_print (ds : List ParameterDecl) :
    Parameter.scan ([';', ' '].intercalate (ds.map ParameterDecl.print))
      = ds.map ParameterDecl.parameter := by
  refine Parameter.scan_intercalate ?_ fun p hp => ?_
  · rw [List.forall₂_map_left_iff, List.forall₂_map_right_iff, List.forall₂_same]
    exact fun d _ => d.writes_print
  · obtain ⟨d, -, rfl⟩ := List.mem_map.1 hp
    exact d.separable_parameter

end ExtensionAtlas.Source
