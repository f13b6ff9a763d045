import ExtensionAtlas.Files.Path
import ExtensionAtlas.Proofs.Text.Occurrence

/-! Paths and their texts. The text of a path that was read from a text stands for that path again,
so different paths are told apart by their texts. -/

namespace ExtensionAtlas.Path

/-- A path as it is read from a text: its root is one of three, and its names are no points and hold
no slash. -/
structure Canonical (p : Path) : Prop where
  root_mem : p.root ∈ ["", "/", "//"]
  isName : ∀ name ∈ p.names, isName name.toList = true
  slash_notMem : ∀ name ∈ p.names, '/' ∉ name.toList

theorem canonical_ofText (text : String) : (ofText text).Canonical where
  root_mem := by
    rw [ofText]
    unfold rootOf
    split <;> simp
  isName name h := by
    obtain ⟨piece, hpiece, rfl⟩ := List.mem_map.1 h
    rw [String.toList_ofList]
    exact (List.mem_filter.1 hpiece).2
  slash_notMem name h := by
    obtain ⟨piece, hpiece, rfl⟩ := List.mem_map.1 h
    rw [String.toList_ofList]
    exact Text.separator_notMem_of_mem_splitAt (List.mem_filter.1 hpiece).1

/-- The last name of a path holds no slash. -/
theorem slash_notMem_name (text : String) : '/' ∉ (ofText text).name.toList := by
  rw [name]
  cases hlast : (ofText text).names.getLast? with
  | none => simp
  | some name => exact (canonical_ofText text).slash_notMem name (List.mem_of_getLast? hlast)

/-- The slashes at the start of a text say which root it has. -/
theorem rootOf_append {root : String} (h : root ∈ ["", "/", "//"]) {rest : List Char}
    (hrest : rest.head? ≠ some '/') : rootOf (root.toList ++ rest) = root := by
  simp only [List.mem_cons, List.not_mem_nil, or_false] at h
  cases rest with
  | nil => rcases h with rfl | rfl | rfl <;> decide
  | cons c rest =>
      have hc : c ≠ '/' := fun heq => hrest (congrArg some heq)
      rcases h with rfl | rfl | rfl <;> simp [rootOf, hc]

/-- The slashes at the start of a text give no names. -/
theorem filter_splitAt_append {root : String} (h : root ∈ ["", "/", "//"]) (rest : List Char) :
    (Text.splitAt '/' (root.toList ++ rest)).filter isName =
      (Text.splitAt '/' rest).filter isName := by
  have hslash (rest : List Char) : (Text.splitAt '/' ('/' :: rest)).filter isName =
      (Text.splitAt '/' rest).filter isName := by
    rw [← List.nil_append ('/' :: rest), Text.splitAt_append_cons List.not_mem_nil]
    rfl
  simp only [List.mem_cons, List.not_mem_nil, or_false] at h
  rcases h with rfl | rfl | rfl
  · rfl
  · exact hslash rest
  · exact (hslash ('/' :: rest)).trans (hslash rest)

/-- The characters of a path that is not just a point. -/
theorem toList_toText {p : Path} (h : (p.root.isEmpty && p.names.isEmpty) = false) :
    p.toText.toList = p.root.toList ++ ['/'].intercalate (p.names.map String.toList) := by
  rw [toText, h]
  simp [String.toList_intercalate]

namespace Canonical

variable {p : Path}

theorem slash_notMem_chars (h : p.Canonical) :
    ∀ name ∈ p.names.map String.toList, '/' ∉ name := by
  rintro _ hname
  obtain ⟨name, hmem, rfl⟩ := List.mem_map.1 hname
  exact h.slash_notMem name hmem

theorem filter_names (h : p.Canonical) :
    (p.names.map String.toList).filter Path.isName = p.names.map String.toList := by
  refine List.filter_eq_self.2 fun _ hname => ?_
  obtain ⟨name, hmem, rfl⟩ := List.mem_map.1 hname
  exact h.isName name hmem

/-- The names of a path come apart again. -/
theorem filter_splitAt_names (h : p.Canonical) :
    (Text.splitAt '/' (['/'].intercalate (p.names.map String.toList))).filter Path.isName =
      p.names.map String.toList := by
  by_cases hnil : p.names.map String.toList = []
  · rw [hnil]
    rfl
  · rw [Text.splitAt_intercalate hnil h.slash_notMem_chars, h.filter_names]

theorem head?_names_ne (h : p.Canonical) :
    (['/'].intercalate (p.names.map String.toList)).head? ≠ some '/' := by
  cases hnames : p.names with
  | nil => simp [List.intercalate]
  | cons name names =>
      have hmem : name ∈ p.names := hnames ▸ List.mem_cons_self
      have hslash := h.slash_notMem name hmem
      have hname := h.isName name hmem
      cases hchars : name.toList with
      | nil =>
          rw [hchars] at hname
          cases hname
      | cons c rest =>
          rw [hchars, List.mem_cons, not_or] at hslash
          cases names <;> simp [List.intercalate, hchars, Ne.symm hslash.1]

/-- The text of a path stands for it. -/
theorem ofText_toText (h : p.Canonical) : ofText p.toText = p := by
  cases hpoint : p.root.isEmpty && p.names.isEmpty with
  | true =>
      obtain ⟨root, names⟩ := p
      simp only [Bool.and_eq_true, String.isEmpty_iff, List.isEmpty_iff] at hpoint
      obtain ⟨rfl, rfl⟩ := hpoint
      decide
  | false =>
      have hnames : (p.names.map String.toList).map String.ofList = p.names := by
        simp [List.map_map, Function.comp_def]
      rw [ofText, toList_toText hpoint, rootOf_append h.root_mem h.head?_names_ne,
        filter_splitAt_append h.root_mem, h.filter_splitAt_names, hnames]

end Canonical

/-- Paths are told apart by their texts. -/
theorem ofText_eq_of_toText_eq {first second : String}
    (h : (ofText first).toText = (ofText second).toText) : ofText first = ofText second := by
  rw [← (canonical_ofText first).ofText_toText, h, (canonical_ofText second).ofText_toText]

/-- The characters of the text of a path are those of its names, slashes and points aside. -/
theorem Canonical.mem_toText_iff {p : Path} (h : p.Canonical) {c : Char} (hslash : c ≠ '/')
    (hpoint : c ≠ '.') : c ∈ p.toText.toList ↔ ∃ name ∈ p.names, c ∈ name.toList := by
  have hroot : c ∉ p.root.toList := by
    have hmem := h.root_mem
    simp only [List.mem_cons, List.not_mem_nil, or_false] at hmem
    rcases hmem with h | h | h <;> simp [h, hslash]
  cases hempty : p.root.isEmpty && p.names.isEmpty with
  | true =>
      have hnil : p.names = [] := by
        rw [Bool.and_eq_true, List.isEmpty_iff] at hempty
        exact hempty.2
      rw [toText, hempty, hnil]
      simp [hpoint]
  | false =>
      rw [toList_toText hempty, List.mem_append, or_iff_right hroot]
      constructor
      · intro hc
        rcases Text.mem_of_mem_intercalate hc with hc | ⟨_, hchars, hc⟩
        · exact absurd (List.mem_singleton.1 hc) hslash
        · obtain ⟨name, hname, rfl⟩ := List.mem_map.1 hchars
          exact ⟨name, hname, hc⟩
      · rintro ⟨name, hname, hc⟩
        exact Text.mem_intercalate_of_mem (List.mem_map_of_mem hname) hc

/-- A path has the characters of the text that it was read from, slashes and points aside. -/
theorem mem_toText_ofText_iff {c : Char} (hslash : c ≠ '/') (hpoint : c ≠ '.') {text : String} :
    c ∈ (ofText text).toText.toList ↔ c ∈ text.toList := by
  rw [(canonical_ofText text).mem_toText_iff hslash hpoint, ← Text.exists_mem_splitAt_iff hslash,
    ofText]
  simp only [List.mem_map, List.mem_filter]
  constructor
  · rintro ⟨_, ⟨piece, ⟨hpiece, -⟩, rfl⟩, hc⟩
    exact ⟨piece, hpiece, by simpa using hc⟩
  · rintro ⟨piece, hpiece, hc⟩
    have hname : isName piece = true := by
      rw [isName, Bool.and_eq_true, bne_iff_ne]
      refine ⟨by cases piece <;> simp_all, ?_⟩
      rintro rfl
      exact hpoint (List.mem_singleton.1 hc)
    exact ⟨_, ⟨piece, ⟨hpiece, hname⟩, rfl⟩, by simpa using hc⟩

end ExtensionAtlas.Path
