import ExtensionAtlas.Proofs.Analyzer.FailedReads
import ExtensionAtlas.Proofs.Source.Legible

/-! When a batch is analysed at all. Files that cannot be read do not stop an analysis, and neither
do texts that declare nothing. A file whose text is not legible does, and the other files of the
batch are not analysed either. -/

namespace ExtensionAtlas.Analyzer

variable {settings : AnalyzerSettings} {t : FileTree} {paths : List Path}

/-- A file that does not fail can be parsed exactly if its text is legible. -/
theorem exists_ofFile_iff {p : Path} (h : '\x00' ∉ p.toText.toList) :
    (t.fails p = false → ∃ e, Extension.ofFile t p = .ok e) ↔
      ∀ text, t.readText p = .ok text → Source.Legible text.toList := by
  rw [FileTree.fails_eq_false_iff h, forall_exists_index]
  refine forall₂_congr fun text hread => ?_
  rw [← Source.exists_ofSource_iff, Extension.ofFile, hread]

theorem exists_analyze_paths_iff :
    (∃ report, analyze settings t paths = .ok report) ↔
      (paths = [] ∨ 1 ≤ settings.maxWorkers) ∧ (∀ p ∈ paths, '\x00' ∉ p.toText.toList) ∧
        ∀ p ∈ paths, ∀ text, t.readText p = .ok text → Source.Legible text.toList := by
  constructor
  · rintro ⟨report, h⟩
    obtain ⟨hworkers, hnull, extensions, hparse, -⟩ := analyze_eq_ok_iff.1 h
    have hall := exists_mapM_eq_ok_iff.1 ⟨extensions, hparse⟩
    refine ⟨hworkers, hnull, fun p hp => (exists_ofFile_iff (hnull p hp)).1 fun hfails => ?_⟩
    exact hall p (List.mem_filter.2 ⟨hp, by rw [hfails]; rfl⟩)
  · rintro ⟨hworkers, hnull, hlegible⟩
    obtain ⟨extensions, hparse⟩ : ∃ extensions,
        (paths.filter (!t.fails ·)).mapM (Extension.ofFile t) = .ok extensions := by
      refine exists_mapM_eq_ok_iff.2 fun p hp => ?_
      obtain ⟨hp, hfails⟩ := List.mem_filter.1 hp
      exact (exists_ofFile_iff (hnull p hp)).2 (hlegible p hp) (by simpa using hfails)
    exact ⟨_, analyze_eq_ok_iff.2 ⟨hworkers, hnull, extensions, hparse, rfl⟩⟩

theorem null_notMem_toText_iff {input : String} :
    '\x00' ∉ (Path.ofText input).toText.toList ↔ '\x00' ∉ input.toList :=
  not_congr (Path.mem_toText_ofText_iff (by decide) (by decide))

/-- A batch is analysed exactly if there are workers for it, its paths are possible ones, and every
file that gives a text gives one that is legible. -/
theorem exists_analyze_iff (settings : AnalyzerSettings) (t : FileTree) (inputs : List String) :
    (∃ report, analyze settings t (inputs.map .ofText) = .ok report) ↔
      (inputs = [] ∨ 1 ≤ settings.maxWorkers) ∧ (∀ input ∈ inputs, '\x00' ∉ input.toList) ∧
        ∀ input ∈ inputs, ∀ text, t.readText (.ofText input) = .ok text →
          Source.Legible text.toList := by
  rw [exists_analyze_paths_iff]
  simp only [List.map_eq_nil_iff, List.forall_mem_map, null_notMem_toText_iff]

/-- Files with ordinary texts do not stop an analysis, whatever else the texts hold, and neither do
files that give no text. -/
theorem exists_analyze_of_ordinary {inputs : List String} (hworkers : 1 ≤ settings.maxWorkers)
    (hnull : ∀ input ∈ inputs, '\x00' ∉ input.toList)
    (h : ∀ input ∈ inputs, ∀ text, t.readText (.ofText input) = .ok text →
      Source.Ordinary text.toList) :
    ∃ report, analyze settings t (inputs.map .ofText) = .ok report := by
  refine exists_analyze_paths_iff.2 ⟨.inr hworkers, ?_, ?_⟩
  · exact List.forall_mem_map.2 fun input hinput => null_notMem_toText_iff.2 (hnull input hinput)
  · exact List.forall_mem_map.2 fun input hinput text hread => (h input hinput text hread).legible

/-- A tree with a source file and one whose keyword has a dotless i. -/
def dotlessTree : FileTree :=
  .ofFiles [] [
    ("Good.al", .file (asciiBytes "codeunit 1 Stock { }")),
    ("Bad.al", .file (asciiBytes "codeun" ++ [0xC4, 0xB1] ++ asciiBytes "t 2 Sales { }"))]

/-- A file with such a keyword takes the one beside it along. -/
theorem analyze_dotless :
    let inputs := ["Good.al", "Bad.al"]
    (∀ input ∈ inputs, '\x00' ∉ input.toList) ∧
      (analyze {} dotlessTree (inputs.map .ofText)).map (·.analysis) =
        .error (.unknownWord .objectKinds "codeunıt") ∧
      (analyze {} dotlessTree [.ofText "Good.al"]).toBool = true := by
  refine ⟨by decide, ?_, ?_⟩ <;> decide +kernel

end ExtensionAtlas.Analyzer
