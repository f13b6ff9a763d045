import ExtensionAtlas.Analyzer
import ExtensionAtlas.Proofs.Files.Path
import ExtensionAtlas.Proofs.Traversal

/-! What becomes of files that cannot be read. They are listed, each time they are given and in the
order in which they are given, and besides the log nothing else shows that they were there. -/

namespace ExtensionAtlas

namespace FileTree

/-- Whether a file fails to give a text, be it that it cannot be reached or that its bytes are no
text. -/
def fails (t : FileTree) (p : Path) : Bool :=
  match t.readText p with
  | .error (.unreadableFile _ _) | .error (.undecodableFile _) => true
  | _ => false

variable {t : FileTree} {p : Path}

theorem readText_eq_nullInPath_iff :
    t.readText p = .error .nullInPath ↔ '\x00' ∈ p.toText.toList := by
  unfold readText
  split
  · simp_all
  · split
    · simp_all
    · split
      · simp_all
      · simp_all
      · simp_all
      · split <;> simp_all

/-- A file fails if there is a fault other than a path that no file can have. -/
theorem fails_of_error {fault : Fault} (h : t.readText p = .error fault)
    (hfault : fault ≠ .nullInPath) : t.fails p = true := by
  rw [fails, h]
  unfold readText at h
  split at h
  · exact absurd (Except.error.inj h).symm hfault
  · split at h
    · cases h
      rfl
    · split at h
      · cases h
        rfl
      · cases h
        rfl
      · cases h
        rfl
      · split at h <;> cases h
        rfl

/-- A file that gives its text does not fail, and no other file does without one, if its path is a
possible one. -/
theorem fails_eq_false_iff (h : '\x00' ∉ p.toText.toList) :
    t.fails p = false ↔ ∃ text, t.readText p = .ok text := by
  constructor
  · intro hfails
    cases hread : t.readText p with
    | ok text => exact ⟨text, rfl⟩
    | error fault =>
        have hfault : fault ≠ .nullInPath := by
          rintro rfl
          exact h (readText_eq_nullInPath_iff.1 hread)
        rw [fails_of_error hread hfault] at hfails
        cases hfails
  · rintro ⟨text, hread⟩
    rw [fails, hread]

theorem isNone_text?_ofPath (h : '\x00' ∉ p.toText.toList) :
    (SourceRead.ofPath t p).text?.isNone = t.fails p := by
  rw [Bool.eq_iff_iff, ← not_iff_not, Bool.not_eq_true, Bool.not_eq_true, fails_eq_false_iff h,
    SourceRead.text?, SourceRead.ofPath]
  cases t.readText p <;> simp [Except.toOption]

end FileTree

namespace Analyzer

variable {settings : AnalyzerSettings} {t : FileTree} {paths : List Path}

/-- The texts that are parsed are those of the files that do not fail. -/
theorem parse_reads (h : ∀ p ∈ paths, '\x00' ∉ p.toText.toList) :
    parse (paths.map (SourceRead.ofPath t)) =
      (paths.filter (!t.fails ·)).mapM (Extension.ofFile t) := by
  induction paths with
  | nil => rfl
  | cons p paths ih =>
      rw [List.forall_mem_cons] at h
      have hrest := ih h.2
      have hfails := FileTree.isNone_text?_ofPath (t := t) h.1
      rw [parse] at hrest ⊢
      cases hread : t.readText p with
      | error fault =>
          have hnone : (SourceRead.ofPath t p).text? = none := by
            rw [SourceRead.text?, SourceRead.ofPath, hread]
            rfl
          rw [hnone] at hfails
          rw [List.map_cons, List.filterMap_cons_none (by rw [hnone]; rfl), hrest,
            List.filter_cons_of_neg (by simp [← hfails])]
      | ok text =>
          have hsome : (SourceRead.ofPath t p).text? = some text := by
            rw [SourceRead.text?, SourceRead.ofPath, hread]
            rfl
          have hfile : Extension.ofFile t p = Extension.ofSource text p.toText := by
            rw [Extension.ofFile, hread]
          rw [hsome] at hfails
          rw [List.map_cons, List.filterMap_cons_some (by rw [hsome]; rfl), List.mapM_cons, hrest,
            List.filter_cons_of_pos (by simp [← hfails]), List.mapM_cons, hfile]
          rfl

theorem failedPaths_reads (h : ∀ p ∈ paths, '\x00' ∉ p.toText.toList) :
    failedPaths (paths.map (SourceRead.ofPath t)) = (paths.filter t.fails).map Path.toText := by
  rw [failedPaths, List.filter_map, List.map_map]
  refine congrArg _ (List.filter_congr fun p hp => ?_)
  exact FileTree.isNone_text?_ofPath (h p hp)

/-- The report on files whose texts could be parsed. -/
def reportOf (settings : AnalyzerSettings) (t : FileTree) (paths : List Path)
    (extensions : List Extension) : AnalysisReport :=
  let analysis : Analysis := .ofExtensions settings.includeReferences extensions
    ((paths.filter t.fails).map Path.toText)
  ⟨analysis, paths.flatMap t.readEntries, logOf analysis⟩

theorem isImpossible_ofPath {p : Path} :
    isImpossible (SourceRead.ofPath t p) = true ↔ '\x00' ∈ p.toText.toList := by
  rw [← FileTree.readText_eq_nullInPath_iff (t := t), isImpossible, SourceRead.ofPath]
  split <;> simp_all

/-- Without workers, or with a path that no file can have, nothing is analysed. Otherwise the files
that do not fail are parsed one after another. -/
theorem analyze_eq (settings : AnalyzerSettings) (t : FileTree) (paths : List Path) :
    analyze settings t paths =
      if paths ≠ [] ∧ settings.maxWorkers < 1 then .error .noWorkers
      else if ∃ p ∈ paths, '\x00' ∈ p.toText.toList then .error .nullInPath
      else ((paths.filter (!t.fails ·)).mapM (Extension.ofFile t)).map
        (reportOf settings t paths) := by
  have hworkers : (!paths.isEmpty && decide (settings.maxWorkers < 1)) = true ↔
      paths ≠ [] ∧ settings.maxWorkers < 1 := by simp
  have himpossible : (paths.map (SourceRead.ofPath t)).any isImpossible = true ↔
      ∃ p ∈ paths, '\x00' ∈ p.toText.toList := by
    simp [List.any_map, List.any_eq_true, isImpossible_ofPath]
  rw [analyze, readSources]
  by_cases hnone : paths ≠ [] ∧ settings.maxWorkers < 1
  · rw [if_pos (hworkers.2 hnone), if_pos hnone]
  · rw [if_neg (mt hworkers.1 hnone), if_neg hnone]
    by_cases hnull : ∃ p ∈ paths, '\x00' ∈ p.toText.toList
    · rw [if_pos (himpossible.2 hnull), if_pos hnull]
    · rw [if_neg (mt himpossible.1 hnull), if_neg hnull]
      replace hnull : ∀ p ∈ paths, '\x00' ∉ p.toText.toList := by simpa using hnull
      simp only [parse_reads hnull, failedPaths_reads hnull]
      cases (paths.filter (!t.fails ·)).mapM (Extension.ofFile t) <;> rfl

theorem analyze_eq_ok_iff {report : AnalysisReport} : analyze settings t paths = .ok report ↔
    (paths = [] ∨ 1 ≤ settings.maxWorkers) ∧ (∀ p ∈ paths, '\x00' ∉ p.toText.toList) ∧
      ∃ extensions, (paths.filter (!t.fails ·)).mapM (Extension.ofFile t) = .ok extensions ∧
        reportOf settings t paths extensions = report := by
  rw [analyze_eq]
  split
  · next h =>
    obtain ⟨hne, hworkers⟩ := h
    have hless : ¬1 ≤ settings.maxWorkers := Int.not_le.2 hworkers
    simp [hne, hless]
  · next h =>
    have hworkers : paths = [] ∨ 1 ≤ settings.maxWorkers := by
      rw [not_and_or, not_not, Int.not_lt] at h
      exact h
    split
    · next hnull =>
      have hnot : ¬∀ p ∈ paths, '\x00' ∉ p.toText.toList := by simpa using hnull
      simp [hnot]
    · next hnull =>
      replace hnull : ∀ p ∈ paths, '\x00' ∉ p.toText.toList := by simpa using hnull
      rw [and_iff_right hworkers, and_iff_right hnull]
      cases (paths.filter (!t.fails ·)).mapM (Extension.ofFile t) <;> simp [Except.map]

theorem path_ofFile {p : Path} {e : Extension} (h : Extension.ofFile t p = .ok e) :
    e.path = p.toText := by
  unfold Extension.ofFile Extension.ofSource at h
  split at h
  · cases h
  · split at h
    · cases h
    · rw [← Except.ok.inj h]

/-- Of files that do not fail none is listed as failed. -/
theorem failedPaths_filter (t : FileTree) (paths : List Path) :
    ((paths.filter (!t.fails ·)).filter t.fails).map Path.toText = [] := by
  rw [List.filter_filter, List.map_eq_nil_iff, List.filter_eq_nil_iff]
  simp

/-- The files that fail and the other ones of a batch that is analysed are listed apart, each time
they are given and in the order in which they are given; a path is listed as failed exactly if its
file fails. Without those paths the batch has the same analysis, with none that failed. -/
theorem analyze_without_failed {inputs : List String} {report : AnalysisReport}
    (h : analyze settings t (inputs.map .ofText) = .ok report) :
    let text (input : String) := (Path.ofText input).toText
    let fails (input : String) := t.fails (.ofText input)
    let kept := inputs.filter fun input => text input ∉ report.analysis.failedPaths
    report.analysis.extensions.map (·.path) = (inputs.filter (!fails ·)).map text ∧
      report.analysis.failedPaths = (inputs.filter fails).map text ∧
      (∀ input ∈ inputs, text input ∈ report.analysis.failedPaths ↔ fails input) ∧
      ∃ rest, analyze settings t (kept.map .ofText) = .ok rest ∧
        rest.analysis = { report.analysis with failedPaths := [] } := by
  intro text fails kept
  obtain ⟨hworkers, hnull, extensions, hparse, rfl⟩ := analyze_eq_ok_iff.1 h
  have hsplit (choose : Path → Bool) : (inputs.map Path.ofText).filter choose =
      (inputs.filter fun input => choose (.ofText input)).map Path.ofText := List.filter_map ..
  have hfailed : (reportOf settings t (inputs.map .ofText) extensions).analysis.failedPaths =
      (inputs.filter fails).map text := by
    change ((inputs.map Path.ofText).filter t.fails).map Path.toText = _
    rw [hsplit, List.map_map]
    rfl
  have hmem : ∀ input ∈ inputs, text input ∈ (inputs.filter fails).map text ↔ fails input := by
    intro input hinput
    constructor
    · intro hlisted
      obtain ⟨other, hother, htext⟩ := List.mem_map.1 hlisted
      have hsame : Path.ofText other = .ofText input := Path.ofText_eq_of_toText_eq htext
      have hfails : fails other = true := (List.mem_filter.1 hother).2
      exact (congrArg t.fails hsame).symm.trans hfails
    · exact fun hfails => List.mem_map_of_mem (List.mem_filter.2 ⟨hinput, hfails⟩)
  have hkept : kept.map .ofText = (inputs.map Path.ofText).filter (!t.fails ·) := by
    rw [hsplit]
    refine congrArg _ (List.filter_congr fun input hinput => ?_)
    rw [Bool.eq_iff_iff, decide_eq_true_iff, hfailed, hmem input hinput]
    simp [fails]
  refine ⟨?_, hfailed, fun input hinput => by rw [hfailed, hmem input hinput], ?_⟩
  · have hpaths := map_eq_of_mapM (fun p e => path_ofFile) hparse
    rw [hsplit, List.map_map] at hpaths
    exact hpaths
  · rw [hkept]
    have hsame : ((inputs.map Path.ofText).filter (!t.fails ·)).filter (!t.fails ·) =
        (inputs.map Path.ofText).filter (!t.fails ·) := by
      rw [List.filter_filter]
      simp
    refine ⟨_, analyze_eq_ok_iff.2 ⟨hworkers.imp_left ?_, ?_, extensions, ?_, rfl⟩, ?_⟩
    · rintro hnil
      rw [hnil]
      rfl
    · exact fun p hp => hnull p (List.mem_filter.1 hp).1
    · rw [hsame, hparse]
    · rw [reportOf, failedPaths_filter]
      rfl

/-- The bytes of an ASCII text. -/
def asciiBytes (text : String) : List UInt8 := text.toList.map (UInt8.ofNat ·.toNat)

/-- A tree with a source file and a file whose bytes are no text. -/
def patchyTree : FileTree :=
  .ofFiles [] [
    ("Good.al", .file (asciiBytes "codeunit 1 Stock { }")),
    ("Bad.al", .file [0xff])]

/-- A file that is not there and is given twice, in two ways, is listed twice, in one way. -/
theorem analyze_without_failed_twice :
    let inputs := ["Lost.al", "Good.al", "Bad.al", "./Lost.al"]
    ∃ report, analyze {} patchyTree (inputs.map .ofText) = .ok report ∧
      report.analysis.extensions.map (·.path) = ["Good.al"] ∧
      report.analysis.failedPaths = ["Lost.al", "Bad.al", "Lost.al"] ∧
      ∃ rest, analyze {} patchyTree [.ofText "Good.al"] = .ok rest ∧
        rest.analysis = { report.analysis with failedPaths := [] } := by
  intro inputs
  have hok : (analyze {} patchyTree (inputs.map .ofText)).toBool = true := by decide +kernel
  cases hrun : analyze {} patchyTree (inputs.map .ofText) with
  | error fault =>
      rw [hrun] at hok
      cases hok
  | ok report =>
      obtain ⟨hpaths, hfailed, -, rest, hrest, hsame⟩ := analyze_without_failed hrun
      have hgood : inputs.filter (fun input => !patchyTree.fails (.ofText input)) =
          ["Good.al"] := by decide +kernel
      have hlost : inputs.filter (fun input => patchyTree.fails (.ofText input)) =
          ["Lost.al", "Bad.al", "./Lost.al"] := by decide +kernel
      rw [hgood] at hpaths
      rw [hlost] at hfailed
      rw [hfailed] at hrest
      exact ⟨report, rfl, hpaths, hfailed, rest, hrest, hsame⟩

end Analyzer

end ExtensionAtlas
