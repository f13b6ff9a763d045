import ExtensionAtlas.Files.Inputs
import ExtensionAtlas.Proofs.Files.Glob
import ExtensionAtlas.Proofs.Model.Occurrences

/-! Which files some inputs stand for. The inputs are taken in their order. One that is there and is
no directory stands for itself; a directory stands for the matches of the pattern below it that are
files and have no ignored directory on the way, in the order of their paths. The first input that is
absent, or that leads to a path that cannot be looked into, stops the rest. What all inputs stand
for is listed once, each path where it comes first. -/

namespace ExtensionAtlas

/-- A path leads to a file. -/
def FileTree.IsFile (t : FileTree) (p : Path) : Prop :=
  ∃ content, t.look p = .ok (some (.file content))

/-- A path leads to something that is no directory. -/
def FileTree.IsLeaf (t : FileTree) (p : Path) : Prop :=
  ∃ node, t.look p = .ok (some node) ∧ node ≠ .directory

theorem FileTree.isFile_eq_ok_true_iff {t : FileTree} {p : Path} :
    t.isFile p = .ok true ↔ t.IsFile p := by
  rw [isFile, IsFile]
  cases t.look p with
  | error fault => simp [Except.map]
  | ok node =>
      cases node with
      | none => simp [Except.map]
      | some node => cases node <;> simp [Except.map]

/-- Whether a path leads to a file has an answer if the path is not too long. -/
theorem FileTree.exists_isFile_iff {t : FileTree} {p : Path} :
    (∃ answer, t.isFile p = .ok answer) ↔ t.find p ≠ .error .nameTooLong := by
  cases hanswer : t.isFile p with
  | error fault => simpa using (map_look_eq_error_iff.1 hanswer).1
  | ok answer =>
      simp only [Except.ok.injEq, exists_eq', true_iff]
      intro hlong
      rw [isFile, map_look_eq_error_iff.2 ⟨hlong, rfl⟩] at hanswer
      cases hanswer

namespace Inputs

/-! The order of paths. -/

theorem inOrder_iff {p q : Path} : inOrder p q = true ↔ ¬List.lt q.parts p.parts := by
  rw [inOrder, Bool.not_eq_true', ← Bool.not_eq_true]
  exact not_congr List.lex_eq_true_iff_lt

theorem inOrder_trans (p q r : Path) (h : inOrder p q = true) (h' : inOrder q r = true) :
    inOrder p r = true := by
  rw [inOrder_iff] at h h' ⊢
  exact @List.le_trans String _ _ _ _ p.parts q.parts r.parts h h'

theorem inOrder_refl (p : Path) : inOrder p p = true := by
  rw [inOrder_iff]
  exact @List.le_refl String _ _ p.parts

theorem inOrder_total (p q : Path) : (inOrder p q || inOrder q p) = true := by
  rw [Bool.or_eq_true, inOrder_iff, inOrder_iff]
  exact @List.le_total String _ _ p.parts q.parts

theorem below_eq_of_inOrder {p : Path} {way way' : List String}
    (h : inOrder (p.below way) (p.below way') = true)
    (h' : inOrder (p.below way') (p.below way) = true) : p.below way = p.below way' := by
  rw [inOrder_iff] at h h'
  have hparts := @List.le_antisymm String _ _ (p.below way).parts (p.below way').parts h h'
  have hways : way = way' := by
    by_cases hroot : p.root.isEmpty = true <;> simpa [Path.parts, Path.below, hroot] using hparts
  rw [hways]

theorem between_below (p : Path) (way : List String) : between p (p.below way) = way.dropLast := by
  have hparts : (p.below way).parts = p.parts ++ way := by
    by_cases hroot : p.root.isEmpty = true <;> simp [Path.parts, Path.below, hroot]
  rw [between, hparts, List.drop_left]

theorem isKept_below_iff {ignored : List String} {p : Path} {way : List String} :
    isKept ignored p (p.below way) = true ↔ ∀ directory ∈ way.dropLast, directory ∉ ignored := by
  rw [isKept, between_below]
  simp

/-! What an input stands for. -/

section

variable {t : FileTree} {pattern : String} {ignored : List String} {p q : Path}
  {found files : List Path}

/-- A file below a directory with no ignored directory on the way. -/
def Clear (t : FileTree) (ignored : List String) (p q : Path) : Prop :=
  t.IsFile q ∧ ∃ directories name, q = p.below (directories ++ [name]) ∧
    ∀ directory ∈ directories, directory ∉ ignored

/-- The files that an input stands for. What is no directory stands for itself. A directory stands
for the clear files among the matches of the pattern, each as often as it was found, in the order of
their paths; every match has to be short enough to be looked up. -/
inductive StandsFor (t : FileTree) (pattern : String) (ignored : List String) (p : Path) :
    List Path → Prop where
  | leaf (h : t.IsLeaf p) : StandsFor t pattern ignored p [p]
  | directory {found files : List Path} (hdirectory : t.look p = .ok (some .directory))
      (hfound : Glob.paths t pattern p = .ok found)
      (hshort : ∀ q ∈ found, t.find q ≠ .error .nameTooLong)
      (hsorted : files.Pairwise fun q r => inOrder q r = true)
      (hcount : ∀ q, Clear t ignored p q → files.count q = found.count q)
      (hclear : ∀ q ∈ files, Clear t ignored p q) : StandsFor t pattern ignored p files

/-- The matches of a pattern that are taken. -/
def taken (t : FileTree) (ignored : List String) (p : Path) (found : List Path) : List Path :=
  ((found.mergeSort inOrder).filter fun q => (t.isFile q).toOption == some true).filter
    (isKept ignored p)

theorem pairwise_taken : (taken t ignored p found).Pairwise fun q r => inOrder q r = true :=
  ((List.pairwise_mergeSort inOrder_trans inOrder_total found).filter _).filter _

theorem isFile_toOption_iff : ((t.isFile q).toOption == some true) = true ↔ t.IsFile q := by
  rw [← FileTree.isFile_eq_ok_true_iff]
  cases t.isFile q <;> simp [Except.toOption]

theorem mem_taken_iff : q ∈ taken t ignored p found ↔
    q ∈ found ∧ t.IsFile q ∧ isKept ignored p q = true := by
  rw [taken, List.mem_filter, List.mem_filter, isFile_toOption_iff, List.mem_mergeSort, and_assoc]

theorem Clear.isKept (h : Clear t ignored p q) : isKept ignored p q = true := by
  obtain ⟨-, directories, name, rfl, hclear⟩ := h
  rwa [isKept_below_iff, List.dropLast_concat]

theorem count_taken (h : Clear t ignored p q) :
    (taken t ignored p found).count q = found.count q := by
  have hfile := isFile_toOption_iff.2 h.1
  rw [taken, List.count_filter h.isKept,
    @List.count_filter _ _ _ (fun q => (t.isFile q).toOption == some true) _ _ hfile]
  exact (List.mergeSort_perm found inOrder).count_eq q

/-- What is taken below a directory is clear. -/
theorem clear_of_mem_taken (hdirectory : t.look p = .ok (some .directory))
    (hbelow : ∀ q ∈ found, ∃ way, q = p.below way) (h : q ∈ taken t ignored p found) :
    Clear t ignored p q := by
  obtain ⟨hfound, hfile, hkept⟩ := mem_taken_iff.1 h
  obtain ⟨way, rfl⟩ := hbelow q hfound
  refine ⟨hfile, ?_⟩
  rcases List.eq_nil_or_concat way with rfl | ⟨directories, name, rfl⟩
  · obtain ⟨content, hcontent⟩ := hfile
    rw [Path.below_nil, hdirectory] at hcontent
    cases hcontent
  · rw [List.concat_eq_append] at hkept ⊢
    rw [isKept_below_iff, List.dropLast_concat] at hkept
    exact ⟨directories, name, rfl, hkept⟩

/-- What is taken is determined by the order and by what it is. -/
theorem eq_taken (hdirectory : t.look p = .ok (some .directory))
    (hbelow : ∀ q ∈ found, ∃ way, q = p.below way)
    (hsorted : files.Pairwise fun q r => inOrder q r = true)
    (hcount : ∀ q, Clear t ignored p q → files.count q = found.count q)
    (hclear : ∀ q ∈ files, Clear t ignored p q) : files = taken t ignored p found := by
  have hperm : files.Perm (taken t ignored p found) := by
    refine List.perm_iff_count.2 fun q => ?_
    by_cases hq : Clear t ignored p q
    · rw [hcount q hq, count_taken hq]
    · rw [List.count_eq_zero_of_not_mem (mt (hclear q) hq),
        List.count_eq_zero_of_not_mem (mt (clear_of_mem_taken hdirectory hbelow) hq)]
  refine hperm.eq_of_pairwise (fun q r hq hr h h' => ?_) hsorted pairwise_taken
  obtain ⟨-, directories, name, rfl, -⟩ := hclear q hq
  obtain ⟨-, directories', name', rfl, -⟩ := clear_of_mem_taken hdirectory hbelow hr
  exact below_eq_of_inOrder h h'

/-- A directory stands for what is taken below it. -/
theorem standsFor_taken (hpattern : Glob.Admissible pattern)
    (hdirectory : t.look p = .ok (some .directory)) (hfound : Glob.paths t pattern p = .ok found)
    (hshort : ∀ q ∈ found, t.find q ≠ .error .nameTooLong) :
    StandsFor t pattern ignored p (taken t ignored p found) := by
  have hbelow := @Glob.staysBelow_paths t pattern hpattern p
  rw [hfound] at hbelow
  exact .directory hdirectory hfound hshort pairwise_taken (fun q hq => count_taken hq)
    fun q hq => clear_of_mem_taken hdirectory hbelow hq

/-- Matches that are found in order need no sorting. -/
theorem standsFor_of_ordered (hpattern : Glob.Admissible pattern)
    (hdirectory : t.look p = .ok (some .directory)) (hfound : Glob.paths t pattern p = .ok found)
    (hshort : ∀ q ∈ found, t.find q ≠ .error .nameTooLong)
    (hordered : found.Pairwise fun q r => inOrder q r = true) :
    StandsFor t pattern ignored p
      ((found.filter fun q => (t.isFile q).toOption == some true).filter (isKept ignored p)) := by
  have htaken := @standsFor_taken t pattern ignored p found hpattern hdirectory hfound hshort
  rwa [taken, List.mergeSort_of_pairwise hordered] at htaken

theorem filesOf_eq (t : FileTree) (pattern : String) (ignored : List String) (p : Path) :
    filesOf t pattern ignored p =
      match t.look p with
      | .error fault => .error fault
      | .ok none => .error (.inputAbsent p.toText)
      | .ok (some .directory) =>
        match Glob.paths t pattern p with
        | .error fault => .error fault
        | .ok found =>
          (filesOnly t (found.mergeSort inOrder)).map (·.filter (isKept ignored p))
      | .ok (some _) => .ok [p] := by
  rw [filesOf, FileTree.isDirectory, FileTree.exists?]
  cases t.look p with
  | error fault => rfl
  | ok node =>
      cases node with
      | none => rfl
      | some node => cases node <;> rfl

/-- The files in a directory are found if all matches are short enough. -/
theorem filesOnly_eq_ok_iff : filesOnly t (found.mergeSort inOrder) = .ok files ↔
    (∀ q ∈ found, t.find q ≠ .error .nameTooLong) ∧
      files = (found.mergeSort inOrder).filter fun q => (t.isFile q).toOption == some true := by
  rw [filesOnly, filterM_eq_ok_iff]
  simp only [List.mem_mergeSort, FileTree.exists_isFile_iff]

theorem filesOf_eq_ok_iff (hpattern : Glob.Admissible pattern) :
    filesOf t pattern ignored p = .ok files ↔ StandsFor t pattern ignored p files := by
  rw [filesOf_eq]
  constructor
  · intro h
    split at h
    · cases h
    · cases h
    · next hlook =>
        cases hfound : Glob.paths t pattern p with
        | error fault =>
            rw [hfound] at h
            cases h
        | ok found =>
            simp only [hfound] at h
            cases hfiles : filesOnly t (found.mergeSort inOrder) with
            | error fault =>
                rw [hfiles] at h
                cases h
            | ok kept =>
                rw [hfiles] at h
                obtain ⟨hshort, rfl⟩ := filesOnly_eq_ok_iff.1 hfiles
                cases h
                exact standsFor_taken hpattern hlook hfound hshort
    · next node hnode hlook =>
        cases h
        exact .leaf ⟨node, hlook, hnode⟩
  · rintro (⟨node, hlook, hnode⟩ | ⟨hlook, hfound, hshort, hsorted, hcount, hclear⟩)
    · rw [hlook]
      cases node with
      | directory => exact absurd rfl hnode
      | file | socket => rfl
    · have hbelow := @Glob.staysBelow_paths t pattern hpattern p
      rw [hfound] at hbelow
      rw [hlook, hfound, eq_taken hlook hbelow hsorted hcount hclear]
      simp only [filesOnly_eq_ok_iff.2 ⟨hshort, rfl⟩]
      rfl

/-- The search for files stops at the first match that is too long. -/
theorem exists_of_filesOnly_eq_error {fault : Fault}
    (h : filesOnly t (found.mergeSort inOrder) = .error fault) :
    ∃ q ∈ found, t.TooLong q fault ∧
      ∀ r ∈ found, t.find r = .error .nameTooLong → inOrder q r = true := by
  obtain ⟨front, q, back, hsplit, hfront, hstop⟩ := filterM_eq_error_iff.1 h
  have hsorted := List.pairwise_mergeSort inOrder_trans inOrder_total found
  rw [hsplit, List.pairwise_append, List.pairwise_cons] at hsorted
  have hmem (r : Path) : r ∈ found ↔ r ∈ front ∨ r = q ∨ r ∈ back := by
    rw [← List.mem_cons, ← List.mem_append, ← hsplit, List.mem_mergeSort]
  refine ⟨q, (hmem q).2 (.inr (.inl rfl)), FileTree.map_look_eq_error_iff.1 hstop,
    fun r hr hlong => ?_⟩
  rcases (hmem r).1 hr with hr | rfl | hr
  · exact absurd hlong (FileTree.exists_isFile_iff.1 (hfront r hr))
  · exact inOrder_refl r
  · exact hsorted.2.1.1 r hr

/-- Why an input stands for no files: it is absent, or too long to be looked up, or the search in it
comes to a path that cannot be looked into, or finds matches that are too long, the first of which
counts. -/
inductive Stops (t : FileTree) (pattern : String) (p : Path) : Fault → Prop where
  | absent (h : t.look p = .ok none) : Stops t pattern p (.inputAbsent p.toText)
  | tooLong {fault : Fault} (h : t.TooLong p fault) : Stops t pattern p fault
  | search {way : List String} {fault : Fault} (hdirectory : t.look p = .ok (some .directory))
      (hsearch : Glob.paths t pattern p = .error fault)
      (h : t.enter (p.below way) = .error fault) : Stops t pattern p fault
  | found {found : List Path} {q : Path} {fault : Fault}
      (hdirectory : t.look p = .ok (some .directory))
      (hfound : Glob.paths t pattern p = .ok found) (hq : q ∈ found) (h : t.TooLong q fault)
      (hfirst : ∀ r ∈ found, t.find r = .error .nameTooLong → inOrder q r = true) :
      Stops t pattern p fault

theorem stops_inputAbsent_iff {text : String} :
    Stops t pattern p (.inputAbsent text) ↔ t.look p = .ok none ∧ p.toText = text := by
  constructor
  · rintro (hlook | ⟨-, hfault⟩ | ⟨-, -, hstop⟩ | ⟨-, -, -, ⟨-, hfault⟩, -⟩)
    · exact ⟨hlook, rfl⟩
    · cases hfault
    · obtain ⟨_, hfault⟩ := FileTree.exists_of_enter_eq_error hstop
      cases hfault
    · cases hfault
  · rintro ⟨hlook, rfl⟩
    exact .absent hlook

theorem not_stops_nothingToAnalyze : ¬Stops t pattern p .nothingToAnalyze := by
  rintro (_ | ⟨-, hfault⟩ | ⟨-, -, hstop⟩ | ⟨-, -, -, ⟨-, hfault⟩, -⟩)
  · cases hfault
  · obtain ⟨_, hfault⟩ := FileTree.exists_of_enter_eq_error hstop
    cases hfault
  · cases hfault

theorem stops_of_filesOf (hpattern : Glob.Admissible pattern) {fault : Fault}
    (h : filesOf t pattern ignored p = .error fault) : Stops t pattern p fault := by
  rw [filesOf_eq] at h
  split at h
  · next hlook =>
      cases h
      exact .tooLong (FileTree.look_eq_error_iff.1 hlook)
  · next hlook =>
      cases h
      exact .absent hlook
  · next hlook =>
      cases hfound : Glob.paths t pattern p with
      | error other =>
          have hbelow := @Glob.staysBelow_paths t pattern hpattern p
          rw [hfound] at h hbelow
          cases h
          obtain ⟨way, hstop⟩ := hbelow
          exact .search hlook hfound hstop
      | ok found =>
          simp only [hfound] at h
          cases hfiles : filesOnly t (found.mergeSort inOrder) with
          | ok kept =>
              rw [hfiles] at h
              cases h
          | error other =>
              rw [hfiles] at h
              cases h
              obtain ⟨q, hq, hlong, hfirst⟩ := exists_of_filesOnly_eq_error hfiles
              exact .found hlook hfound hq hlong hfirst
  · cases h

theorem filesOf_eq_error_iff (hpattern : Glob.Admissible pattern) {fault : Fault} :
    filesOf t pattern ignored p = .error fault ↔ Stops t pattern p fault := by
  refine ⟨stops_of_filesOf hpattern, fun h => ?_⟩
  rw [filesOf_eq]
  cases h with
  | absent hlook => rw [hlook]
  | tooLong hlong => rw [FileTree.look_eq_error_iff.2 hlong]
  | search hlook hsearch => rw [hlook, hsearch]
  | @found found q _ hlook hfound hq hlong hfirst =>
      have hbelow := @Glob.staysBelow_paths t pattern hpattern p
      rw [hfound] at hbelow
      rw [hlook, hfound]
      cases hfiles : filesOnly t (found.mergeSort inOrder) with
      | ok kept => exact absurd hlong.1 ((filesOnly_eq_ok_iff.1 hfiles).1 q hq)
      | error other =>
          obtain ⟨r, hr, hlong', hfirst'⟩ := exists_of_filesOnly_eq_error hfiles
          obtain ⟨way, rfl⟩ := hbelow q hq
          obtain ⟨way', rfl⟩ := hbelow r hr
          have heq := below_eq_of_inOrder (hfirst _ hr hlong'.1) (hfirst' _ hq hlong.1)
          simp only [hfiles, hlong.2, hlong'.2, heq]
          rfl

/-! Other directories to ignore. -/

/-- What is ignored does not decide whether an input stands for files. -/
theorem StandsFor.exists (hpattern : Glob.Admissible pattern)
    (h : StandsFor t pattern ignored p files) (others : List String) :
    ∃ files', StandsFor t pattern others p files' := by
  rcases h with hleaf | ⟨hlook, hfound, hshort, -, -, -⟩
  · exact ⟨_, .leaf hleaf⟩
  · exact ⟨_, standsFor_taken hpattern hlook hfound hshort⟩

theorem Clear.of_wider {wider : List String} (hwider : ∀ d ∈ ignored, d ∈ wider)
    (h : Clear t wider p q) : Clear t ignored p q := by
  obtain ⟨hfile, directories, name, hq, hclear⟩ := h
  exact ⟨hfile, directories, name, hq, fun d hd hignored => hclear d hd (hwider d hignored)⟩

/-- More ignored directories add no files. -/
theorem StandsFor.subset {wider : List String} {fewer : List Path}
    (hwider : ∀ d ∈ ignored, d ∈ wider) (h : StandsFor t pattern ignored p files)
    (h' : StandsFor t pattern wider p fewer) : fewer ⊆ files := by
  rcases h with ⟨node, hlook, hnode⟩ | ⟨hlook, hfound, -, -, hcount, -⟩ <;>
    rcases h' with ⟨node', hlook', hnode'⟩ | ⟨hlook', hfound', -, -, hcount', hclear'⟩
  · exact List.Subset.refl _
  · rw [hlook] at hlook'
    cases hlook'
    exact absurd rfl hnode
  · rw [hlook] at hlook'
    cases hlook'
    exact absurd rfl hnode'
  · rw [hfound] at hfound'
    cases hfound'
    intro q hq
    have hclear := hclear' q hq
    rw [← List.count_pos_iff, hcount q (hclear.of_wider hwider), ← hcount' q hclear]
    exact List.count_pos_iff.2 hq

end

/-! The files of all inputs. -/

section

variable {t : FileTree} {pattern : String} {ignored : List String} {inputs files : List Path}

/-- All inputs in front of an input stand for files. -/
def Reaches (t : FileTree) (pattern : String) (ignored : List String) (inputs : List Path)
    (p : Path) : Prop :=
  ∃ front back, inputs = front ++ p :: back ∧
    ∀ q ∈ front, ∃ files, StandsFor t pattern ignored q files

/-- All inputs stand for files, those of each in one list. -/
def AllStandFor (t : FileTree) (pattern : String) (ignored : List String) (inputs : List Path)
    (lists : List (List Path)) : Prop :=
  List.Forall₂ (StandsFor t pattern ignored) inputs lists

theorem mapM_filesOf_eq_ok_iff (hpattern : Glob.Admissible pattern) {lists : List (List Path)} :
    inputs.mapM (filesOf t pattern ignored) = .ok lists ↔
      AllStandFor t pattern ignored inputs lists := by
  rw [mapM_eq_ok_iff, AllStandFor]
  simp only [filesOf_eq_ok_iff hpattern]

theorem mapM_filesOf_eq_error_iff (hpattern : Glob.Admissible pattern) {fault : Fault} :
    inputs.mapM (filesOf t pattern ignored) = .error fault ↔
      ∃ p, Reaches t pattern ignored inputs p ∧ Stops t pattern p fault := by
  simp only [mapM_eq_error_iff, StopsAt, filesOf_eq_ok_iff hpattern, filesOf_eq_error_iff hpattern,
    Reaches]
  constructor
  · rintro ⟨front, p, back, hinputs, hfront, hstop⟩
    exact ⟨p, ⟨front, back, hinputs, hfront⟩, hstop⟩
  · rintro ⟨p, ⟨front, back, hinputs, hfront⟩, hstop⟩
    exact ⟨front, p, back, hinputs, hfront, hstop⟩

theorem resolve_of_lists {lists : List (List Path)}
    (h : inputs.mapM (filesOf t pattern ignored) = .ok lists) :
    resolve t pattern ignored inputs =
      if lists.flatten = [] then .error .nothingToAnalyze
      else .ok (firstOccurrences lists.flatten) := by
  rw [resolve, h]
  simp only [List.isEmpty_iff]

theorem resolve_of_fault {fault : Fault}
    (h : inputs.mapM (filesOf t pattern ignored) = .error fault) :
    resolve t pattern ignored inputs = .error fault := by
  rw [resolve, h]

theorem resolve_eq_ok_iff (hpattern : Glob.Admissible pattern) :
    resolve t pattern ignored inputs = .ok files ↔
      ∃ lists, AllStandFor t pattern ignored inputs lists ∧ lists.flatten ≠ [] ∧
        ListsOnce (fun _ => True) lists.flatten files := by
  simp only [← mapM_filesOf_eq_ok_iff hpattern, ← firstOccurrences_eq_iff]
  constructor
  · intro h
    cases hlists : inputs.mapM (filesOf t pattern ignored) with
    | error fault =>
        rw [resolve_of_fault hlists] at h
        cases h
    | ok lists =>
        rw [resolve_of_lists hlists] at h
        split at h
        · cases h
        · next hne => exact ⟨lists, rfl, hne, Except.ok.inj h⟩
  · rintro ⟨lists, hlists, hne, rfl⟩
    rw [resolve_of_lists hlists, if_neg hne]

/-- Nothing is resolved because an input stops, or because the inputs stand for no files at all. -/
theorem resolve_eq_error_iff (hpattern : Glob.Admissible pattern) {fault : Fault} :
    resolve t pattern ignored inputs = .error fault ↔
      (∃ p, Reaches t pattern ignored inputs p ∧ Stops t pattern p fault) ∨
        fault = .nothingToAnalyze ∧
          ∃ lists, AllStandFor t pattern ignored inputs lists ∧ lists.flatten = [] := by
  rw [← mapM_filesOf_eq_error_iff hpattern]
  simp only [← mapM_filesOf_eq_ok_iff hpattern]
  cases hlists : inputs.mapM (filesOf t pattern ignored) with
  | error other =>
      rw [resolve_of_fault hlists]
      simp
  | ok lists =>
      rw [resolve_of_lists hlists]
      constructor
      · intro h
        split at h
        · next hnil => exact .inr ⟨(Except.error.inj h).symm, lists, rfl, hnil⟩
        · cases h
      · rintro (h | ⟨rfl, _, h, hnil⟩)
        · cases h
        · cases h
          rw [if_pos hnil]

/-- A change of what is ignored lets as many inputs stand for files. -/
theorem AllStandFor.exists (hpattern : Glob.Admissible pattern) {lists : List (List Path)}
    (h : AllStandFor t pattern ignored inputs lists) (others : List String) :
    ∃ lists', AllStandFor t pattern others inputs lists' := by
  induction h with
  | nil => exact ⟨[], .nil⟩
  | cons hp _ ih =>
      obtain ⟨files, hfiles⟩ := hp.exists hpattern others
      obtain ⟨lists, hlists⟩ := ih
      exact ⟨files :: lists, .cons hfiles hlists⟩

theorem AllStandFor.subset {wider : List String} {lists fewer : List (List Path)}
    (hwider : ∀ d ∈ ignored, d ∈ wider) (h : AllStandFor t pattern ignored inputs lists)
    (h' : AllStandFor t pattern wider inputs fewer) : fewer.flatten ⊆ lists.flatten := by
  induction h generalizing fewer with
  | nil =>
      cases h'
      exact List.Subset.refl _
  | cons hp _ ih =>
      cases h' with
      | cons hp' hrest =>
          intro q hq
          rw [List.flatten_cons, List.mem_append] at hq ⊢
          exact hq.imp (hp.subset hwider hp' ·) (ih hrest ·)

/-- An input that is no directory is among the files, whatever is ignored. -/
theorem AllStandFor.mem {p : Path} {lists : List (List Path)}
    (h : AllStandFor t pattern ignored inputs lists) (hp : p ∈ inputs) (hleaf : t.IsLeaf p) :
    p ∈ lists.flatten := by
  obtain ⟨files, hfiles, hstands⟩ := exists_right_of_mem h hp
  obtain ⟨node, hnode, hne⟩ := hleaf
  cases hstands with
  | leaf => exact List.mem_flatten.2 ⟨[p], hfiles, List.mem_singleton_self p⟩
  | directory hdirectory =>
      rw [hdirectory] at hnode
      cases hnode
      exact absurd rfl hne

/-- Inputs that stand for some files are resolved to them. -/
theorem AllStandFor.exists_resolve (hpattern : Glob.Admissible pattern) {lists : List (List Path)}
    (h : AllStandFor t pattern ignored inputs lists) (hne : lists.flatten ≠ []) :
    ∃ files, resolve t pattern ignored inputs = .ok files ∧ ∀ p, p ∈ files ↔ p ∈ lists.flatten :=
  ⟨_, (resolve_eq_ok_iff hpattern).2 ⟨lists, h, hne, firstOccurrences_eq_iff.1 rfl⟩,
    fun _ => mem_firstOccurrences⟩

/-- More ignored directories take files away, but none that is itself an input. -/
theorem resolve_wider (hpattern : Glob.Admissible pattern) {wider : List String}
    (hwider : ∀ d ∈ ignored, d ∈ wider) :
    (∀ fewer, resolve t pattern wider inputs = .ok fewer →
      ∃ files, resolve t pattern ignored inputs = .ok files ∧ fewer ⊆ files) ∧
    ∀ files, resolve t pattern ignored inputs = .ok files → ∀ p ∈ inputs, t.IsLeaf p →
      ∃ fewer, resolve t pattern wider inputs = .ok fewer ∧ p ∈ fewer := by
  constructor
  · intro fewer h
    obtain ⟨fewerLists, hfewer, hne, honce⟩ := (resolve_eq_ok_iff hpattern).1 h
    obtain ⟨lists, hlists⟩ := hfewer.exists hpattern ignored
    have hsubset := hlists.subset hwider hfewer
    obtain ⟨files, hfiles, hmem⟩ := hlists.exists_resolve hpattern fun hnil =>
      hne (List.subset_nil.1 (hnil ▸ hsubset))
    exact ⟨files, hfiles, fun p hp => (hmem p).2 (hsubset ((honce.mem_iff p).1 hp).1)⟩
  · intro files h p hp hleaf
    obtain ⟨lists, hlists, -, -⟩ := (resolve_eq_ok_iff hpattern).1 h
    obtain ⟨fewerLists, hfewer⟩ := hlists.exists hpattern wider
    have hpmem := hfewer.mem hp hleaf
    obtain ⟨fewer, hresolve, hmem⟩ := hfewer.exists_resolve hpattern (List.ne_nil_of_mem hpmem)
    exact ⟨fewer, hresolve, (hmem p).2 hpmem⟩

/-- The inputs are taken in their order, and the first one that is absent, or that leads to a path
that cannot be looked into, stops the rest. Otherwise the result lists once what they stand for, if
that is anything. More ignored directories take files away, but none that is itself an input. -/
theorem resolve_iff (t : FileTree) {pattern : String} (ignored : List String) (inputs : List Path)
    (hpattern : Glob.Admissible pattern) :
    (∀ text, resolve t pattern ignored inputs = .error (.inputAbsent text) ↔
      ∃ p, Reaches t pattern ignored inputs p ∧ t.look p = .ok none ∧ p.toText = text) ∧
    (resolve t pattern ignored inputs = .error .nothingToAnalyze ↔
      ∃ lists, AllStandFor t pattern ignored inputs lists ∧ lists.flatten = []) ∧
    (∀ files, resolve t pattern ignored inputs = .ok files ↔
      ∃ lists, AllStandFor t pattern ignored inputs lists ∧ lists.flatten ≠ [] ∧
        ListsOnce (fun _ => True) lists.flatten files) ∧
    (∀ fault, fault ≠ .nothingToAnalyze → (resolve t pattern ignored inputs = .error fault ↔
      ∃ p, Reaches t pattern ignored inputs p ∧ Stops t pattern p fault)) ∧
    ∀ wider, (∀ d ∈ ignored, d ∈ wider) →
      (∀ fewer, resolve t pattern wider inputs = .ok fewer →
        ∃ files, resolve t pattern ignored inputs = .ok files ∧ fewer ⊆ files) ∧
      ∀ files, resolve t pattern ignored inputs = .ok files → ∀ p ∈ inputs, t.IsLeaf p →
        ∃ fewer, resolve t pattern wider inputs = .ok fewer ∧ p ∈ fewer := by
  refine ⟨fun text => ?_, ?_, fun files => resolve_eq_ok_iff hpattern, fun fault hne => ?_,
    fun wider hwider => resolve_wider hpattern hwider⟩
  · rw [resolve_eq_error_iff hpattern]
    simp only [stops_inputAbsent_iff]
    simp
  · rw [resolve_eq_error_iff hpattern, or_iff_right]
    · simp
    · rintro ⟨p, -, hstop⟩
      exact not_stops_nothingToAnalyze hstop
  · rw [resolve_eq_error_iff hpattern, or_iff_left fun h => hne h.1]

end

/-- The pattern for source files at any depth can be followed. -/
theorem admissible_sources : Glob.Admissible "**/*.al" := by
  have hok : (Glob.piecesOf "**/*.al").toBool = true := by decide +kernel
  cases hpieces : Glob.piecesOf "**/*.al" with
  | error fault =>
      rw [hpieces] at hok
      cases hok
  | ok pieces => exact ⟨pieces, hpieces⟩

/-- A project with a directory to ignore and another one of the same name beside it, and with a
socket that is called like a source file. -/
def projectTree : FileTree :=
  .ofFiles [] [
    ("app/src/Sales.al", .file []),
    ("app/src/modules/Vendor.al", .file []),
    ("app/Bonus.al", .file []),
    ("app/feed.al", .socket),
    ("app/notes.md", .file []),
    ("modules/Own.al", .file [])]

/-- Inputs that overlap: each file counts where it comes first, an input may be called like a
directory to ignore, and a file in such a directory, or a socket, can be given itself. -/
theorem resolve_projectTree :
    let inputs := ["app/src/Sales.al", "app", "app/src", "modules", "app/src/modules/Vendor.al",
      "app/feed.al"]
    let files := ["app/src/Sales.al", "app/Bonus.al", "modules/Own.al", "app/src/modules/Vendor.al",
      "app/feed.al"]
    Glob.Admissible "**/*.al" ∧
      resolve projectTree "**/*.al" ["modules"] (inputs.map .ofText) = .ok (files.map .ofText) ∧
      ∃ more, resolve projectTree "**/*.al" [] (inputs.map .ofText) = .ok more ∧
        files.map .ofText ⊆ more := by
  intro inputs files
  have hpattern := admissible_sources
  have happ : Glob.paths projectTree "**/*.al" (.ofText "app") =
      .ok (["app/Bonus.al", "app/feed.al", "app/src/Sales.al",
        "app/src/modules/Vendor.al"].map .ofText) := by
    decide +kernel
  have hsrc : Glob.paths projectTree "**/*.al" (.ofText "app/src") =
      .ok (["app/src/Sales.al", "app/src/modules/Vendor.al"].map .ofText) := by
    decide +kernel
  have hmodules : Glob.paths projectTree "**/*.al" (.ofText "modules") =
      .ok (["modules/Own.al"].map .ofText) := by
    decide +kernel
  have hsales : projectTree.IsLeaf (.ofText "app/src/Sales.al") :=
    ⟨.file [], by decide +kernel, by decide⟩
  have hvendor : projectTree.IsLeaf (.ofText "app/src/modules/Vendor.al") :=
    ⟨.file [], by decide +kernel, by decide⟩
  have hfeed : projectTree.IsLeaf (.ofText "app/feed.al") :=
    ⟨.socket, by decide +kernel, by decide⟩
  have hresolve : resolve projectTree "**/*.al" ["modules"] (inputs.map .ofText) =
      .ok (files.map .ofText) := by
    refine ((resolve_iff projectTree ["modules"] _ hpattern).2.2.1 _).2 ⟨_, .cons (.leaf hsales)
      (.cons (standsFor_of_ordered hpattern ?_ happ ?_ ?_)
        (.cons (standsFor_of_ordered hpattern ?_ hsrc ?_ ?_)
          (.cons (standsFor_of_ordered hpattern ?_ hmodules ?_ ?_)
            (.cons (.leaf hvendor) (.cons (.leaf hfeed) .nil))))), ?_,
      firstOccurrences_eq_iff.1 ?_⟩ <;>
      decide +kernel
  exact ⟨hpattern, hresolve,
    ((resolve_iff projectTree [] _ hpattern).2.2.2.2 ["modules"] (by simp)).1 _ hresolve⟩

/-- An input whose name is too long to be looked up is not reported as absent. -/
theorem resolve_longName :
    let input : Path := ⟨"", [String.ofList (List.replicate 256 'a')]⟩
    Glob.Admissible "**/*.al" ∧ (∀ node, (FileTree.ofFiles [] []).look input ≠ .ok (some node)) ∧
      resolve (.ofFiles [] []) "**/*.al" [] [input] =
        .error (.unreadableFile input.toText .nameTooLong) ∧
      resolve (.ofFiles [] []) "**/*.al" [] [input] ≠ .error (.inputAbsent input.toText) := by
  intro input
  have hnull : '\x00' ∉ input.toText.toList := by decide +kernel
  have hname : FileTree.nameLimit < (String.ofList (List.replicate 256 'a')).utf8ByteSize := by
    decide +kernel
  have hlook : (FileTree.ofFiles [] []).look input =
      .error (.unreadableFile input.toText .nameTooLong) :=
    FileTree.look_eq_error_iff.2 ⟨FileTree.find_of_longName rfl hnull hname, rfl⟩
  have hresolve : resolve (.ofFiles [] []) "**/*.al" [] [input] =
      .error (.unreadableFile input.toText .nameTooLong) := by
    apply resolve_of_fault
    rw [List.mapM_cons, filesOf_eq, hlook]
    rfl
  exact ⟨admissible_sources, by simp [hlook], hresolve, by simp [hresolve]⟩

end Inputs

end ExtensionAtlas
