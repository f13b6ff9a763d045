import ExtensionAtlas.Files.Glob
import ExtensionAtlas.Proofs.Traversal

/-! What a search for a pattern looks up. It follows the pattern piece by piece, so everything that
it finds lies below the directory that it started from, and it stops only at a path below there that
cannot be looked into. -/

namespace ExtensionAtlas

@[simp] theorem Path.below_nil (p : Path) : p.below [] = p := by
  rw [below, List.append_nil]

@[simp] theorem Path.below_below (p : Path) (way more : List String) :
    (p.below way).below more = p.below (way ++ more) := by
  rw [below, below, below, List.append_assoc]

namespace FileTree

variable {t : FileTree} {p : Path}

/-- A path that is too long to be looked up, and the fault of trying. -/
def TooLong (t : FileTree) (p : Path) (fault : Fault) : Prop :=
  t.find p = .error .nameTooLong ∧ fault = .unreadableFile p.toText .nameTooLong

theorem look_eq_error_iff {fault : Fault} : t.look p = .error fault ↔ t.TooLong p fault := by
  rw [look, TooLong]
  cases hfind : t.find p with
  | ok place => simp
  | error cause => cases cause <;> simp [eq_comm]

/-- Whatever is asked of a path, only that it is too long can stop the answer. -/
theorem map_look_eq_error_iff {α : Type} {view : Option Node → α} {fault : Fault} :
    (t.look p).map view = .error fault ↔ t.TooLong p fault :=
  map_eq_error_iff.trans look_eq_error_iff

/-- A path that is too long cannot be looked into. -/
theorem TooLong.enter_eq {fault : Fault} (h : t.TooLong p fault) : t.enter p = .error fault := by
  rw [enter, h.1, h.2]

theorem exists_of_enter_eq_error {fault : Fault} (h : t.enter p = .error fault) :
    ∃ cause, fault = .unreadableFile p.toText cause := by
  rw [enter] at h
  split at h
  · next cause _ => exact ⟨cause, (Except.error.inj h).symm⟩
  · split at h
    · cases h
    · exact ⟨_, (Except.error.inj h).symm⟩

/-- A name that is too long makes its path too long. -/
theorem find_of_longName {name : String} (hhome : t.node? t.home = some .directory)
    (hnull : '\x00' ∉ (Path.mk "" [name]).toText.toList) (hname : nameLimit < name.utf8ByteSize) :
    t.find ⟨"", [name]⟩ = .error .nameTooLong := by
  rw [find, if_neg (by simpa using hnull)]
  split
  · rfl
  · change t.follow t.home [name] = _
    rw [follow, hhome]
    exact if_pos hname

end FileTree

namespace Glob

variable {t : FileTree} {p : Path}

/-- What a search finds, if it finds anything, lies below its start; if it stops, a path below its
start cannot be looked into. -/
def StaysBelow (t : FileTree) (p : Path) : Except Fault (List Path) → Prop
  | .ok found => ∀ q ∈ found, ∃ way, q = p.below way
  | .error fault => ∃ way, t.enter (p.below way) = .error fault

namespace StaysBelow

theorem up {way : List String} {result : Except Fault (List Path)}
    (h : StaysBelow t (p.below way) result) : StaysBelow t p result := by
  cases result with
  | ok found =>
      intro q hq
      obtain ⟨more, rfl⟩ := h q hq
      exact ⟨way ++ more, Path.below_below p way more⟩
  | error fault =>
      obtain ⟨more, hstop⟩ := h
      exact ⟨way ++ more, Path.below_below p way more ▸ hstop⟩

theorem itself : StaysBelow t p (.ok [p]) :=
  fun q hq => ⟨[], by rw [List.mem_singleton.1 hq, Path.below_nil]⟩

theorem nothing : StaysBelow t p (.ok []) :=
  fun _ hq => absurd hq List.not_mem_nil

/-- A search that has to look at its start first. -/
theorem after {α : Type} {look : Except Fault α} {search : α → Except Fault (List Path)}
    (hlook : ∀ fault, look = .error fault → t.enter p = .error fault)
    (hsearch : ∀ answer, StaysBelow t p (search answer)) : StaysBelow t p (look >>= search) := by
  cases hresult : look with
  | error fault => exact ⟨[], (Path.below_nil p).symm ▸ hlook fault hresult⟩
  | ok answer => exact hsearch answer

theorem visit {search : Path → Except Fault (List Path)}
    (hsearch : ∀ start, StaysBelow t start (search start)) (p : Path) :
    StaysBelow t p (visit t search p) := by
  have hfound := hsearch p
  rw [Glob.visit]
  cases hresult : search p with
  | error fault =>
      rw [hresult] at hfound
      exact hfound
  | ok found =>
      rw [hresult] at hfound
      cases hlist : t.list p with
      | error fault =>
          exact ⟨[], (Path.below_nil p).symm ▸ map_eq_error_iff.1 hlist⟩
      | ok entries => exact hfound

/-- Several searches in turn stay below if each does. -/
theorem flatten {ι : Type} {search : ι → Except Fault (List Path)} {starts : List ι}
    (h : ∀ start ∈ starts, StaysBelow t p (search start)) :
    StaysBelow t p (do let found ← starts.mapM search; return found.flatten) := by
  cases hresult : starts.mapM search with
  | ok lists =>
      intro q hq
      obtain ⟨list, hlist, hq⟩ := List.mem_flatten.1 hq
      obtain ⟨start, hstart, hsearch⟩ := exists_of_mem_mapM hresult hlist
      have hbelow := h start hstart
      rw [hsearch] at hbelow
      exact hbelow q hq
  | error fault =>
      obtain ⟨front, start, back, rfl, -, hstop⟩ := mapM_eq_error_iff.1 hresult
      have hbelow := h start (by simp)
      rwa [hstop] at hbelow

theorem append {first rest : Except Fault (List Path)} (hfirst : StaysBelow t p first)
    (hrest : StaysBelow t p rest) :
    StaysBelow t p (do let found ← first; let more ← rest; return found ++ more) := by
  cases first with
  | error fault => exact hfirst
  | ok found =>
      cases rest with
      | error fault => exact hrest
      | ok more => exact fun q hq => (List.mem_append.1 hq).elim (hfirst q) (hrest q)

end StaysBelow

theorem staysBelow_select (pieces : List Piece) (p : Path) :
    StaysBelow t p (select t pieces p) := by
  induction pieces generalizing p with
  | nil => exact .itself
  | cons piece pieces ih =>
      have hchild (name : String) : StaysBelow t p (select t pieces (p.child name)) := (ih _).up
      cases piece with
      | ending => exact .itself
      | exact name =>
          have hlook : ∀ fault, (if pieces.isEmpty then t.exists? (p.child name)
              else t.isDirectory (p.child name)) = .error fault →
              t.enter (p.child name) = .error fault := by
            intro fault h
            split at h <;> exact (FileTree.map_look_eq_error_iff.1 h).enter_eq
          rw [select]
          split
          · next fault h => exact ⟨[name], hlook fault h⟩
          · exact .nothing
          · exact hchild name
      | wild pattern =>
          exact .after (fun _ => map_eq_error_iff.1)
            fun _ => .flatten fun entry _ => hchild entry.1
      | anyDirectories =>
          have hvisit (start : Path) : StaysBelow t start (visit t (select t pieces) start) :=
            .visit ih start
          have hrest : StaysBelow t p (do
              let ways ← t.below p
              let found ← ways.mapM fun way => visit t (select t pieces) (p.below way)
              return found.flatten) :=
            .after (fun _ => map_eq_error_iff.1)
              fun _ => .flatten fun way _ => (hvisit (p.below way)).up
          simpa only [select, bind_assoc, pure_bind] using (hvisit p).append hrest

/-- A pattern that a search can follow. -/
def Admissible (pattern : String) : Prop := ∃ pieces, piecesOf pattern = .ok pieces

theorem staysBelow_paths {pattern : String} (h : Admissible pattern) (p : Path) :
    StaysBelow t p (paths t pattern p) := by
  obtain ⟨pieces, hpieces⟩ := h
  rw [paths, hpieces]
  change StaysBelow t p (t.isDirectory p >>= fun isDirectory =>
    if isDirectory then select t pieces p else .ok [])
  refine .after (fun _ h => (FileTree.map_look_eq_error_iff.1 h).enter_eq) fun isDirectory => ?_
  cases isDirectory
  · exact .nothing
  · exact staysBelow_select pieces p

end Glob

end ExtensionAtlas
