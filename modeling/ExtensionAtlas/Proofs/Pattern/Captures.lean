import ExtensionAtlas.Proofs.Pattern.Scan

/-! What matches capture. Each capture of a match is made by a part of its pattern, which describes
it where it stands in the text. If no way through a pattern goes round a capture, every match has
it. -/

namespace ExtensionAtlas.Pattern

variable {σ : Type}

/-- The parts of a pattern that capture, with the names under which they do. -/
def parts : Pattern σ → List (σ × Pattern σ)
  | .both first second | .either first second => first.parts ++ second.parts
  | .capture slot inner => (slot, inner) :: inner.parts
  | _ => []

section

variable (accepts : Char → Bool) (slot : σ)

@[simp]
theorem parts_inOrder (ps : List (Pattern σ)) : (inOrder ps).parts = ps.flatMap parts := by
  induction ps with
  | nil => rfl
  | cons p ps ih => rw [inOrder, parts, ih, List.flatMap_cons]

@[simp]
theorem parts_oneOf (ps : List (Pattern σ)) : (oneOf ps).parts = ps.flatMap parts := by
  induction ps with
  | nil => rfl
  | cons p ps ih =>
      cases ps with
      | nil => exact (List.append_nil _).symm
      | cons q qs =>
          change p.parts ++ (oneOf (q :: qs)).parts = _
          rw [ih]
          rfl

@[simp]
theorem parts_letters (text : List Char) : (letters text : Pattern σ).parts = [] := by
  rw [letters, parts_inOrder, List.flatMap_eq_nil_iff]
  simp [parts]

@[simp]
theorem parts_word (keyword : String) : (word keyword : Pattern σ).parts = [] :=
  parts_letters keyword.toList

@[simp]
theorem parts_most : (most accepts : Pattern σ).parts = [] := rfl

@[simp]
theorem parts_fewest : (fewest accepts : Pattern σ).parts = [] := rfl

@[simp]
theorem parts_someMost : (someMost accepts : Pattern σ).parts = [] := rfl

@[simp]
theorem parts_blanks : (blanks : Pattern σ).parts = [] := rfl

@[simp]
theorem parts_someBlanks : (someBlanks : Pattern σ).parts = [] := rfl

@[simp]
theorem parts_char (c : Char) : (char c : Pattern σ).parts = [] := rfl

@[simp]
theorem parts_lineStart : (lineStart : Pattern σ).parts = [] := rfl

@[simp]
theorem parts_wordEdge : (wordEdge : Pattern σ).parts = [] := rfl

@[simp]
theorem parts_optional (p : Pattern σ) : (optional p).parts = p.parts := List.append_nil _

@[simp]
theorem parts_capture (inner : Pattern σ) :
    (capture slot inner).parts = (slot, inner) :: inner.parts := rfl

end

/-- Whether every way through a pattern captures something under a name. -/
def Always (slot : σ) : Pattern σ → Prop
  | .both first second => first.Always slot ∨ second.Always slot
  | .either first second => first.Always slot ∧ second.Always slot
  | .capture own inner => own = slot ∨ inner.Always slot
  | _ => False

theorem always_inOrder {slot : σ} {ps : List (Pattern σ)} :
    (inOrder ps).Always slot ↔ ∃ p ∈ ps, p.Always slot := by
  induction ps with
  | nil => simp [inOrder, Always]
  | cons p ps ih => rw [inOrder, Always, ih, List.exists_mem_cons_iff]

namespace Reads

variable {p : Pattern σ} {front stretch rest : List Char} {captures : Captures σ}

/-- What a pattern captures is described by a part of it. -/
theorem exists_part (h : p.Reads front stretch rest captures) {slot : σ} {s : Stretch}
    (hs : (slot, s) ∈ captures) : ∃ inner u v, (slot, inner) ∈ p.parts ∧
      front ++ stretch ++ rest = u ++ s.chars ++ v ∧ inner.Describes u s.chars v := by
  induction p generalizing front stretch rest captures with
  | both first second ihf ihs =>
      obtain ⟨u, v, own, own', rfl, rfl, hfirst, hsecond⟩ := h
      rcases List.mem_append.1 hs with hs | hs
      · obtain ⟨inner, a, b, hinner, htext, hd⟩ := ihs hsecond hs
        refine ⟨inner, a, b, List.mem_append_right _ hinner, ?_, hd⟩
        rw [← htext, List.append_assoc front u]
      · obtain ⟨inner, a, b, hinner, htext, hd⟩ := ihf hfirst hs
        refine ⟨inner, a, b, List.mem_append_left _ hinner, ?_, hd⟩
        rw [← htext, ← List.append_assoc, ← List.append_assoc]
  | either first second ihf ihs =>
      rcases h with h | h
      · obtain ⟨inner, a, b, hinner, hd⟩ := ihf h hs
        exact ⟨inner, a, b, List.mem_append_left _ hinner, hd⟩
      · obtain ⟨inner, a, b, hinner, hd⟩ := ihs h hs
        exact ⟨inner, a, b, List.mem_append_right _ hinner, hd⟩
  | capture own inner ih =>
      obtain ⟨captures, rfl, hinner⟩ := h
      rcases List.mem_cons.1 hs with heq | hs
      · cases heq
        refine ⟨inner, front, rest, List.mem_cons_self, ?_, ?_⟩ <;>
          rw [Stretch.chars, List.take_left]
        exact hinner.describes
      · obtain ⟨part, a, b, hpart, hd⟩ := ih hinner hs
        exact ⟨part, a, b, List.mem_cons_of_mem _ hpart, hd⟩
  | _ =>
      rw [h.2] at hs
      exact absurd hs List.not_mem_nil

/-- A pattern without parts that capture captures nothing. -/
theorem captures_eq_nil (h : p.Reads front stretch rest captures) (hparts : p.parts = []) :
    captures = [] := by
  refine List.eq_nil_iff_forall_not_mem.2 fun (slot, s) hs => ?_
  obtain ⟨inner, -, -, hinner, -⟩ := h.exists_part hs
  rw [hparts] at hinner
  exact List.not_mem_nil hinner

/-- What no way through a pattern goes round is captured. -/
theorem exists_of_always (h : p.Reads front stretch rest captures) {slot : σ}
    (halways : p.Always slot) : ∃ s, (slot, s) ∈ captures := by
  induction p generalizing front stretch rest captures with
  | both first second ihf ihs =>
      obtain ⟨u, v, own, own', -, rfl, hfirst, hsecond⟩ := h
      rcases halways with halways | halways
      · obtain ⟨s, hs⟩ := ihf hfirst halways
        exact ⟨s, List.mem_append_right _ hs⟩
      · obtain ⟨s, hs⟩ := ihs hsecond halways
        exact ⟨s, List.mem_append_left _ hs⟩
  | either first second ihf ihs =>
      rcases h with h | h
      · exact ihf h halways.1
      · exact ihs h halways.2
  | capture own inner ih =>
      obtain ⟨captures, rfl, hinner⟩ := h
      rcases halways with rfl | halways
      · exact ⟨_, List.mem_cons_self⟩
      · obtain ⟨s, hs⟩ := ih hinner halways
        exact ⟨s, List.mem_cons_of_mem _ hs⟩
  | _ => exact absurd halways id

end Reads

theorem reads_of_matchAt {p : Pattern σ} {front text : List Char} {m : Match σ}
    (h : p.matchAt (.between front text) = some m) :
    ∃ stretch rest, text = stretch ++ rest ∧ p.Reads front stretch rest m.captures := by
  obtain ⟨stretch, rest, own, htext, hreads, hm⟩ := reads_of_run h
  refine ⟨stretch, rest, htext, ?_⟩
  rwa [← Option.some.inj hm, List.append_nil]

section

variable [BEq σ] [LawfulBEq σ] {p inner : Pattern σ} {slot : σ} {text captured : List Char}
  {m : Match σ}

/-- What a match of a search captures under a name stands in the text and is described by a part
with that name. -/
theorem exists_part_of_text? (hm : m ∈ p.all text) (h : m.text? slot = some captured) :
    ∃ part u v, (slot, part) ∈ p.parts ∧ text = u ++ captured ++ v
      ∧ part.Describes u captured v := by
  obtain ⟨front, _, rfl, hmatch⟩ := exists_matchAt_of_mem_all hm
  obtain ⟨stretch, rest, rfl, hreads⟩ := reads_of_matchAt hmatch
  obtain ⟨s, hlookup, rfl⟩ := Option.map_eq_some_iff.1 h
  obtain ⟨_, _, hsplit, -⟩ := List.lookup_eq_some_iff.1 hlookup
  have hs : (slot, s) ∈ m.captures := hsplit ▸ List.mem_append_right _ List.mem_cons_self
  obtain ⟨part, u, v, hpart, hsource, hd⟩ := hreads.exists_part hs
  rw [List.append_assoc] at hsource
  exact ⟨part, u, v, hpart, hsource, hd⟩

/-- Every match of a search captures what no way through the pattern goes round. -/
theorem exists_text?_of_always (halways : p.Always slot) (hm : m ∈ p.all text) :
    ∃ captured, m.text? slot = some captured := by
  obtain ⟨front, _, rfl, hmatch⟩ := exists_matchAt_of_mem_all hm
  obtain ⟨stretch, rest, rfl, hreads⟩ := reads_of_matchAt hmatch
  obtain ⟨s, hs⟩ := hreads.exists_of_always halways
  rw [Match.text?]
  cases hlookup : m.captures.lookup slot with
  | none =>
      have hne := List.lookup_eq_none_iff.1 hlookup _ hs
      simp at hne
  | some s' => exact ⟨_, rfl⟩

/-- What every match of a search captures under a name is described by the part with that name,
if there is only one, and stands in the text. -/
theorem describes_text_of_mem_all (halways : p.Always slot)
    (hone : ∀ part, (slot, part) ∈ p.parts → part = inner) (hm : m ∈ p.all text) :
    ∃ u v, text = u ++ m.text slot ++ v ∧ inner.Describes u (m.text slot) v := by
  obtain ⟨captured, hcaptured⟩ := exists_text?_of_always halways hm
  obtain ⟨part, u, v, hpart, htext, hd⟩ := exists_part_of_text? hm hcaptured
  rw [Match.text, hcaptured, Option.getD_some]
  exact ⟨u, v, htext, hone part hpart ▸ hd⟩

end

end ExtensionAtlas.Pattern
