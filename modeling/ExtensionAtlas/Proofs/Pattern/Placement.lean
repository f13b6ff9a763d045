import ExtensionAtlas.Pattern.Ends
import ExtensionAtlas.Proofs.Pattern.Scan
import ExtensionAtlas.Text.Name

/-! How what a pattern finds depends on the text in front of a place. Only the last character of
that text counts, and only for a pattern that asks for the start of a line or the edge of a word. A
pattern overlooks a character if it finds behind it what it finds at the start of a text; every
pattern overlooks a line feed. -/

namespace ExtensionAtlas

/-- The same place when a text of some length that ends with a character stands in front. -/
def Cursor.behind (last : Char) (length : Nat) (c : Cursor) : Cursor :=
  ⟨some (c.before.getD last), c.rest, c.offset + length⟩

/-- The same match when a text stands in front. -/
def Match.behind {σ : Type} (last : Char) (length : Nat) (m : Match σ) : Match σ :=
  ⟨m.start.behind last length, m.stop.behind last length, m.captures⟩

theorem Match.length_behind {σ : Type} (last : Char) (length : Nat) (m : Match σ) :
    (m.behind last length).length = m.length :=
  Nat.add_sub_add_right ..

namespace Pattern

variable {σ : Type} {last : Char}

/-- A character that looks to a pattern like the start of a text. -/
def Overlooks (last : Char) : Pattern σ → Prop
  | .both first second | .either first second => first.Overlooks last ∧ second.Overlooks last
  | .capture _ inner => inner.Overlooks last
  | .wordEdge => Text.isWord last = false
  | .lineStart => last = '\n'
  | .empty | .one _ | .most _ | .fewest _ => True

theorem overlooks_newline (p : Pattern σ) : p.Overlooks '\n' := by
  induction p with
  | both first second ihf ihs => exact ⟨ihf, ihs⟩
  | either first second ihf ihs => exact ⟨ihf, ihs⟩
  | capture slot inner ih => exact ih
  | wordEdge => exact (by decide +kernel : Text.isWord '\n' = false)
  | lineStart => rfl
  | _ => trivial

theorem overlooks_inOrder {ps : List (Pattern σ)} :
    (inOrder ps).Overlooks last ↔ ∀ p ∈ ps, p.Overlooks last := by
  induction ps with
  | nil => simp [inOrder, Overlooks]
  | cons p ps ih => rw [inOrder, Overlooks, ih, List.forall_mem_cons]

theorem overlooks_oneOf {ps : List (Pattern σ)} (h : ∀ p ∈ ps, p.Overlooks last) :
    (oneOf ps).Overlooks last := by
  induction ps with
  | nil => trivial
  | cons p ps ih =>
      obtain ⟨hp, hps⟩ := List.forall_mem_cons.1 h
      cases ps with
      | nil => exact hp
      | cons q ps => exact ⟨hp, ih hps⟩

theorem overlooks_letters (last : Char) (text : List Char) :
    (letters text : Pattern σ).Overlooks last := by
  rw [letters, overlooks_inOrder]
  intro p hp
  obtain ⟨wanted, -, rfl⟩ := List.mem_map.1 hp
  trivial

theorem overlooks_name (last : Char) (slot : σ) : (name slot).Overlooks last := by
  simp [name, oneOf, quotedName, inOrder, someMost, char, Overlooks]

/-- A longest run passes over a row of its class if the rest of the pattern starts with no character
of the class. -/
theorem runMost_append {β : Type} {accepts : Char → Bool} {k : Cursor → Option β}
    (hk : ∀ front x rest, accepts x = true → k (.between front (x :: rest)) = none)
    {u : List Char} (hu : ∀ x ∈ u, accepts x = true) (front rest : List Char) :
    runMost accepts k front.getLast? front.length (u ++ rest) =
      runMost accepts k (front ++ u).getLast? (front ++ u).length rest := by
  induction u generalizing front with
  | nil => rw [List.append_nil, List.nil_append]
  | cons x u ih =>
      obtain ⟨hx, hu⟩ := List.forall_mem_cons.1 hu
      have hrest := ih hu (front ++ [x])
      have hhere : k ⟨front.getLast?, x :: (u ++ rest), front.length⟩ = none := hk front x _ hx
      rw [List.getLast?_concat, List.length_append, List.length_singleton, List.append_assoc,
        List.singleton_append] at hrest
      rw [List.cons_append, runMost_cons, if_pos hx, hhere, Option.or_none, hrest]

/-! The ends of runs and patterns. -/

section

variable (accepts : Char → Bool) (last : Char) (length : Nat)

theorem endsMost_behind (before : Option Char) (offset : Nat) (text : List Char) :
    endsMost accepts (some (before.getD last)) (offset + length) text =
      (endsMost accepts before offset text).map (Cursor.behind last length) := by
  induction text generalizing before offset with
  | nil => rfl
  | cons x rest ih =>
      have hrest := ih (some x) (offset + 1)
      rw [Option.getD_some, Nat.add_right_comm] at hrest
      rw [endsMost, endsMost, hrest]
      split
      · rw [List.map_append]
        rfl
      · rfl

theorem endsFewest_behind (before : Option Char) (offset : Nat) (text : List Char) :
    endsFewest accepts (some (before.getD last)) (offset + length) text =
      (endsFewest accepts before offset text).map (Cursor.behind last length) := by
  induction text generalizing before offset with
  | nil => rfl
  | cons x rest ih =>
      have hrest := ih (some x) (offset + 1)
      rw [Option.getD_some, Nat.add_right_comm] at hrest
      rw [endsFewest, endsFewest, hrest, List.map_cons]
      split <;> rfl

end

theorem atLineStart_behind (length : Nat) (c : Cursor) :
    (c.behind '\n' length).atLineStart = c.atLineStart := by
  cases hbefore : c.before <;> simp [Cursor.behind, Cursor.atLineStart, hbefore]

theorem atWordEdge_behind (hlast : Text.isWord last = false) (length : Nat) (c : Cursor) :
    (c.behind last length).atWordEdge = c.atWordEdge := by
  cases hbefore : c.before <;> simp [Cursor.behind, Cursor.atWordEdge, hbefore, hlast]

/-- A text that a pattern overlooks moves its ends and changes nothing else. -/
theorem ends_behind {p : Pattern σ} (h : p.Overlooks last) (length : Nat) (c : Cursor)
    (captures : Captures σ) : p.ends (c.behind last length) captures =
      (p.ends c captures).map fun (e, captures) => (e.behind last length, captures) := by
  induction p generalizing c captures with
  | empty => rfl
  | one accepts =>
      obtain ⟨before, rest, offset⟩ := c
      cases rest with
      | nil => rfl
      | cons x rest =>
          simp only [ends, Cursor.behind]
          split
          · rw [Nat.add_right_comm]
            rfl
          · rfl
  | both first second ihf ihs =>
      rw [ends, ends, ihf h.1, List.flatMap_map, List.map_flatMap]
      exact congrArg (List.flatMap · _) (funext fun e => ihs h.2 e.1 e.2)
  | either first second ihf ihs => rw [ends, ends, ihf h.1, ihs h.2, List.map_append]
  | most accepts =>
      rw [ends, ends, List.map_map]
      exact (congrArg (List.map _) (endsMost_behind accepts last length _ _ _)).trans
        List.map_map
  | fewest accepts =>
      rw [ends, ends, List.map_map]
      exact (congrArg (List.map _) (endsFewest_behind accepts last length _ _ _)).trans
        List.map_map
  | capture slot inner ih =>
      rw [ends, ends, ih h, List.map_map, List.map_map]
      refine List.map_congr_left fun e _ => ?_
      simp [Cursor.behind, Nat.add_sub_add_right]
  | wordEdge =>
      rw [ends, ends, atWordEdge_behind h]
      split <;> rfl
  | lineStart =>
      obtain rfl : last = '\n' := h
      rw [ends, ends, atLineStart_behind]
      split <;> rfl

theorem matchAt_behind {p : Pattern σ} (h : p.Overlooks last) (length : Nat) (c : Cursor) :
    p.matchAt (c.behind last length) = (p.matchAt c).map (Match.behind last length) := by
  rw [matchAt, matchAt, run_eq_findSome?, run_eq_findSome?, ends_behind h]
  cases p.ends c [] <;> rfl

/-- A text that a pattern overlooks moves its matches and changes nothing else. -/
theorem allFrom_behind {p : Pattern σ} (h : p.Overlooks last) (length : Nat)
    (before : Option Char) (offset skip : Nat) (rest : List Char) :
    p.allFrom (some (before.getD last)) (offset + length) skip rest =
      (p.allFrom before offset skip rest).map (Match.behind last length) := by
  induction rest generalizing before offset skip with
  | nil =>
      cases skip with
      | succ skip => rfl
      | zero =>
          have hhere := matchAt_behind h length ⟨before, [], offset⟩
          rw [Cursor.behind] at hhere
          rw [allFrom, allFrom, hhere]
          cases p.matchAt ⟨before, [], offset⟩ <;> rfl
  | cons x rest ih =>
      have hnext (skip : Nat) : p.allFrom (some x) (offset + length + 1) skip rest =
          (p.allFrom (some x) (offset + 1) skip rest).map (Match.behind last length) := by
        rw [Nat.add_right_comm]
        exact ih (some x) (offset + 1) skip
      cases skip with
      | succ skip => exact hnext skip
      | zero =>
          have hhere := matchAt_behind h length ⟨before, x :: rest, offset⟩
          rw [Cursor.behind] at hhere
          rw [allFrom, allFrom, hhere]
          cases p.matchAt ⟨before, x :: rest, offset⟩ with
          | none => exact hnext 0
          | some m =>
              simp only [Option.map_some, Match.length_behind, hnext, List.map_cons]

/-- Behind a text that a pattern overlooks the matches are those of the rest alone. -/
theorem allBehind_eq_map {p : Pattern σ} {front : List Char} (hlast : front.getLast? = some last)
    (h : p.Overlooks last) (rest : List Char) :
    p.allBehind front rest = (p.all rest).map (Match.behind last front.length) := by
  have hmoved := allFrom_behind h front.length none 0 0 rest
  rw [Nat.zero_add] at hmoved
  rw [allBehind, hlast]
  exact hmoved

end Pattern

end ExtensionAtlas
