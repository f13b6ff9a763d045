import ExtensionAtlas.Pattern.Basic

/-! The ends of a pattern: every place behind a stretch that it describes, in order of preference.
`run_eq_findSome?` says that running a pattern finds the first end that its continuation accepts, so
what a pattern finds can be read off the list of its ends. -/

namespace ExtensionAtlas.Pattern

variable {σ β : Type}

/-- The cursors behind the runs of a class, the longest run first. -/
def endsMost (accepts : Char → Bool) (before : Option Char) (offset : Nat) :
    List Char → List Cursor
  | [] => [⟨before, [], offset⟩]
  | x :: rest =>
    if accepts x then
      endsMost accepts (some x) (offset + 1) rest ++ [⟨before, x :: rest, offset⟩]
    else [⟨before, x :: rest, offset⟩]

/-- The cursors behind the runs of a class, the shortest run first. -/
def endsFewest (accepts : Char → Bool) (before : Option Char) (offset : Nat) :
    List Char → List Cursor
  | [] => [⟨before, [], offset⟩]
  | x :: rest =>
    ⟨before, x :: rest, offset⟩
      :: if accepts x then endsFewest accepts (some x) (offset + 1) rest else []

/-- All ends of a pattern from a cursor on, in order of preference, with what was captured on the
way. -/
def ends : Pattern σ → Cursor → Captures σ → List (Cursor × Captures σ)
  | .empty, c, captures => [(c, captures)]
  | .one accepts, c, captures =>
    match c.rest with
    | [] => []
    | x :: rest => if accepts x then [(⟨some x, rest, c.offset + 1⟩, captures)] else []
  | .both first second, c, captures =>
    (first.ends c captures).flatMap fun (c, captures) => second.ends c captures
  | .either first second, c, captures => first.ends c captures ++ second.ends c captures
  | .most accepts, c, captures => (endsMost accepts c.before c.offset c.rest).map (·, captures)
  | .fewest accepts, c, captures =>
    (endsFewest accepts c.before c.offset c.rest).map (·, captures)
  | .capture slot inner, c, captures =>
    (inner.ends c captures).map fun (d, captures) =>
      (d, (slot, ⟨c.rest, d.offset - c.offset⟩) :: captures)
  | .wordEdge, c, captures => if c.atWordEdge then [(c, captures)] else []
  | .lineStart, c, captures => if c.atLineStart then [(c, captures)] else []

/-- The longest run is found first. -/
theorem runMost_eq_findSome? (accepts : Char → Bool) (k : Cursor → Option β)
    (before : Option Char) (offset : Nat) (text : List Char) :
    runMost accepts k before offset text = (endsMost accepts before offset text).findSome? k := by
  induction text generalizing before offset with
  | nil => simp [runMost, endsMost]
  | cons x rest ih =>
    by_cases h : accepts x
    · simp only [runMost, endsMost, h, if_true, ih, List.findSome?_append]
      cases List.findSome? k (endsMost accepts (some x) (offset + 1) rest) <;> simp
    · simp [runMost, endsMost, h]

/-- The shortest run is found first. -/
theorem runFewest_eq_findSome? (accepts : Char → Bool) (k : Cursor → Option β)
    (before : Option Char) (offset : Nat) (text : List Char) :
    runFewest accepts k before offset text
      = (endsFewest accepts before offset text).findSome? k := by
  induction text generalizing before offset with
  | nil => simp [runFewest, endsFewest]
  | cons x rest ih =>
    simp only [runFewest, endsFewest, ih, List.findSome?_cons]
    cases k ⟨before, x :: rest, offset⟩ <;> by_cases h : accepts x <;> simp [h]

/-- A run finds the first end that its continuation accepts. -/
theorem run_eq_findSome? (p : Pattern σ) (c : Cursor) (captures : Captures σ)
    (k : Cursor → Captures σ → Option β) :
    p.run c captures k = (p.ends c captures).findSome? fun (d, captures) => k d captures := by
  induction p generalizing c captures k with
  | empty => simp [run, ends]
  | one accepts =>
    cases h : c.rest with
    | nil => simp [run, ends, h]
    | cons x rest => by_cases hx : accepts x <;> simp [run, ends, h, hx]
  | both first second ihf ihs =>
    simp only [run, ends, ihf, ihs]
    induction first.ends c captures with
    | nil => simp
    | cons e es ih =>
      simp only [List.findSome?_cons, List.flatMap_cons, List.findSome?_append, ih]
      cases List.findSome? (fun x => k x.fst x.snd) (second.ends e.fst e.snd) <;> simp
  | either first second ihf ihs =>
    simp only [run, ends, ihf, ihs, List.findSome?_append]
    cases List.findSome? (fun (d, captures) => k d captures) (first.ends c captures) <;> simp
  | most accepts => simp [run, ends, runMost_eq_findSome?, List.findSome?_map, Function.comp_def]
  | fewest accepts =>
    simp [run, ends, runFewest_eq_findSome?, List.findSome?_map, Function.comp_def]
  | capture slot inner ih => simp [run, ends, ih, List.findSome?_map, Function.comp_def]
  | wordEdge => by_cases h : c.atWordEdge <;> simp [run, ends, h]
  | lineStart => by_cases h : c.atLineStart <;> simp [run, ends, h]

end ExtensionAtlas.Pattern
