import ExtensionAtlas.Proofs.Pattern.Language

/-! How a run goes on from a known text. Each pattern passes over the stretch that it prefers, if
what stands behind the stretch lets the continuation succeed there and nothing that is preferred
does. Success is stated for whatever is asked of the result. -/

namespace ExtensionAtlas

theorem Stretch.chars_between (front u rest : List Char) :
    (⟨u ++ rest, (front ++ u).length - front.length⟩ : Stretch).chars = u := by
  rw [Stretch.chars, List.length_append, Nat.add_sub_cancel_left]
  exact List.take_left

namespace Pattern

variable {σ β : Type} {front rest u : List Char} {accepts : Char → Bool}

section

variable {k : Cursor → Option β} {result : β}

theorem runMost_eq_some (hu : ∀ x ∈ u, accepts x = true)
    (hrest : ∀ x ∈ rest.head?, accepts x = false)
    (hk : k (.between (front ++ u) rest) = some result) :
    runMost accepts k front.getLast? front.length (u ++ rest) = some result := by
  induction u generalizing front with
  | nil =>
      rw [List.append_nil] at hk
      cases rest with
      | nil => exact hk
      | cons x rest =>
          rw [List.nil_append, runMost, hrest x rfl]
          exact hk
  | cons x u ih =>
      obtain ⟨hx, hu⟩ := List.forall_mem_cons.1 hu
      have hrun := @ih (front ++ [x]) hu (by
        rwa [List.append_assoc, List.singleton_append])
      rw [List.getLast?_concat, List.length_append, List.length_singleton] at hrun
      rw [List.cons_append, runMost, if_pos hx, hrun]

theorem runFewest_eq_some (hu : ∀ x ∈ u, accepts x = true)
    (hearly : ∀ v w, u = v ++ w → w ≠ [] → k (.between (front ++ v) (w ++ rest)) = none)
    (hk : k (.between (front ++ u) rest) = some result) :
    runFewest accepts k front.getLast? front.length (u ++ rest) = some result := by
  induction u generalizing front with
  | nil =>
      rw [List.append_nil] at hk
      cases rest with
      | nil => exact hk
      | cons x rest =>
          have hhere : k ⟨front.getLast?, x :: rest, front.length⟩ = some result := hk
          rw [List.nil_append, runFewest, hhere]
  | cons x u ih =>
      obtain ⟨hx, hu⟩ := List.forall_mem_cons.1 hu
      have hhere : k ⟨front.getLast?, x :: (u ++ rest), front.length⟩ = none := by
        have hnone := hearly [] (x :: u) rfl (List.cons_ne_nil x u)
        rwa [List.append_nil] at hnone
      have hrun := @ih (front ++ [x]) hu
        (by
          intro v w hvw hw
          rw [List.append_assoc, List.singleton_append]
          exact hearly (x :: v) w (by rw [hvw, List.cons_append]) hw)
        (by rwa [List.append_assoc, List.singleton_append])
      rw [List.getLast?_concat, List.length_append, List.length_singleton] at hrun
      rw [List.cons_append, runFewest, hhere]
      exact (if_pos hx).trans hrun

end

variable {captures : Captures σ} {k : Cursor → Captures σ → Option β} {good : β → Prop}

theorem run_nil {c : Cursor} : (inOrder []).run c captures k = k c captures := rfl

theorem run_cons {c : Cursor} {p : Pattern σ} {ps : List (Pattern σ)} :
    (inOrder (p :: ps)).run c captures k
      = p.run c captures fun c captures => (inOrder ps).run c captures k := rfl

theorem run_inOrder_append {c : Cursor} {ps qs : List (Pattern σ)} :
    (inOrder (ps ++ qs)).run c captures k
      = (inOrder ps).run c captures fun c captures => (inOrder qs).run c captures k := by
  induction ps generalizing c captures with
  | nil => rfl
  | cons p ps ih =>
      change p.run c captures _ = p.run c captures _
      congr 1
      funext c captures
      exact ih

theorem run_capture {slot : σ} {inner : Pattern σ} :
    (capture slot inner).run (.between front rest) captures k
      = inner.run (.between front rest) captures fun d captures =>
          k d ((slot, ⟨rest, d.offset - front.length⟩) :: captures) := rfl

theorem run_one {x : Char} (hx : accepts x = true) :
    (one accepts).run (.between front (x :: rest)) captures k
      = k (.between (front ++ [x]) rest) captures := by
  rw [Cursor.between_concat]
  exact if_pos hx

theorem run_char {c : Char} :
    (char c).run (.between front (c :: rest)) captures k
      = k (.between (front ++ [c]) rest) captures :=
  run_one (beq_self_eq_true c)

theorem run_letters {text : List Char}
    (hu : List.Forall₂ (fun wanted c => Text.agreesUpToCase wanted c = true) text u) :
    (letters text).run (.between front (u ++ rest)) captures k
      = k (.between (front ++ u) rest) captures := by
  induction hu generalizing front with
  | nil => rw [List.append_nil]; rfl
  | @cons wanted c text u hc _ ih =>
      calc (letters (wanted :: text)).run (.between front (c :: u ++ rest)) captures k
          = (one (Text.agreesUpToCase wanted)).run (.between front (c :: (u ++ rest))) captures
              fun c captures => (letters text).run c captures k := rfl
        _ = (letters text).run (.between (front ++ [c]) (u ++ rest)) captures k := run_one hc
        _ = k (.between (front ++ [c] ++ u) rest) captures := ih
        _ = k (.between (front ++ c :: u) rest) captures := by
            rw [List.append_assoc, List.singleton_append]

theorem atWordEdge_between {x : Char} (hfront : ∀ y ∈ front.getLast?, Text.isWord y = false)
    (hx : Text.isWord x = true) : (Cursor.between front (x :: rest)).atWordEdge = true := by
  cases hlast : front.getLast? with
  | none => simp [Cursor.atWordEdge, Cursor.between, hlast, hx]
  | some y => simp [Cursor.atWordEdge, Cursor.between, hlast, hx, hfront y hlast]

theorem not_isWord_last_of_atWordEdge {x : Char} (hx : Text.isWord x = true)
    (h : (Cursor.between front (x :: rest)).atWordEdge = true) :
    ∀ y ∈ front.getLast?, Text.isWord y = false := by
  intro y hy
  rw [Cursor.atWordEdge, Cursor.between, Option.mem_def.1 hy] at h
  simpa [hx] using h

theorem not_isWord_head_of_atWordEdge {x : Char} (hx : Text.isWord x = true)
    (h : (Cursor.between (front ++ [x]) rest).atWordEdge = true) :
    ∀ y ∈ rest.head?, Text.isWord y = false := by
  intro y hy
  rw [Cursor.atWordEdge, Cursor.between, List.getLast?_concat, Option.mem_def.1 hy] at h
  simpa [hx] using h

theorem run_wordEdge {x : Char} (hfront : ∀ y ∈ front.getLast?, Text.isWord y = false)
    (hx : Text.isWord x = true) :
    (wordEdge : Pattern σ).run (.between front (x :: rest)) captures k
      = k (.between front (x :: rest)) captures :=
  if_pos (atWordEdge_between hfront hx)

theorem run_lineStart (hfront : ∀ y ∈ front.getLast?, y = '\n') :
    (lineStart : Pattern σ).run (.between front rest) captures k
      = k (.between front rest) captures := by
  refine if_pos ?_
  cases hlast : front.getLast? with
  | none => simp [Cursor.atLineStart, Cursor.between, hlast]
  | some y => simp [Cursor.atLineStart, Cursor.between, hlast, hfront y hlast]

/-- A longest run ends where its class ends. -/
theorem run_most (hu : ∀ x ∈ u, accepts x = true) (hrest : ∀ x ∈ rest.head?, accepts x = false)
    (hk : ∃ r ∈ k (.between (front ++ u) rest) captures, good r) :
    ∃ r ∈ (most accepts).run (.between front (u ++ rest)) captures k, good r := by
  obtain ⟨r, hr, hgood⟩ := hk
  exact ⟨r, runMost_eq_some hu hrest hr, hgood⟩

theorem run_most_nil (hrest : ∀ x ∈ rest.head?, accepts x = false)
    (hk : ∃ r ∈ k (.between front rest) captures, good r) :
    ∃ r ∈ (most accepts).run (.between front rest) captures k, good r :=
  run_most (u := []) (by simp) hrest (by rwa [List.append_nil])

theorem run_someMost (hne : u ≠ []) (hu : ∀ x ∈ u, accepts x = true)
    (hrest : ∀ x ∈ rest.head?, accepts x = false)
    (hk : ∃ r ∈ k (.between (front ++ u) rest) captures, good r) :
    ∃ r ∈ (someMost accepts).run (.between front (u ++ rest)) captures k, good r := by
  obtain ⟨x, u, rfl⟩ := List.exists_cons_of_ne_nil hne
  obtain ⟨hx, hu⟩ := List.forall_mem_cons.1 hu
  change ∃ r ∈ (one accepts).run (.between front (x :: (u ++ rest))) captures
    (fun c captures => (most accepts).run c captures k), good r
  rw [run_one hx]
  apply run_most hu hrest
  rwa [List.append_assoc, List.singleton_append]

/-- A shortest run goes on as long as the continuation fails. -/
theorem run_fewest (hu : ∀ x ∈ u, accepts x = true)
    (hearly : ∀ v w, u = v ++ w → w ≠ [] → k (.between (front ++ v) (w ++ rest)) captures = none)
    (hk : ∃ r ∈ k (.between (front ++ u) rest) captures, good r) :
    ∃ r ∈ (fewest accepts).run (.between front (u ++ rest)) captures k, good r := by
  obtain ⟨r, hr, hgood⟩ := hk
  exact ⟨r, runFewest_eq_some hu hearly hr, hgood⟩

theorem run_someFewest (hne : u ≠ []) (hu : ∀ x ∈ u, accepts x = true)
    (hearly : ∀ v w, u = v ++ w → v ≠ [] → w ≠ [] →
      k (.between (front ++ v) (w ++ rest)) captures = none)
    (hk : ∃ r ∈ k (.between (front ++ u) rest) captures, good r) :
    ∃ r ∈ (someFewest accepts).run (.between front (u ++ rest)) captures k, good r := by
  obtain ⟨x, u, rfl⟩ := List.exists_cons_of_ne_nil hne
  obtain ⟨hx, hu⟩ := List.forall_mem_cons.1 hu
  change ∃ r ∈ (one accepts).run (.between front (x :: (u ++ rest))) captures
    (fun c captures => (fewest accepts).run c captures k), good r
  rw [run_one hx]
  apply run_fewest hu
  · intro v w hvw hw
    rw [List.append_assoc, List.singleton_append]
    exact hearly (x :: v) w (by rw [hvw, List.cons_append]) (List.cons_ne_nil x v) hw
  · rwa [List.append_assoc, List.singleton_append]

section

variable {p q : Pattern σ} {c : Cursor}

theorem run_either_left (h : ∃ r ∈ p.run c captures k, good r) :
    ∃ r ∈ (either p q).run c captures k, good r := by
  obtain ⟨r, hr, hgood⟩ := h
  refine ⟨r, ?_, hgood⟩
  rw [run, Option.mem_def.1 hr]
  rfl

theorem run_either_right (h : p.run c captures k = none) :
    (either p q).run c captures k = q.run c captures k := by
  rw [run, h]

/-- A choice succeeds if one side does and every other one fails or does as well. -/
theorem run_oneOf {ps : List (Pattern σ)}
    (hothers : ∀ p ∈ ps, p.run c captures k = none ∨ ∃ r ∈ p.run c captures k, good r)
    (hone : ∃ p ∈ ps, ∃ r ∈ p.run c captures k, good r) :
    ∃ r ∈ (oneOf ps).run c captures k, good r := by
  induction ps with
  | nil => simp at hone
  | cons p ps ih =>
      obtain ⟨hp, hps⟩ := List.forall_mem_cons.1 hothers
      cases ps with
      | nil => simpa [oneOf] using hone
      | cons q qs =>
          rcases hp with hnone | hsome
          · have hrest : ∃ r ∈ (oneOf (q :: qs)).run c captures k, good r :=
              ih hps (by simpa [hnone] using hone)
            rwa [oneOf, run_either_right hnone]
            simp
          · exact run_either_left hsome

end

end Pattern

end ExtensionAtlas
