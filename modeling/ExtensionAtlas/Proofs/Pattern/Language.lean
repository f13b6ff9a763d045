import Mathlib.Data.List.Forall2
import ExtensionAtlas.Pattern.Search

/-! The stretches of text that a pattern describes, seen together with the text on both sides, and
what it captures there. A run succeeds only behind a stretch of this sort, so where the text offers
none there is no match, and there is one where it offers one. -/

namespace ExtensionAtlas

/-- The place between two parts of a text. -/
def Cursor.between (front rest : List Char) : Cursor := ⟨front.getLast?, rest, front.length⟩

@[simp] theorem Cursor.offset_between (front rest : List Char) :
    (Cursor.between front rest).offset = front.length := rfl

theorem Cursor.between_concat (front rest : List Char) (x : Char) :
    Cursor.between (front ++ [x]) rest = ⟨some x, rest, front.length + 1⟩ := by
  rw [Cursor.between, List.getLast?_concat, List.length_append, List.length_singleton]

namespace Pattern

variable {σ β : Type}

/-- Whether a pattern describes the stretch between `front` and `rest`. -/
def Describes : Pattern σ → (front stretch rest : List Char) → Prop
  | .empty, _, stretch, _ => stretch = []
  | .one accepts, _, stretch, _ => ∃ x, stretch = [x] ∧ accepts x = true
  | .both first second, front, stretch, rest =>
    ∃ u v, stretch = u ++ v ∧ first.Describes front u (v ++ rest)
      ∧ second.Describes (front ++ u) v rest
  | .either first second, front, stretch, rest =>
    first.Describes front stretch rest ∨ second.Describes front stretch rest
  | .most accepts, _, stretch, _ => ∀ x ∈ stretch, accepts x = true
  | .fewest accepts, _, stretch, _ => ∀ x ∈ stretch, accepts x = true
  | .capture _ inner, front, stretch, rest => inner.Describes front stretch rest
  | .wordEdge, front, stretch, rest =>
    stretch = [] ∧ (Cursor.between front rest).atWordEdge = true
  | .lineStart, front, stretch, rest =>
    stretch = [] ∧ (Cursor.between front rest).atLineStart = true

/-- Whether a pattern can read the stretch between `front` and `rest` so that it captures this, the
latest first. -/
def Reads : Pattern σ → (front stretch rest : List Char) → Captures σ → Prop
  | .both first second, front, stretch, rest, captures =>
    ∃ u v own own', stretch = u ++ v ∧ captures = own' ++ own
      ∧ first.Reads front u (v ++ rest) own ∧ second.Reads (front ++ u) v rest own'
  | .either first second, front, stretch, rest, captures =>
    first.Reads front stretch rest captures ∨ second.Reads front stretch rest captures
  | .capture slot inner, front, stretch, rest, captures =>
    ∃ own, captures = (slot, ⟨stretch ++ rest, stretch.length⟩) :: own
      ∧ inner.Reads front stretch rest own
  | p, front, stretch, rest, captures => p.Describes front stretch rest ∧ captures = []

theorem Reads.describes {p : Pattern σ} {front stretch rest : List Char} {captures : Captures σ}
    (h : p.Reads front stretch rest captures) : p.Describes front stretch rest := by
  induction p generalizing front stretch rest captures with
  | both first second ihf ihs =>
      obtain ⟨u, v, own, own', rfl, -, hu, hv⟩ := h
      exact ⟨u, v, rfl, ihf hu, ihs hv⟩
  | either first second ihf ihs => exact h.imp ihf ihs
  | capture slot inner ih =>
      obtain ⟨own, -, hinner⟩ := h
      exact ih hinner
  | _ => exact h.1

/-- A longest run goes on behind the next character if it can, and otherwise in front of it. -/
theorem runMost_cons (accepts : Char → Bool) (k : Cursor → Option β) (before : Option Char)
    (offset : Nat) (x : Char) (rest : List Char) :
    runMost accepts k before offset (x :: rest) =
      (if accepts x = true then runMost accepts k (some x) (offset + 1) rest else none).or
        (k ⟨before, x :: rest, offset⟩) := by
  rw [runMost]
  split
  · cases runMost accepts k (some x) (offset + 1) rest <;> rfl
  · rfl

theorem isSome_runMost {accepts : Char → Bool} {k : Cursor → Option β}
    {front stretch rest : List Char} (hstretch : ∀ x ∈ stretch, accepts x = true)
    (hk : (k (.between (front ++ stretch) rest)).isSome = true) :
    (runMost accepts k front.getLast? front.length (stretch ++ rest)).isSome = true := by
  induction stretch generalizing front with
  | nil =>
      rw [List.append_nil, Cursor.between] at hk
      cases rest with
      | nil => exact hk
      | cons x rest =>
          rw [List.nil_append, runMost_cons, Option.isSome_or, hk, Bool.or_true]
  | cons x stretch ih =>
      obtain ⟨hx, hstretch⟩ := List.forall_mem_cons.1 hstretch
      have hrun := @ih (front ++ [x]) hstretch (by
        rwa [List.append_assoc, List.singleton_append])
      rw [List.getLast?_concat, List.length_append, List.length_singleton] at hrun
      rw [List.cons_append, runMost_cons, if_pos hx, Option.isSome_or, hrun, Bool.true_or]

/-- A longest run that succeeds goes on behind a stretch of its class, and behind no longer one it
could have gone on. -/
theorem longest_of_runMost {accepts : Char → Bool} {k : Cursor → Option β} {result : β}
    (front text : List Char)
    (h : runMost accepts k front.getLast? front.length text = some result) :
    ∃ stretch rest, text = stretch ++ rest ∧ (∀ x ∈ stretch, accepts x = true)
      ∧ k (.between (front ++ stretch) rest) = some result
      ∧ ∀ longer rest', text = longer ++ rest' → (∀ x ∈ longer, accepts x = true) →
        stretch.length < longer.length → k (.between (front ++ longer) rest') = none := by
  induction text generalizing front with
  | nil =>
      refine ⟨[], [], rfl, by simp, by rwa [List.append_nil], fun longer rest' htext _ hlt => ?_⟩
      obtain ⟨rfl, -⟩ := List.append_eq_nil_iff.1 htext.symm
      exact absurd hlt (Nat.lt_irrefl 0)
  | cons x rest ih =>
      rw [runMost_cons] at h
      cases hnext : if accepts x = true then runMost accepts k (some x) (front.length + 1) rest
          else none with
      | none =>
          rw [hnext, Option.none_or] at h
          refine ⟨[], x :: rest, rfl, by simp, by rwa [List.append_nil], ?_⟩
          intro longer rest' hsplit hall hlt
          obtain ⟨y, longer, rfl⟩ := List.exists_cons_of_length_pos hlt
          rw [List.cons_append, List.cons.injEq] at hsplit
          obtain ⟨rfl, rfl⟩ := hsplit
          obtain ⟨hx, hall⟩ := List.forall_mem_cons.1 hall
          refine Option.eq_none_iff_forall_ne_some.2 fun found hk => ?_
          have hsome := @isSome_runMost β accepts k (front ++ [x]) longer rest' hall (by
            rw [List.append_assoc, List.singleton_append, hk]
            rfl)
          rw [if_pos hx] at hnext
          rw [List.getLast?_concat, List.length_append, List.length_singleton, hnext] at hsome
          cases hsome
      | some found =>
          rw [hnext, Option.some_or] at h
          split at hnext
          · next hx =>
            obtain ⟨stretch, rest', htext, hall, hk, hlongest⟩ := ih (front ++ [x]) (by
              rw [List.getLast?_concat, List.length_append]
              exact hnext.trans h)
            simp only [List.append_assoc, List.singleton_append] at hk hlongest
            refine ⟨x :: stretch, rest', by rw [htext, List.cons_append],
              List.forall_mem_cons.2 ⟨hx, hall⟩, hk, ?_⟩
            intro longer rest'' hsplit hall hlt
            obtain ⟨y, longer, rfl⟩ := List.exists_cons_of_length_pos (Nat.zero_lt_of_lt hlt)
            rw [List.cons_append, List.cons.injEq] at hsplit
            obtain ⟨rfl, hrest⟩ := hsplit
            exact hlongest longer rest'' hrest (List.forall_mem_cons.1 hall).2
              (Nat.lt_of_succ_lt_succ hlt)
          · cases hnext

theorem describes_of_runFewest {accepts : Char → Bool} {k : Cursor → Option β} {result : β}
    (front text : List Char)
    (h : runFewest accepts k front.getLast? front.length text = some result) :
    ∃ stretch rest, text = stretch ++ rest ∧ (∀ x ∈ stretch, accepts x = true)
      ∧ k (.between (front ++ stretch) rest) = some result := by
  induction text generalizing front with
  | nil => exact ⟨[], [], rfl, by simp, by rwa [List.append_nil]⟩
  | cons x rest ih =>
      rw [runFewest] at h
      cases hk : k ⟨front.getLast?, x :: rest, front.length⟩ with
      | some found =>
          rw [hk] at h
          refine ⟨[], x :: rest, rfl, by simp, ?_⟩
          rw [List.append_nil]
          exact hk.trans h
      | none =>
          rw [hk] at h
          by_cases hx : accepts x = true
          · rw [if_pos hx] at h
            obtain ⟨stretch, rest', htext, hall, hk⟩ := ih (front ++ [x]) (by
              rw [List.getLast?_concat, List.length_append]
              exact h)
            refine ⟨x :: stretch, rest', by rw [htext, List.cons_append], ?_, ?_⟩
            · exact List.forall_mem_cons.2 ⟨hx, hall⟩
            · rwa [List.append_assoc, List.singleton_append] at hk
          · rw [if_neg hx] at h
            cases h

/-- A run that succeeds has gone on behind a stretch that its pattern reads, with what it captures
there. -/
theorem reads_of_run {p : Pattern σ} {front text : List Char} {captures : Captures σ}
    {k : Cursor → Captures σ → Option β} {result : β}
    (h : p.run (.between front text) captures k = some result) :
    ∃ stretch rest own, text = stretch ++ rest ∧ p.Reads front stretch rest own
      ∧ k (.between (front ++ stretch) rest) (own ++ captures) = some result := by
  induction p generalizing front text captures k with
  | empty => exact ⟨[], text, [], rfl, ⟨rfl, rfl⟩, by rwa [List.append_nil]⟩
  | one accepts =>
      cases text with
      | nil => cases h
      | cons x rest =>
          by_cases hx : accepts x = true
          · refine ⟨[x], rest, [], rfl, ⟨⟨x, rfl, hx⟩, rfl⟩, ?_⟩
            rw [Cursor.between_concat]
            exact (if_pos hx).symm.trans h
          · rw [run, Cursor.between] at h
            simp only [if_neg hx] at h
            cases h
  | both first second ihf ihs =>
      obtain ⟨u, rest, own, rfl, hu, hrun⟩ := ihf h
      obtain ⟨v, rest, own', rfl, hv, hk⟩ := ihs hrun
      refine ⟨u ++ v, rest, own' ++ own, (List.append_assoc ..).symm,
        ⟨u, v, own, own', rfl, rfl, hu, hv⟩, ?_⟩
      rwa [← List.append_assoc, List.append_assoc own']
  | either first second ihf ihs =>
      rw [run] at h
      cases hfirst : first.run (.between front text) captures k with
      | some found =>
          rw [hfirst] at h
          obtain ⟨stretch, rest, own, htext, hd, hk⟩ := ihf (hfirst.trans h)
          exact ⟨stretch, rest, own, htext, Or.inl hd, hk⟩
      | none =>
          rw [hfirst] at h
          obtain ⟨stretch, rest, own, htext, hd, hk⟩ := ihs h
          exact ⟨stretch, rest, own, htext, Or.inr hd, hk⟩
  | most accepts =>
      obtain ⟨stretch, rest, htext, hall, hk, -⟩ := longest_of_runMost front text h
      exact ⟨stretch, rest, [], htext, ⟨hall, rfl⟩, hk⟩
  | fewest accepts =>
      obtain ⟨stretch, rest, htext, hall, hk⟩ := describes_of_runFewest front text h
      exact ⟨stretch, rest, [], htext, ⟨hall, rfl⟩, hk⟩
  | capture slot inner ih =>
      obtain ⟨stretch, rest, own, rfl, hd, hk⟩ := ih h
      refine ⟨stretch, rest, _, rfl, ⟨own, rfl, hd⟩, ?_⟩
      rwa [Cursor.offset_between, Cursor.offset_between, List.length_append,
        Nat.add_sub_cancel_left] at hk
  | wordEdge =>
      by_cases hedge : (Cursor.between front text).atWordEdge = true
      · rw [run, if_pos hedge] at h
        exact ⟨[], text, [], rfl, ⟨⟨rfl, hedge⟩, rfl⟩, by rwa [List.append_nil]⟩
      · rw [run, if_neg hedge] at h
        cases h
  | lineStart =>
      by_cases hline : (Cursor.between front text).atLineStart = true
      · rw [run, if_pos hline] at h
        exact ⟨[], text, [], rfl, ⟨⟨rfl, hline⟩, rfl⟩, by rwa [List.append_nil]⟩
      · rw [run, if_neg hline] at h
        cases h

/-- A run that succeeds has gone on behind a stretch that its pattern describes. -/
theorem describes_of_run {p : Pattern σ} {front text : List Char} {captures : Captures σ}
    {k : Cursor → Captures σ → Option β} {result : β}
    (h : p.run (.between front text) captures k = some result) :
    ∃ stretch rest captures', text = stretch ++ rest ∧ p.Describes front stretch rest
      ∧ k (.between (front ++ stretch) rest) captures' = some result := by
  obtain ⟨stretch, rest, own, htext, hreads, hk⟩ := reads_of_run h
  exact ⟨stretch, rest, _, htext, hreads.describes, hk⟩

/-- A run fails if its continuation fails behind every stretch that the pattern describes. -/
theorem run_eq_none {p : Pattern σ} {front text : List Char} {captures : Captures σ}
    {k : Cursor → Captures σ → Option β}
    (h : ∀ stretch rest captures', text = stretch ++ rest → p.Describes front stretch rest →
      k (.between (front ++ stretch) rest) captures' = none) :
    p.run (.between front text) captures k = none := by
  cases hrun : p.run (.between front text) captures k with
  | none => rfl
  | some result =>
      obtain ⟨stretch, rest, captures', htext, hd, hk⟩ := describes_of_run hrun
      rw [h stretch rest captures' htext hd] at hk
      cases hk

/-- There is no match where a text offers no stretch that the pattern describes. -/
theorem matchAt_eq_none {p : Pattern σ} {front text : List Char}
    (h : ∀ stretch rest, text = stretch ++ rest → ¬p.Describes front stretch rest) :
    p.matchAt (.between front text) = none :=
  run_eq_none fun stretch rest _ htext hd => absurd hd (h stretch rest htext)

/-! The converse: where a text offers a stretch that a pattern reads, the run finds one. -/

theorem isSome_runFewest {accepts : Char → Bool} {k : Cursor → Option β}
    {front stretch rest : List Char} (hstretch : ∀ x ∈ stretch, accepts x = true)
    (hk : (k (.between (front ++ stretch) rest)).isSome = true) :
    (runFewest accepts k front.getLast? front.length (stretch ++ rest)).isSome = true := by
  induction stretch generalizing front with
  | nil =>
      rw [List.append_nil, Cursor.between] at hk
      cases rest with
      | nil => exact hk
      | cons x rest =>
          rw [List.nil_append, runFewest]
          split
          · rfl
          · next hnone => rw [hnone] at hk; cases hk
  | cons x stretch ih =>
      obtain ⟨hx, hstretch⟩ := List.forall_mem_cons.1 hstretch
      have hrun := @ih (front ++ [x]) hstretch (by
        rwa [List.append_assoc, List.singleton_append])
      rw [List.getLast?_concat, List.length_append, List.length_singleton] at hrun
      rw [List.cons_append, runFewest, if_pos hx]
      split
      · rfl
      · exact hrun

/-- A run succeeds if its continuation does behind some stretch that the pattern reads. -/
theorem isSome_run {p : Pattern σ} {front stretch rest : List Char} {own captures : Captures σ}
    {k : Cursor → Captures σ → Option β} (h : p.Reads front stretch rest own)
    (hk : (k (.between (front ++ stretch) rest) (own ++ captures)).isSome = true) :
    (p.run (.between front (stretch ++ rest)) captures k).isSome = true := by
  induction p generalizing front stretch rest own captures k with
  | empty =>
      obtain ⟨rfl, rfl⟩ := h
      rwa [List.append_nil] at hk
  | one accepts =>
      obtain ⟨⟨x, rfl, hx⟩, rfl⟩ := h
      rw [Cursor.between_concat] at hk
      change (if accepts x = true then _ else none : Option β).isSome = true
      rwa [if_pos hx]
  | both first second ihf ihs =>
      obtain ⟨u, v, own, own', rfl, rfl, hu, hv⟩ := h
      rw [← List.append_assoc, List.append_assoc own'] at hk
      rw [List.append_assoc]
      exact ihf hu (ihs hv hk)
  | either first second ihf ihs =>
      rw [run]
      split
      · rfl
      · next hnone =>
        rcases h with h | h
        · have hfirst := ihf h hk
          rw [hnone] at hfirst
          cases hfirst
        · exact ihs h hk
  | most accepts =>
      obtain ⟨hstretch, rfl⟩ := h
      exact isSome_runMost hstretch hk
  | fewest accepts =>
      obtain ⟨hstretch, rfl⟩ := h
      exact isSome_runFewest hstretch hk
  | capture slot inner ih =>
      obtain ⟨own, rfl, hinner⟩ := h
      refine ih hinner ?_
      rwa [Cursor.offset_between, Cursor.offset_between, List.length_append,
        Nat.add_sub_cancel_left]
  | wordEdge =>
      obtain ⟨⟨rfl, hedge⟩, rfl⟩ := h
      rw [List.append_nil] at hk
      rw [List.nil_append, run, if_pos hedge]
      exact hk
  | lineStart =>
      obtain ⟨⟨rfl, hline⟩, rfl⟩ := h
      rw [List.append_nil] at hk
      rw [List.nil_append, run, if_pos hline]
      exact hk

/-- A stretch that a pattern describes can be read. -/
theorem Describes.exists_reads {p : Pattern σ} {front stretch rest : List Char}
    (h : p.Describes front stretch rest) : ∃ own, p.Reads front stretch rest own := by
  induction p generalizing front stretch rest with
  | both first second ihf ihs =>
      obtain ⟨u, v, rfl, hu, hv⟩ := h
      obtain ⟨own, hown⟩ := ihf hu
      obtain ⟨own', hown'⟩ := ihs hv
      exact ⟨own' ++ own, u, v, own, own', rfl, rfl, hown, hown'⟩
  | either first second ihf ihs =>
      rcases h with h | h
      · exact (ihf h).imp fun _ => Or.inl
      · exact (ihs h).imp fun _ => Or.inr
  | capture slot inner ih =>
      obtain ⟨own, hown⟩ := ih h
      exact ⟨_, own, rfl, hown⟩
  | _ => exact ⟨[], h, rfl⟩

/-- A text offers a pattern if it starts with a stretch that the pattern describes. -/
def Offers (p : Pattern σ) (front text : List Char) : Prop :=
  ∃ stretch rest, text = stretch ++ rest ∧ p.Describes front stretch rest

/-- A run fails where its pattern is offered only if its continuation can fail. -/
theorem not_offers_of_run_eq_none {p : Pattern σ} {front text : List Char}
    {captures : Captures σ} {k : Cursor → Captures σ → Option β}
    (hk : ∀ c captures, (k c captures).isSome = true)
    (h : p.run (.between front text) captures k = none) : ¬p.Offers front text := by
  rintro ⟨stretch, rest, rfl, hd⟩
  obtain ⟨own, hown⟩ := hd.exists_reads
  have hsome := isSome_run hown (hk _ (own ++ captures))
  rw [h] at hsome
  cases hsome

/-- There is a match exactly where the pattern is offered. -/
theorem matchAt_eq_none_iff {p : Pattern σ} {front text : List Char} :
    p.matchAt (.between front text) = none ↔ ¬p.Offers front text := by
  constructor
  · exact not_offers_of_run_eq_none fun _ _ => rfl
  · intro h
    exact matchAt_eq_none fun stretch rest htext hd => h ⟨stretch, rest, htext, hd⟩

theorem exists_matchAt {p : Pattern σ} {front stretch rest : List Char}
    (h : p.Describes front stretch rest) :
    ∃ m, p.matchAt (.between front (stretch ++ rest)) = some m :=
  Option.ne_none_iff_exists'.1 fun hnone =>
    matchAt_eq_none_iff.1 hnone ⟨stretch, rest, rfl, h⟩

/-! Compound patterns. -/

theorem describes_oneOf {ps : List (Pattern σ)} {front stretch rest : List Char} :
    (oneOf ps).Describes front stretch rest ↔ ∃ p ∈ ps, p.Describes front stretch rest := by
  induction ps with
  | nil => simp [oneOf, Describes]
  | cons p ps ih =>
      cases ps with
      | nil => simp [oneOf]
      | cons q qs =>
          rw [List.exists_mem_cons_iff, ← ih]
          rfl

theorem describes_inOrder_append {ps qs : List (Pattern σ)} {front stretch rest : List Char} :
    (inOrder (ps ++ qs)).Describes front stretch rest ↔
      ∃ u v, stretch = u ++ v ∧ (inOrder ps).Describes front u (v ++ rest)
        ∧ (inOrder qs).Describes (front ++ u) v rest := by
  induction ps generalizing front stretch rest with
  | nil => simp [inOrder, Describes]
  | cons p ps ih =>
      simp only [List.cons_append, inOrder, Describes]
      constructor
      · rintro ⟨u, v, rfl, hp, hrest⟩
        obtain ⟨v, w, rfl, hps, hqs⟩ := ih.1 hrest
        rw [List.append_assoc] at hp
        exact ⟨u ++ v, w, (List.append_assoc ..).symm, ⟨u, v, rfl, hp, hps⟩, by
          rwa [← List.append_assoc]⟩
      · rintro ⟨_, w, rfl, ⟨u, v, rfl, hp, hps⟩, hqs⟩
        refine ⟨u, v ++ w, List.append_assoc .., ?_, ih.2 ⟨v, w, rfl, hps, ?_⟩⟩
        · rwa [List.append_assoc]
        · rwa [List.append_assoc]

/-- Patterns one behind the other are offered if the later ones are behind the earlier. -/
theorem offers_inOrder_append {ps qs : List (Pattern σ)} {front text : List Char} :
    (inOrder (ps ++ qs)).Offers front text ↔
      ∃ u behind, text = u ++ behind ∧ (inOrder ps).Describes front u behind
        ∧ (inOrder qs).Offers (front ++ u) behind := by
  constructor
  · rintro ⟨_, rest, rfl, hd⟩
    obtain ⟨u, v, rfl, hps, hqs⟩ := describes_inOrder_append.1 hd
    exact ⟨u, v ++ rest, List.append_assoc .., hps, v, rest, rfl, hqs⟩
  · rintro ⟨u, _, rfl, hps, v, rest, rfl, hqs⟩
    exact ⟨u ++ v, rest, (List.append_assoc ..).symm,
      describes_inOrder_append.2 ⟨u, v, rfl, hps, hqs⟩⟩

theorem offers_cons {p : Pattern σ} {ps : List (Pattern σ)} {front text : List Char} :
    (inOrder (p :: ps)).Offers front text ↔
      ∃ u behind, text = u ++ behind ∧ p.Describes front u behind
        ∧ (inOrder ps).Offers (front ++ u) behind := by
  constructor
  · rintro ⟨_, rest, rfl, u, v, rfl, hp, hps⟩
    exact ⟨u, v ++ rest, List.append_assoc .., hp, v, rest, rfl, hps⟩
  · rintro ⟨u, _, rfl, hp, v, rest, rfl, hps⟩
    exact ⟨u ++ v, rest, (List.append_assoc ..).symm, u, v, rfl, hp, hps⟩

theorem describes_letters {text front stretch rest : List Char} :
    (letters text : Pattern σ).Describes front stretch rest ↔
      List.Forall₂ (fun wanted c => Text.agreesUpToCase wanted c = true) text stretch := by
  rw [letters]
  induction text generalizing front stretch with
  | nil => simp [inOrder, Describes, List.forall₂_nil_left_iff]
  | cons wanted text ih =>
      rw [List.map_cons, inOrder, Describes, List.forall₂_cons_left_iff]
      constructor
      · rintro ⟨_, v, rfl, ⟨c, rfl, hc⟩, hv⟩
        exact ⟨c, v, hc, ih.1 hv, rfl⟩
      · rintro ⟨c, v, hc, hv, rfl⟩
        exact ⟨[c], v, rfl, ⟨c, rfl, hc⟩, ih.2 hv⟩

theorem describes_someMost {accepts : Char → Bool} {front stretch rest : List Char} :
    (someMost accepts : Pattern σ).Describes front stretch rest ↔
      stretch ≠ [] ∧ ∀ x ∈ stretch, accepts x = true := by
  constructor
  · rintro ⟨_, v, rfl, ⟨x, rfl, hx⟩, hv⟩
    exact ⟨List.cons_ne_nil x v, List.forall_mem_cons.2 ⟨hx, hv⟩⟩
  · rintro ⟨hne, hall⟩
    obtain ⟨x, v, rfl⟩ := List.exists_cons_of_ne_nil hne
    obtain ⟨hx, hv⟩ := List.forall_mem_cons.1 hall
    exact ⟨[x], v, rfl, ⟨x, rfl, hx⟩, hv⟩

/-- A run over a class needs a character of the class. -/
theorem exists_head_of_someMost {accepts : Char → Bool} {front text : List Char}
    {captures : Captures σ} {k : Cursor → Captures σ → Option β}
    (h : (someMost accepts).run (.between front text) captures k ≠ none) :
    ∃ x rest, text = x :: rest ∧ accepts x = true := by
  obtain ⟨result, hrun⟩ := Option.ne_none_iff_exists'.1 h
  obtain ⟨stretch, rest, _, rfl, hd, -⟩ := describes_of_run hrun
  obtain ⟨hne, hall⟩ := describes_someMost.1 hd
  obtain ⟨x, stretch, rfl⟩ := List.exists_cons_of_ne_nil hne
  exact ⟨x, stretch ++ rest, rfl, hall x List.mem_cons_self⟩

theorem describes_char {c : Char} {front stretch rest : List Char} :
    (char c : Pattern σ).Describes front stretch rest ↔ stretch = [c] := by
  simp [char, Describes]

end Pattern

end ExtensionAtlas
