import Mathlib.Data.List.Forall2

/-! Traversals that can fail. One that succeeds has a value for every item, in the same order. -/

namespace ExtensionAtlas

variable {α β ε : Type} {f : α → Except ε β} {xs : List α} {ys : List β}

theorem map_eq_error_iff {x : Except ε α} {g : α → β} {fault : ε} :
    x.map g = .error fault ↔ x = .error fault := by
  cases x <;> simp [Except.map]

theorem mapM_eq_ok_iff : xs.mapM f = .ok ys ↔ List.Forall₂ (fun x y => f x = .ok y) xs ys := by
  induction xs generalizing ys with
  | nil => simp [pure, Except.pure, eq_comm]
  | cons x xs ih =>
      rw [List.mapM_cons, List.forall₂_cons_left_iff]
      constructor
      · intro h
        cases hx : f x with
        | error fault => rw [hx] at h; cases h
        | ok y =>
            rw [hx] at h
            cases hxs : xs.mapM f with
            | error fault => rw [hxs] at h; cases h
            | ok values =>
                rw [hxs] at h
                cases h
                exact ⟨y, values, rfl, ih.1 hxs, rfl⟩
      · rintro ⟨y, values, hy, hvalues, rfl⟩
        rw [hy, ih.2 hvalues]
        rfl

/-- A traversal succeeds if it does at every item. -/
theorem exists_mapM_eq_ok_iff : (∃ ys, xs.mapM f = .ok ys) ↔ ∀ x ∈ xs, ∃ y, f x = .ok y := by
  induction xs with
  | nil => simp [pure, Except.pure]
  | cons x xs ih =>
      rw [List.forall_mem_cons, ← ih]
      simp only [mapM_eq_ok_iff, List.forall₂_cons_left_iff]
      constructor
      · rintro ⟨_, y, ys, hy, hys, -⟩
        exact ⟨⟨y, hy⟩, ys, hys⟩
      · rintro ⟨⟨y, hy⟩, ys, hys⟩
        exact ⟨_, y, ys, hy, hys, rfl⟩

/-- Of two lists that are related item by item, every item of the second has one in the first. -/
theorem exists_left_of_mem {R : α → β → Prop} (h : List.Forall₂ R xs ys) {y : β} (hy : y ∈ ys) :
    ∃ x ∈ xs, R x y := by
  induction h with
  | nil => exact absurd hy List.not_mem_nil
  | cons hx _ ih =>
      rcases List.mem_cons.1 hy with rfl | hy
      · exact ⟨_, List.mem_cons_self, hx⟩
      · obtain ⟨x, hmem, hvalue⟩ := ih hy
        exact ⟨x, List.mem_cons_of_mem _ hmem, hvalue⟩

theorem exists_right_of_mem {R : α → β → Prop} (h : List.Forall₂ R xs ys) {x : α} (hx : x ∈ xs) :
    ∃ y ∈ ys, R x y :=
  exists_left_of_mem h.flip hx

/-- A view of the values that each item determines is the same for all of them. -/
theorem map_eq_of_mapM {γ : Type} {view : β → γ} {own : α → γ}
    (hview : ∀ x y, f x = .ok y → view y = own x) (h : xs.mapM f = .ok ys) :
    ys.map view = xs.map own := by
  rw [← List.forall₂_eq_eq_eq, List.forall₂_map_left_iff, List.forall₂_map_right_iff]
  exact (mapM_eq_ok_iff.1 h).flip.imp fun y x hx => hview x y hx

/-- Every value of a traversal that succeeds comes from an item. -/
theorem exists_of_mem_mapM (h : xs.mapM f = .ok ys) {y : β} (hy : y ∈ ys) :
    ∃ x ∈ xs, f x = .ok y :=
  exists_left_of_mem (mapM_eq_ok_iff.1 h) hy

/-- Two traversals in turn have a value for every item of the first. -/
theorem forall₂_of_mapM_mapM {γ : Type} {g : β → Except ε γ} {zs : List γ} (hf : xs.mapM f = .ok ys)
    (hg : ys.mapM g = .ok zs) : List.Forall₂ (fun x z => ∃ y, f x = .ok y ∧ g y = .ok z) xs zs := by
  rw [mapM_eq_ok_iff] at hf hg
  induction hf generalizing zs with
  | nil =>
      cases hg
      exact .nil
  | cons hx _ ih =>
      obtain ⟨z, rest, hz, hrest, rfl⟩ := List.forall₂_cons_left_iff.1 hg
      exact .cons ⟨_, hx, hz⟩ (ih hrest)

/-- A traversal of items that are read as others are, moved. -/
theorem mapM_eq_map_of_forall₂ {γ δ : Type} {g : γ → Except ε δ} {move : δ → β} {zs : List γ}
    (h : List.Forall₂ (fun x z => f x = (g z).map move) xs zs) :
    xs.mapM f = (zs.mapM g).map (List.map move) := by
  induction h with
  | nil => rfl
  | @cons x z xs zs hx _ ih =>
      rw [List.mapM_cons, List.mapM_cons, hx, ih]
      cases g z with
      | error fault => rfl
      | ok value => cases zs.mapM g <;> rfl

/-- Reading some items stops at one of some sort: all in front of it can be read. -/
def StopsAt (f : α → Except ε β) (stop : α → Prop) (xs : List α) : Prop :=
  ∃ front x back, xs = front ++ x :: back ∧ (∀ y ∈ front, ∃ z, f y = .ok z) ∧ stop x

theorem stopsAt_congr {stop stop' : α → Prop} (h : ∀ x, stop x ↔ stop' x) :
    StopsAt f stop xs ↔ StopsAt f stop' xs := by
  simp only [StopsAt, h]

theorem not_stopsAt_nil {stop : α → Prop} : ¬StopsAt f stop [] := by
  rintro ⟨front, x, back, hxs, -, -⟩
  cases front <;> cases hxs

theorem stopsAt_cons {stop : α → Prop} {x : α} :
    StopsAt f stop (x :: xs) ↔ stop x ∨ (∃ z, f x = .ok z) ∧ StopsAt f stop xs := by
  constructor
  · rintro ⟨front, y, back, hxs, hfront, hstop⟩
    cases front with
    | nil =>
        cases hxs
        exact .inl hstop
    | cons z front =>
        cases hxs
        rw [List.forall_mem_cons] at hfront
        exact .inr ⟨hfront.1, front, y, back, rfl, hfront.2, hstop⟩
  · rintro (hstop | ⟨hx, front, y, back, rfl, hfront, hstop⟩)
    · exact ⟨[], x, xs, rfl, by simp, hstop⟩
    · exact ⟨x :: front, y, back, rfl, List.forall_mem_cons.2 ⟨hx, hfront⟩, hstop⟩

/-- A traversal has the fault of the first item that cannot be read. -/
theorem mapM_eq_error_iff {fault : ε} :
    xs.mapM f = .error fault ↔ StopsAt f (f · = .error fault) xs := by
  induction xs with
  | nil => simp [not_stopsAt_nil, pure, Except.pure]
  | cons x xs ih =>
      rw [List.mapM_cons, stopsAt_cons, ← ih]
      cases hx : f x with
      | error other => simp [bind, Except.bind]
      | ok y => cases hxs : xs.mapM f <;> simp [bind, Except.bind, pure, Except.pure]

/-! Filters that can fail. -/

section

variable {keep : α → Except ε Bool} {acc kept : List α}

theorem filterAuxM_eq_ok_iff : xs.filterAuxM keep acc = .ok kept ↔
    (∀ x ∈ xs, ∃ answer, keep x = .ok answer) ∧
      kept = (xs.filter fun x => (keep x).toOption == some true).reverse ++ acc := by
  induction xs generalizing acc with
  | nil => simp [List.filterAuxM, pure, Except.pure, eq_comm]
  | cons x xs ih =>
      rw [List.filterAuxM]
      cases hx : keep x with
      | error fault => simp [bind, Except.bind, hx]
      | ok answer =>
          change xs.filterAuxM keep (bif answer then x :: acc else acc) = .ok kept ↔ _
          rw [ih]
          cases answer <;> simp [hx, Except.toOption]

theorem filterM_eq_map : xs.filterM keep = (xs.filterAuxM keep []).map List.reverse := by
  rw [List.filterM]
  cases xs.filterAuxM keep [] <;> rfl

/-- A filter that succeeds has an answer for every item. -/
theorem filterM_eq_ok_iff : xs.filterM keep = .ok kept ↔
    (∀ x ∈ xs, ∃ answer, keep x = .ok answer) ∧
      kept = xs.filter fun x => (keep x).toOption == some true := by
  have hreversed : xs.filterM keep = .ok kept ↔ xs.filterAuxM keep [] = .ok kept.reverse := by
    rw [filterM_eq_map]
    cases xs.filterAuxM keep [] <;> simp [Except.map, List.reverse_eq_iff]
  rw [hreversed, filterAuxM_eq_ok_iff, List.append_nil, List.reverse_inj]

theorem filterAuxM_eq_error_iff (acc : List α) {fault : ε} :
    xs.filterAuxM keep acc = .error fault ↔ StopsAt keep (keep · = .error fault) xs := by
  induction xs generalizing acc with
  | nil => simp [List.filterAuxM, not_stopsAt_nil, pure, Except.pure]
  | cons x xs ih =>
      rw [List.filterAuxM, stopsAt_cons]
      cases hx : keep x with
      | error other => simp [bind, Except.bind]
      | ok answer =>
          change xs.filterAuxM keep (bif answer then x :: acc else acc) = .error fault ↔ _
          rw [ih]
          simp

/-- A filter has the fault of the first item that has no answer. -/
theorem filterM_eq_error_iff {fault : ε} :
    xs.filterM keep = .error fault ↔ StopsAt keep (keep · = .error fault) xs := by
  rw [filterM_eq_map, map_eq_error_iff, filterAuxM_eq_error_iff]

end

end ExtensionAtlas
