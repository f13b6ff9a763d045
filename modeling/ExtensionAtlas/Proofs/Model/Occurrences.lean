import Mathlib.Data.List.Perm.Basic
import ExtensionAtlas.Graph.Storage

/-! First occurrences and tallies. Leaving out repetitions keeps every value once, so which values
are left, and how often each was there, does not depend on the order. What is left stands in the
order in which it first stood, which together with the values determines it. -/

namespace ExtensionAtlas

variable {α : Type} [BEq α] [LawfulBEq α]

@[simp]
theorem mem_firstOccurrences {x : α} {xs : List α} : x ∈ firstOccurrences xs ↔ x ∈ xs := by
  induction xs with
  | nil => rfl
  | cons y ys ih =>
      rw [firstOccurrences, List.mem_cons, List.mem_cons, List.mem_filter, ih]
      by_cases h : x = y <;> simp [h]

theorem nodup_firstOccurrences (xs : List α) : (firstOccurrences xs).Nodup := by
  induction xs with
  | nil => exact .nil
  | cons x xs ih =>
      rw [firstOccurrences, List.nodup_cons]
      exact ⟨by simp, ih.filter _⟩

omit [LawfulBEq α] in
theorem firstOccurrences_sublist (xs : List α) : (firstOccurrences xs).Sublist xs := by
  induction xs with
  | nil => exact .slnil
  | cons x xs ih => exact (List.filter_sublist.trans ih).cons_cons x

/-- Nothing is left out exactly if nothing is repeated. -/
theorem length_firstOccurrences_eq_iff {xs : List α} :
    (firstOccurrences xs).length = xs.length ↔ xs.Nodup := by
  constructor
  · intro h
    exact (firstOccurrences_sublist xs).eq_of_length h ▸ nodup_firstOccurrences xs
  · intro h
    refine ((List.perm_ext_iff_of_nodup (nodup_firstOccurrences xs) h).2 fun x => ?_).length_eq
    exact mem_firstOccurrences

omit [LawfulBEq α] in
theorem flatMap_firstOccurrences_sublist (lists : List (List α)) :
    (lists.flatMap firstOccurrences).Sublist lists.flatten := by
  induction lists with
  | nil => exact .slnil
  | cons xs lists ih => exact (firstOccurrences_sublist xs).append ih

/-- Nothing is left out of several lists exactly if nothing is repeated in any of them. -/
theorem length_flatMap_firstOccurrences_eq_iff (lists : List (List α)) :
    (lists.flatMap firstOccurrences).length = lists.flatten.length ↔ ∀ xs ∈ lists, xs.Nodup := by
  induction lists with
  | nil => simp
  | cons xs lists ih =>
      have hxs := (firstOccurrences_sublist xs).length_le
      have hlists := (flatMap_firstOccurrences_sublist lists).length_le
      rw [List.forall_mem_cons, ← ih, ← length_firstOccurrences_eq_iff, List.flatMap_cons,
        List.flatten_cons, List.length_append, List.length_append]
      omega

/-- What is left stands in the order in which it first stood. -/
theorem pairwise_firstOccurrences (xs : List α) :
    (firstOccurrences xs).Pairwise fun x y => xs.idxOf x < xs.idxOf y := by
  induction xs with
  | nil => exact .nil
  | cons a xs ih =>
      have hlater {x : α} (hx : x ∈ (firstOccurrences xs).filter (· != a)) : a ≠ x := by
        rintro rfl
        simp at hx
      rw [firstOccurrences, List.pairwise_cons]
      constructor
      · intro x hx
        rw [List.idxOf_cons_self, List.idxOf_cons_ne _ (hlater hx)]
        exact Nat.succ_pos _
      · refine (ih.filter _).imp_of_mem fun hx hy hlt => ?_
        rw [List.idxOf_cons_ne _ (hlater hx), List.idxOf_cons_ne _ (hlater hy)]
        exact Nat.succ_lt_succ hlt

/-- Behind another list only what is not in that one is left. -/
theorem firstOccurrences_append (xs ys : List α) : firstOccurrences (xs ++ ys) =
    firstOccurrences xs ++ (firstOccurrences ys).filter (!(firstOccurrences xs).contains ·) := by
  induction xs with
  | nil => simp [firstOccurrences]
  | cons x xs ih =>
      rw [List.cons_append, firstOccurrences, firstOccurrences, ih, List.filter_append,
        List.filter_filter, List.cons_append]
      congr 2
      refine List.filter_congr fun y _ => ?_
      by_cases hy : y = x <;> simp [hy]

/-- `ys` lists the values of `xs` that are kept, each once and where it first stands in `xs`. -/
structure ListsOnce (keeps : α → Prop) (xs ys : List α) : Prop where
  nodup : ys.Nodup
  mem_iff : ∀ x, x ∈ ys ↔ x ∈ xs ∧ keeps x
  ordered : ys.Pairwise fun x y => xs.idxOf x < xs.idxOf y

omit [LawfulBEq α] in
theorem ListsOnce.unique {keeps : α → Prop} {xs ys ys' : List α} (h : ListsOnce keeps xs ys)
    (h' : ListsOnce keeps xs ys') : ys = ys' := by
  have hperm : ys.Perm ys' :=
    (List.perm_ext_iff_of_nodup h.nodup h'.nodup).2 fun x => by rw [h.mem_iff, h'.mem_iff]
  exact hperm.eq_of_pairwise (fun _ _ _ _ hlt hgt => absurd hgt (Nat.lt_asymm hlt)) h.ordered
    h'.ordered

theorem filter_firstOccurrences_eq_iff {keeps : α → Prop} [DecidablePred keeps]
    {xs ys : List α} : (firstOccurrences xs).filter (keeps ·) = ys ↔ ListsOnce keeps xs ys := by
  have hlists : ListsOnce keeps xs ((firstOccurrences xs).filter (keeps ·)) :=
    ⟨(nodup_firstOccurrences xs).filter _, by simp, (pairwise_firstOccurrences xs).filter _⟩
  constructor
  · rintro rfl
    exact hlists
  · exact hlists.unique

theorem firstOccurrences_eq_iff {xs ys : List α} :
    firstOccurrences xs = ys ↔ ListsOnce (fun _ => True) xs ys := by
  rw [← filter_firstOccurrences_eq_iff]
  simp

theorem mergeDependencies_eq_iff {extensions : List Extension} {dependencies : List String} :
    mergeDependencies extensions = dependencies ↔
      ListsOnce (fun _ => True) (extensions.flatMap (·.dependencies)) dependencies :=
  firstOccurrences_eq_iff

/-- More extensions add what is not listed yet. -/
theorem mergeDependencies_append (xs ys : List Extension) : mergeDependencies (xs ++ ys) =
    mergeDependencies xs ++
      (mergeDependencies ys).filter (!(mergeDependencies xs).contains ·) := by
  rw [mergeDependencies, List.flatMap_append, firstOccurrences_append]
  rfl

/-! Tallies. -/

theorem mem_tally {xs : List α} {entry : α × Nat} :
    entry ∈ tally xs ↔ entry.1 ∈ xs ∧ entry.2 = xs.count entry.1 := by
  simp only [tally, List.mem_map, mem_firstOccurrences]
  constructor
  · rintro ⟨x, hx, rfl⟩
    exact ⟨hx, rfl⟩
  · rintro ⟨hx, hcount⟩
    exact ⟨_, hx, Prod.ext rfl hcount.symm⟩

end ExtensionAtlas
