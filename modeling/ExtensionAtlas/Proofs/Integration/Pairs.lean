import Mathlib.Data.List.FinRange
import Mathlib.Data.Multiset.Bind
import ExtensionAtlas.Integration.Resolve

/-! The edges of a batch, pair by pair. What one extension has to do with another does not depend on
the rest of the batch, so the edges of a batch are those of its pairs, each as often as it occurs
there. The order of the batch then only changes the order of the edges, and an extension that comes
or goes takes no edges with it but its own. -/

namespace ExtensionAtlas

/-- The pairs of places in a list, the earlier place first. -/
def placePairs (n : Nat) : List (Fin n × Fin n) :=
  (List.finRange n).flatMap fun i => ((List.finRange n).filter (i < ·)).map (i, ·)

/-- The pairs of values of a list, the earlier value first. -/
def valuePairs {α : Type} : List α → List (α × α)
  | [] => []
  | x :: xs => xs.map (x, ·) ++ valuePairs xs

section Rearranging

variable {α β γ : Type}

theorem flatMap_comm_perm (xs : List α) (ys : List β) (f : α → β → List γ) :
    (xs.flatMap fun x => ys.flatMap (f x)).Perm (ys.flatMap fun y => xs.flatMap (f · y)) := by
  rw [← Multiset.coe_eq_coe]
  simp only [← Multiset.coe_bind]
  exact Multiset.bind_bind _ _

theorem flatMap_filter_eq (xs : List α) (p : α → Bool) (f : α → List β) :
    (xs.filter p).flatMap f = xs.flatMap fun x => if p x then f x else [] := by
  induction xs with
  | nil => rfl
  | cons x xs ih => by_cases h : p x <;> simp [h, ih]

/-- Running through a list twice meets every pair in both orders, and every value with itself. -/
theorem flatMap_square_perm (f : α → α → List β) (hself : ∀ x, f x x = []) (xs : List α) :
    (xs.flatMap fun x => xs.flatMap (f x)).Perm
      ((valuePairs xs).flatMap fun (x, y) => f x y ++ f y x) := by
  induction xs with
  | nil => exact .nil
  | cons x xs ih =>
      have hsplit : (xs.flatMap fun y => f y x ++ xs.flatMap (f y)).Perm
          (xs.flatMap (f · x) ++ xs.flatMap fun y => xs.flatMap (f y)) :=
        (List.flatMap_append_perm _ _ _).symm
      have hpairs : (xs.flatMap (f x) ++ xs.flatMap (f · x)).Perm
          (xs.flatMap fun y => f x y ++ f y x) := List.flatMap_append_perm _ _ _
      simp only [List.flatMap_cons, hself, List.nil_append, valuePairs, List.flatMap_append,
        List.flatMap_map]
      refine (hsplit.append_left _).trans ?_
      rw [← List.append_assoc]
      exact hpairs.append ih

/-- The first place comes before all others, and these pair up among themselves. -/
theorem placePairs_succ (n : Nat) :
    placePairs (n + 1) = (List.finRange n).map (fun j => (0, j.succ)) ++
      (placePairs n).map fun (i, j) => (i.succ, j.succ) := by
  have hfirst : (List.finRange (n + 1)).filter ((0 : Fin (n + 1)) < ·) =
      (List.finRange n).map Fin.succ := by
    rw [List.finRange_succ, List.filter_cons_of_neg (by simp), List.filter_eq_self]
    intro j hj
    obtain ⟨k, -, rfl⟩ := List.mem_map.1 hj
    simp
  have hlater (i : Fin n) : (List.finRange (n + 1)).filter (i.succ < ·) =
      ((List.finRange n).filter (i < ·)).map Fin.succ := by
    rw [List.finRange_succ, List.filter_cons_of_neg (by simp), List.filter_map]
    simp [Function.comp_def]
  simp only [placePairs]
  conv_lhs => rw [List.finRange_succ, List.flatMap_cons, ← List.finRange_succ, hfirst]
  simp only [List.flatMap_map, hlater, List.map_map, List.map_flatMap, Function.comp_def]

theorem valuePairs_eq_map_placePairs (xs : List α) :
    valuePairs xs = (placePairs xs.length).map fun (i, j) => (xs[i], xs[j]) := by
  induction xs with
  | nil => rfl
  | cons x xs ih =>
      have hvalues : xs.map (x, ·) = (List.finRange xs.length).map fun j => (x, xs[j]) := by
        conv_lhs => rw [← List.map_getElem_finRange xs]
        rw [List.map_map]
        rfl
      rw [valuePairs, ih, hvalues]
      simp [placePairs_succ, Function.comp_def]

end Rearranging

namespace Integration

/-- The edges that the events, calculated fields and dependencies of an extension have with another
extension, whatever else is in the batch. -/
def edgesWith (references : Bool) (e other : Extension) : List Integration :=
  eventEdges [other] e ++ derivedFieldEdges [other] e
    ++ (if references then referenceEdges [other] e else [])

theorem others_eq_flatMap (e : Extension) (batch : List Extension) :
    e.others batch = batch.flatMap fun other => e.others [other] := by
  induction batch with
  | nil => rfl
  | cons o os ih =>
      rw [List.flatMap_cons, ← ih]
      by_cases h : o.name = e.name <;> simp [Extension.others, h]

theorem others_singleton_of_name_eq {e other : Extension} (h : other.name = e.name) :
    e.others [other] = [] := by
  simp [Extension.others, h]

/-- The edges of the publishers into a batch are their edges into its members. -/
theorem eventEdges_perm (batch : List Extension) (e : Extension) :
    (eventEdges batch e).Perm (batch.flatMap fun other => eventEdges [other] e) := by
  unfold eventEdges
  refine .trans (.of_eq ?_) (flatMap_comm_perm _ _ _)
  congr 1
  funext publisher
  rw [others_eq_flatMap, List.flatMap_assoc]

theorem derivedFieldEdges_perm (batch : List Extension) (e : Extension) :
    (derivedFieldEdges batch e).Perm (batch.flatMap fun other => derivedFieldEdges [other] e) := by
  unfold derivedFieldEdges
  refine .trans (.of_eq ?_) (flatMap_comm_perm _ _ _)
  congr 1
  funext f
  cases f.table? with
  | none => simp
  | some table =>
      dsimp only
      rw [others_eq_flatMap, List.filter_flatMap, List.map_flatMap]

theorem referenceEdges_perm (batch : List Extension) (e : Extension) :
    (referenceEdges batch e).Perm (batch.flatMap fun other => referenceEdges [other] e) := by
  unfold referenceEdges
  refine .trans (.of_eq ?_) (flatMap_comm_perm _ _ _)
  congr 1
  funext dependency
  rw [others_eq_flatMap, List.filter_flatMap, List.map_flatMap]

/-- Extensions of one name have no edges with each other. -/
theorem edgesWith_of_name_eq (references : Bool) {e other : Extension}
    (h : other.name = e.name) : edgesWith references e other = [] := by
  have hnone : ∀ f : DerivedField, f.table? = none ∨ ∃ table, f.table? = some table := fun f =>
    Option.eq_none_or_eq_some _
  have hderived : derivedFieldEdges [other] e = [] := by
    rw [derivedFieldEdges, List.flatMap_eq_nil_iff]
    intro f _
    rcases hnone f with hf | ⟨table, hf⟩ <;> simp [hf, others_singleton_of_name_eq h]
  simp [edgesWith, eventEdges, referenceEdges, hderived, others_singleton_of_name_eq h]

/-- Every edge of an extension with another runs between the two. -/
theorem ends_of_mem_edgesWith {references : Bool} {e other : Extension} {i : Integration}
    (h : i ∈ edgesWith references e other) :
    i.source = e.name ∧ i.target = other.name ∨ i.source = other.name ∧ i.target = e.name := by
  have hothers : ∀ o ∈ e.others [other], o = other := fun o ho => by
    simpa using List.mem_of_mem_filter ho
  rw [edgesWith, List.mem_append, List.mem_append] at h
  rcases h with (h | h) | h
  · simp only [eventEdges, List.mem_flatMap, List.mem_map] at h
    obtain ⟨publisher, -, o, ho, -, -, rfl⟩ := h
    rw [hothers o ho]
    exact .inl ⟨rfl, rfl⟩
  · simp only [derivedFieldEdges, List.mem_flatMap] at h
    obtain ⟨f, -, h⟩ := h
    split at h
    · obtain ⟨o, ho, rfl⟩ := List.mem_map.1 h
      rw [hothers o (List.mem_of_mem_filter ho)]
      exact .inr ⟨rfl, rfl⟩
    · simp at h
  · split at h
    · simp only [referenceEdges, List.mem_flatMap, List.mem_map] at h
      obtain ⟨dependency, -, o, ho, rfl⟩ := h
      rw [hothers o (List.mem_of_mem_filter ho)]
      exact .inl ⟨rfl, rfl⟩
    · simp at h

/-- The edges of a batch are the edges of its extensions with each other. -/
theorem resolve_perm_edgesWith (references : Bool) (batch : List Extension) :
    (resolve references batch).Perm
      (batch.flatMap fun e => batch.flatMap (edgesWith references e)) := by
  have hreferences : (if references then batch.flatMap (referenceEdges batch) else []).Perm
      (batch.flatMap fun e => if references then
        batch.flatMap fun other => referenceEdges [other] e else []) := by
    cases references with
    | false => simp
    | true => exact .flatMap_left _ fun e _ => referenceEdges_perm batch e
  have hpasses (e : Extension) :
      (eventEdges batch e ++ derivedFieldEdges batch e ++ (if references then
          batch.flatMap fun other => referenceEdges [other] e else [])).Perm
        (batch.flatMap (edgesWith references e)) := by
    refine (((eventEdges_perm batch e).append (derivedFieldEdges_perm batch e)).append
      (.refl _)).trans ?_
    refine ((List.flatMap_append_perm _ _ _).append_right _).trans ?_
    cases references with
    | false =>
        have hwith : edgesWith false e =
            fun other => eventEdges [other] e ++ derivedFieldEdges [other] e := by
          funext other
          simp [edgesWith]
        simp [hwith]
    | true => exact List.flatMap_append_perm _ _ _
  rw [resolve]
  refine (((List.flatMap_append_perm _ _ _).append hreferences)).trans ?_
  exact (List.flatMap_append_perm _ _ _).trans (.flatMap_left _ fun e _ => hpasses e)

/-- Every edge of a batch starts and ends at one of its extensions. -/
theorem ends_mem_of_mem_resolve {references : Bool} {batch : List Extension} {i : Integration}
    (h : i ∈ resolve references batch) :
    (∃ e ∈ batch, e.name = i.source) ∧ ∃ e ∈ batch, e.name = i.target := by
  rw [(resolve_perm_edgesWith references batch).mem_iff] at h
  obtain ⟨e, he, h⟩ := List.mem_flatMap.1 h
  obtain ⟨other, hother, h⟩ := List.mem_flatMap.1 h
  rcases ends_of_mem_edgesWith h with ⟨hsource, htarget⟩ | ⟨hsource, htarget⟩
  · exact ⟨⟨e, he, hsource.symm⟩, other, hother, htarget.symm⟩
  · exact ⟨⟨other, hother, hsource.symm⟩, e, he, htarget.symm⟩

theorem resolve_pair_perm (references : Bool) (a b : Extension) :
    (resolve references [a, b]).Perm (edgesWith references a b ++ edgesWith references b a) := by
  have h := resolve_perm_edgesWith references [a, b]
  simpa [edgesWith_of_name_eq references (rfl : a.name = a.name),
    edgesWith_of_name_eq references (rfl : b.name = b.name)] using h

/-- The order of a batch only changes the order of its edges. -/
theorem resolve_perm_of_perm (references : Bool) {batch other : List Extension}
    (h : batch.Perm other) : (resolve references batch).Perm (resolve references other) :=
  (resolve_perm_edgesWith references batch).trans <|
    (h.flatMap fun _ _ => h.flatMap_right _).trans (resolve_perm_edgesWith references other).symm

/-- One more extension brings only its own edges. -/
theorem resolve_cons_perm (references : Bool) (e : Extension) (batch : List Extension) :
    (resolve references (e :: batch)).Perm (resolve references batch ++
      batch.flatMap fun other => edgesWith references e other ++ edgesWith references other e) := by
  have hself : ∀ x, edgesWith references x x = [] := fun x => edgesWith_of_name_eq references rfl
  have hsquare := fun xs => (resolve_perm_edgesWith references xs).trans
    (flatMap_square_perm (edgesWith references) hself xs)
  refine (hsquare (e :: batch)).trans ?_
  rw [valuePairs, List.flatMap_append, List.flatMap_map]
  exact List.perm_append_comm.trans ((hsquare batch).symm.append_right _)

/-- An extension that declares a single event. -/
def withEvent (name event : String) (role : EventRole) : Extension :=
  { name, path := name, events := [⟨event, some role, .codeunit, name, []⟩] }

end Integration

end ExtensionAtlas
