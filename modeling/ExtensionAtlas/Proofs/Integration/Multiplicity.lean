import Mathlib
import ExtensionAtlas.Proofs.Integration.Pairs
import ExtensionAtlas.Proofs.Text.Occurrence

/-! The edges of a batch, place by place. They are those of the pairs of its places, and an edge is
there once for every way in which the batch gives rise to it: for every publisher and subscriber
that match, for every calculated field and extension that has its source table, and for every
dependency and extension that has an object of that name. Things are counted by their places, since
extensions, events and dependencies may be there more than once. -/

namespace ExtensionAtlas.Integration

/-- The edges of a batch are those of its pairs, place by place. They do not depend on the order of
the batch, and an extension anywhere in it brings only edges that start or end at its name. -/
theorem resolve_perm_flatMap_placePairs (references : Bool) (batch : List Extension) :
    (resolve references batch).Perm ((placePairs batch.length).flatMap fun (i, j) =>
      resolve references [batch[i], batch[j]]) ∧
    (∀ other, batch.Perm other → (resolve references batch).Perm (resolve references other)) ∧
    ∀ front e back, ∃ own,
      (resolve references (front ++ e :: back)).Perm (resolve references (front ++ back) ++ own) ∧
      ∀ i ∈ own, i.source = e.name ∨ i.target = e.name := by
  refine ⟨?_, fun other h => resolve_perm_of_perm references h, ?_⟩
  · have hself : ∀ x, edgesWith references x x = [] := fun x => edgesWith_of_name_eq references rfl
    have hpairs : ((placePairs batch.length).flatMap fun (i, j) =>
        resolve references [batch[i], batch[j]]) =
          (valuePairs batch).flatMap fun (a, b) => resolve references [a, b] := by
      rw [valuePairs_eq_map_placePairs, List.flatMap_map]
    rw [hpairs]
    refine (resolve_perm_edgesWith references batch).trans ?_
    refine (flatMap_square_perm (edgesWith references) hself batch).trans ?_
    exact .flatMap_left _ fun (a, b) _ => (resolve_pair_perm references a b).symm
  · intro front e back
    refine ⟨_, (resolve_perm_of_perm references List.perm_middle).trans
      (resolve_cons_perm references e (front ++ back)), ?_⟩
    intro i hi
    obtain ⟨other, -, hi⟩ := List.mem_flatMap.1 hi
    rcases List.mem_append.1 hi with hi | hi <;> rcases ends_of_mem_edgesWith hi with h | h
    · exact .inl h.1
    · exact .inr h.2
    · exact .inr h.2
    · exact .inl h.1

/-- Two extensions that couple, in both orders, have the same edges, and there are some. -/
theorem resolve_perm_flatMap_placePairs_swap :
    let raising := withEvent "Sales" "OnPost" .publisher
    let reacting := withEvent "Stock" "onpost" .subscriber
    [raising, reacting].Perm [reacting, raising] ∧
      (resolve false [raising, reacting]).Perm (resolve false [reacting, raising]) ∧
      resolve false [raising, reacting] ≠ [] :=
  ⟨.swap _ _ _, (resolve_perm_flatMap_placePairs false _).2.1 _ (.swap _ _ _), by decide⟩

open Finset

variable {batch : List Extension}

/-- What the extensions of a batch add up to is added up over their places. -/
theorem sum_map_eq_sum_places {f : Extension → Nat} {g : Fin batch.length → Nat}
    (h : ∀ i, f batch[i] = g i) : (batch.map f).sum = ∑ i, g i := by
  rw [← Fin.sum_univ_fun_getElem]
  exact Fintype.sum_congr _ _ h

/-- The place of an extension in a batch, and in one of its lists the place of an item. -/
abbrev Place (batch : List Extension) {α : Type} (part : Extension → List α) : Type :=
  Σ i : Fin batch.length, Fin (part batch[i]).length

namespace Place

variable {α : Type} {part : Extension → List α}

def owner (x : Place batch part) : Extension := batch[x.1]

def item (x : Place batch part) : α := (part x.owner)[x.2]

/-- Items of all extensions of a batch are summed up over their places. -/
theorem sum_eq (batch : List Extension) (part : Extension → List α) (f : Extension → α → Nat) :
    (batch.map fun e => ((part e).map (f e)).sum).sum =
      ∑ x : Place batch part, f x.owner x.item := by
  rw [Fintype.sum_sigma]
  refine sum_map_eq_sum_places fun i => ?_
  rw [← Fin.sum_univ_fun_getElem]
  rfl

end Place

/-- A publisher and a subscriber stand behind an edge of some source, target and description. -/
def CoupledByEvent (source target description : String) (x y : Place batch (·.events)) : Prop :=
  x.owner.name = source ∧ y.owner.name = target ∧ source ≠ target ∧
    x.item.role = some .publisher ∧ y.item.role = some .subscriber ∧
    eventNamesMatch x.item.name y.item.name = true ∧
    description = x.item.name ++ " event integration"

/-- A calculated field and an extension with its source table stand behind an edge. The edge runs
towards the field. -/
def CoupledByDerivedField (source target description : String) (x : Place batch (·.flowfields))
    (j : Fin batch.length) : Prop :=
  x.owner.name = target ∧ batch[j].name = source ∧ source ≠ target ∧
    ∃ table ∈ x.item.sourceTable, table ≠ "" ∧
      (∃ o ∈ batch[j].objects, table.toList <:+: o.name.toList) ∧
      description = x.item.name ++ " flowfield references " ++ table

/-- A dependency and an extension with an object of that name stand behind an edge. -/
def CoupledByReference (source target description : String) (x : Place batch (·.dependencies))
    (j : Fin batch.length) : Prop :=
  x.owner.name = source ∧ batch[j].name = target ∧ source ≠ target ∧
    (∃ o ∈ batch[j].objects, o.name = x.item) ∧
    description = source ++ " references " ++ x.item

instance (source target description : String) (x y : Place batch (·.events)) :
    Decidable (CoupledByEvent source target description x y) :=
  inferInstanceAs (Decidable (_ ∧ _))

instance (source target description : String) (x : Place batch (·.flowfields))
    (j : Fin batch.length) : Decidable (CoupledByDerivedField source target description x j) :=
  inferInstanceAs (Decidable (_ ∧ _))

instance (source target description : String) (x : Place batch (·.dependencies))
    (j : Fin batch.length) : Decidable (CoupledByReference source target description x j) :=
  inferInstanceAs (Decidable (_ ∧ _))

/-- In how many ways a batch gives rise to an edge. -/
def multiplicity (references : Bool) (batch : List Extension) : Integration → Nat
  | ⟨source, target, .event, description⟩ =>
    #{x : Place batch (·.events) × Place batch (·.events) |
      CoupledByEvent source target description x.1 x.2}
  | ⟨source, target, .derivedField, description⟩ =>
    #{x : Place batch (·.flowfields) × Fin batch.length |
      CoupledByDerivedField source target description x.1 x.2}
  | ⟨source, target, .reference, description⟩ =>
    if references then
      #{x : Place batch (·.dependencies) × Fin batch.length |
        CoupledByReference source target description x.1 x.2}
    else 0

/-- The edges of publishers, with all conditions on a publisher and a subscriber in one place. -/
theorem eventEdges_eq_flatMap (batch : List Extension) (e : Extension) :
    eventEdges batch e = e.events.flatMap fun publisher => batch.flatMap fun other =>
      other.events.flatMap fun subscriber =>
        if publisher.role = some .publisher ∧ other.name ≠ e.name ∧ subscriber.answers publisher
          then [ofEvent e publisher other] else [] := by
  simp only [eventEdges, Extension.others, List.map_eq_flatMap, flatMap_filter_eq]
  congr 1
  funext publisher
  by_cases hrole : publisher.role = some .publisher
  · rw [if_pos (by simpa using hrole)]
    congr 1
    funext other
    by_cases hname : other.name = e.name <;> simp [hrole, hname]
  · simp [hrole]

theorem derivedFieldEdges_eq_flatMap (batch : List Extension) (e : Extension) :
    derivedFieldEdges batch e = e.flowfields.flatMap fun f => batch.flatMap fun other =>
      match f.table? with
      | some table =>
        if other.name ≠ e.name ∧ other.hasTable table then [ofDerivedField e f table other] else []
      | none => [] := by
  rw [derivedFieldEdges]
  congr 1
  funext f
  cases f.table? with
  | none => simp
  | some table =>
      simp only [Extension.others, List.map_eq_flatMap, flatMap_filter_eq, List.filter_filter]
      congr 1
      funext other
      by_cases hname : other.name = e.name <;> simp [hname]

theorem referenceEdges_eq_flatMap (batch : List Extension) (e : Extension) :
    referenceEdges batch e = e.dependencies.flatMap fun dependency => batch.flatMap fun other =>
      if other.name ≠ e.name ∧ dependency ∈ other.objectNames then [ofReference e dependency other]
        else [] := by
  rw [referenceEdges]
  congr 1
  funext dependency
  simp only [Extension.others, List.map_eq_flatMap, flatMap_filter_eq, List.filter_filter]
  congr 1
  funext other
  by_cases hname : other.name = e.name <;> simp [hname]

theorem count_ite_singleton {P : Prop} [Decidable P] (edge i : Integration) :
    (if P then [edge] else []).count i = if P ∧ edge = i then 1 else 0 := by
  by_cases h : P <;> simp [h, List.count_cons]

theorem table?_eq_some_iff (f : DerivedField) (table : String) :
    f.table? = some table ↔ f.sourceTable = some table ∧ table ≠ "" := by
  simp [DerivedField.table?]

theorem hasTable_iff (e : Extension) (table : String) :
    e.hasTable table = true ↔ ∃ o ∈ e.objects, table.toList <:+: o.name.toList := by
  have hnames (o : Object) : namesTable o.name table = true ↔ table.toList <:+: o.name.toList := by
    rw [namesTable, Bool.or_eq_true, Text.occursIn_iff_infix]
    refine ⟨fun h => h.elim (fun h => ?_) id, .inr⟩
    rw [eq_of_beq h]
  simp [Extension.hasTable, hnames]

/-- Edges of events are counted by the places of publishers and subscribers. -/
theorem count_eventEdges (source target description : String) :
    (batch.flatMap (eventEdges batch)).count ⟨source, target, .event, description⟩ =
      #{x : Place batch (·.events) × Place batch (·.events) |
        CoupledByEvent source target description x.1 x.2} := by
  simp only [eventEdges_eq_flatMap, List.count_flatMap, Function.comp_def, count_ite_singleton]
  rw [card_filter, Fintype.sum_prod_type]
  refine (Place.sum_eq batch (·.events) _).trans (Fintype.sum_congr _ _ fun x => ?_)
  refine (Place.sum_eq batch (·.events) _).trans (Fintype.sum_congr _ _ fun y => ?_)
  congr 1
  simp only [CoupledByEvent, ofEvent, Event.answers, Bool.and_eq_true, beq_iff_eq,
    Integration.mk.injEq, true_and, eq_iff_iff]
  constructor
  · rintro ⟨⟨hx, hne, hy, hmatch⟩, rfl, rfl, rfl⟩
    exact ⟨rfl, rfl, Ne.symm hne, hx, hy, hmatch, rfl⟩
  · rintro ⟨rfl, rfl, hne, hx, hy, hmatch, rfl⟩
    exact ⟨⟨hx, Ne.symm hne, hy, hmatch⟩, rfl, rfl, rfl⟩

/-- Edges to calculated fields are counted by the places of fields and of extensions. -/
theorem count_derivedFieldEdges (source target description : String) :
    (batch.flatMap (derivedFieldEdges batch)).count ⟨source, target, .derivedField, description⟩ =
      #{x : Place batch (·.flowfields) × Fin batch.length |
        CoupledByDerivedField source target description x.1 x.2} := by
  simp only [derivedFieldEdges_eq_flatMap, List.count_flatMap, Function.comp_def]
  rw [card_filter, Fintype.sum_prod_type]
  refine (Place.sum_eq batch (·.flowfields) _).trans (Fintype.sum_congr _ _ fun x => ?_)
  refine sum_map_eq_sum_places fun j => ?_
  cases htable : x.item.table? with
  | none =>
      rw [if_neg]
      · rfl
      rintro ⟨-, -, -, table, hsource, hne, -⟩
      rw [(table?_eq_some_iff _ _).2 ⟨hsource, hne⟩] at htable
      cases htable
  | some table =>
      obtain ⟨hsource, hne⟩ := (table?_eq_some_iff _ _).1 htable
      dsimp only
      rw [count_ite_singleton]
      congr 1
      simp only [CoupledByDerivedField, ofDerivedField, hasTable_iff, hsource, Option.mem_def,
        Option.some.injEq, exists_eq_left', Integration.mk.injEq, true_and, eq_iff_iff]
      constructor
      · rintro ⟨⟨hother, hobject⟩, rfl, rfl, rfl⟩
        exact ⟨rfl, rfl, hother, hne, hobject, rfl⟩
      · rintro ⟨rfl, rfl, hother, -, hobject, rfl⟩
        exact ⟨⟨hother, hobject⟩, rfl, rfl, rfl⟩

/-- Edges of dependencies are counted by the places of dependencies and of extensions. -/
theorem count_referenceEdges (source target description : String) :
    (batch.flatMap (referenceEdges batch)).count ⟨source, target, .reference, description⟩ =
      #{x : Place batch (·.dependencies) × Fin batch.length |
        CoupledByReference source target description x.1 x.2} := by
  simp only [referenceEdges_eq_flatMap, List.count_flatMap, Function.comp_def, count_ite_singleton]
  rw [card_filter, Fintype.sum_prod_type]
  refine (Place.sum_eq batch (·.dependencies) _).trans (Fintype.sum_congr _ _ fun x => ?_)
  refine sum_map_eq_sum_places fun j => ?_
  congr 1
  simp only [CoupledByReference, ofReference, Extension.objectNames, List.mem_map,
    Integration.mk.injEq, true_and, eq_iff_iff]
  constructor
  · rintro ⟨⟨hother, hobject⟩, rfl, rfl, rfl⟩
    exact ⟨rfl, rfl, Ne.symm hother, hobject, rfl⟩
  · rintro ⟨rfl, rfl, hother, hobject, rfl⟩
    exact ⟨⟨Ne.symm hother, hobject⟩, rfl, rfl, rfl⟩

theorem kind_of_mem_eventEdges {e : Extension} {i : Integration} (h : i ∈ eventEdges batch e) :
    i.kind = .event := by
  simp only [eventEdges, List.mem_flatMap, List.mem_map] at h
  obtain ⟨-, -, -, -, -, -, rfl⟩ := h
  rfl

theorem kind_of_mem_derivedFieldEdges {e : Extension} {i : Integration}
    (h : i ∈ derivedFieldEdges batch e) : i.kind = .derivedField := by
  simp only [derivedFieldEdges, List.mem_flatMap] at h
  obtain ⟨f, -, h⟩ := h
  split at h
  · obtain ⟨-, -, rfl⟩ := List.mem_map.1 h
    rfl
  · simp at h

theorem kind_of_mem_referenceEdges {e : Extension} {i : Integration}
    (h : i ∈ referenceEdges batch e) : i.kind = .reference := by
  simp only [referenceEdges, List.mem_flatMap, List.mem_map] at h
  obtain ⟨-, -, -, -, rfl⟩ := h
  rfl

/-- Edges of one kind do not occur among those of another. -/
theorem count_flatMap_of_kind_ne {kind : IntegrationKind} {f : Extension → List Integration}
    (hkind : ∀ {e i}, i ∈ f e → i.kind = kind) {i : Integration} (h : i.kind ≠ kind) :
    (batch.flatMap f).count i = 0 := by
  rw [List.count_eq_zero, List.mem_flatMap]
  rintro ⟨e, -, hi⟩
  exact h (hkind hi)

/-- An edge occurs once for every way in which the batch gives rise to it. -/
theorem count_resolve (references : Bool) (batch : List Extension) (i : Integration) :
    (resolve references batch).count i = multiplicity references batch i := by
  obtain ⟨source, target, kind, description⟩ := i
  have hreferences : (if references then batch.flatMap (referenceEdges batch) else []).count
        ⟨source, target, kind, description⟩ =
      if references then (batch.flatMap (referenceEdges batch)).count
        ⟨source, target, kind, description⟩ else 0 := by
    cases references <;> rfl
  rw [resolve, List.count_append, List.count_append, hreferences]
  cases kind with
  | event =>
      rw [count_eventEdges, count_flatMap_of_kind_ne kind_of_mem_derivedFieldEdges (by simp),
        count_flatMap_of_kind_ne kind_of_mem_referenceEdges (by simp), ite_self]
      rfl
  | derivedField =>
      rw [count_derivedFieldEdges, count_flatMap_of_kind_ne kind_of_mem_eventEdges (by simp),
        count_flatMap_of_kind_ne kind_of_mem_referenceEdges (by simp), ite_self, Nat.zero_add]
      rfl
  | reference =>
      rw [count_referenceEdges, count_flatMap_of_kind_ne kind_of_mem_eventEdges (by simp),
        count_flatMap_of_kind_ne kind_of_mem_derivedFieldEdges (by simp), Nat.zero_add]
      rfl

/-- An extension with two objects that have the source table couples once to the calculated field.
-/
example : (resolve false [
    { name := "Ledger", path := "", flowfields :=
      [⟨"Total", "Account", .sum, some "Entry", none⟩] },
    { name := "Stock", path := "", objects :=
      [⟨.table, 1, "Entry", none, [], []⟩, ⟨.table, 2, "Value Entry", none, [], []⟩] }]).count
    ⟨"Stock", "Ledger", .derivedField, "Total flowfield references Entry"⟩ = 1 := by
  decide

end ExtensionAtlas.Integration
