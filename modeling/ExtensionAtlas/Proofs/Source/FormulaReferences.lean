import ExtensionAtlas.Proofs.Source.FormulaSearch
import ExtensionAtlas.Proofs.Source.WrittenNames

/-! What a formula refers to. The first opening parenthesis that has the names of a table and of a
field behind it, with a point between them, gives the source of the formula; no other text in it
does. -/

namespace ExtensionAtlas.Source

open Pattern
open Text (isBlank)

/-- A text starts with a reference in parentheses to a field of a table. -/
inductive RefersTo : (text table field : List Char) → Prop where
  | intro {table field gap written gap' gap'' written' rest : List Char}
      (gap_blank : ∀ c ∈ gap, isBlank c = true) (writes_table : formulaNames.Writes written table)
      (gap_blank' : ∀ c ∈ gap', isBlank c = true) (gap_blank'' : ∀ c ∈ gap'', isBlank c = true)
      (writes_field : formulaNames.Writes written' field)
      (field_ends : formulaNames.Ends written' rest) :
      RefersTo ('(' :: (gap ++ (written ++ (gap' ++ '.' :: (gap'' ++ (written' ++ rest)))))) table
        field

/-- What a formula gives for its source. -/
inductive IsSource (formula : List Char) : (table field : Option (List Char)) → Prop where
  | absent (none_refers : ∀ front text, formula = front ++ text →
      ¬∃ table field, RefersTo text table field) : IsSource formula none none
  | found {front text table field : List Char} (formula_eq : formula = front ++ text)
      (first : ∀ front' text', formula = front' ++ text' → front'.length < front.length →
        ¬∃ table field, RefersTo text' table field)
      (refers : RefersTo text table field) :
      IsSource formula (trimmed? table) (trimmed? field)

/-- An identifier does not go on with a blank or a point. -/
theorem ends_of_gap {gap : List Char} (hgap : ∀ c ∈ gap, isBlank c = true)
    (written rest : List Char) : formulaNames.Ends written (gap ++ '.' :: rest) := by
  rintro - c hc
  cases gap with
  | nil =>
      obtain rfl : '.' = c := Option.some.inj hc
      decide
  | cons d gap =>
      obtain rfl : d = c := Option.some.inj hc
      exact of_blank (P := fun d => Formula.isNamePart d = false) (by decide)
        (hgap d List.mem_cons_self)

/-- A reference is read from its parenthesis on. -/
theorem exists_matchAt_of_refersTo {text table field : List Char} (h : RefersTo text table field)
    (front : List Char) : ∃ m ∈ Formula.reference.matchAt (.between front text),
      m.text .table = table ∧ m.text .field = field := by
  obtain ⟨hgap, htable, hgap', hgap'', hfield, hends⟩ := h
  rw [matchAt, Formula.reference, run_cons, run_char, run_cons]
  apply run_most hgap (htable.noBlank _)
  rw [run_cons, formulaName_eq_pattern]
  apply NameForm.run_pattern htable (ends_of_gap hgap' _ _)
  intro stretch hstretch
  rw [run_cons]
  apply run_most hgap' (NoBlank.cons (by decide) _)
  rw [run_cons, run_char, run_cons]
  apply run_most hgap'' (hfield.noBlank _)
  rw [run_cons, formulaName_eq_pattern]
  apply NameForm.run_pattern hfield hends
  intro stretch' hstretch'
  exact ⟨_, rfl, hstretch, hstretch'⟩

theorem offers_reference_iff {front text : List Char} : Formula.reference.Offers front text ↔
    ∃ table field, RefersTo text table field := by
  constructor
  · rintro ⟨_, rest, rfl, _, _, rfl, hopen, gap, _, rfl, hgap, written, _, rfl, hwritten, gap', _,
      rfl, hgap', _, _, rfl, hpoint, gap'', _, rfl, hgap'', written', _, rfl, hwritten', rfl⟩
    obtain rfl := describes_char.1 hopen
    obtain rfl := describes_char.1 hpoint
    rw [formulaName_eq_pattern] at hwritten hwritten'
    obtain ⟨table, htable⟩ := NameForm.describes_pattern_iff.1 hwritten
    obtain ⟨field, hfield⟩ := NameForm.describes_pattern_iff.1 hwritten'
    obtain ⟨longest, field', rest', heq, hfield', hends⟩ := hfield.exists_ends rest
    have h := RefersTo.intro hgap htable hgap' hgap'' hfield' hends
    rw [← heq] at h
    refine ⟨table, field', ?_⟩
    simpa using h
  · rintro ⟨table, field, h⟩
    obtain ⟨m, hm, -⟩ := exists_matchAt_of_refersTo h front
    by_contra hno
    rw [matchAt_eq_none_iff.2 hno] at hm
    cases hm

theorem RefersTo.head_eq {text table field : List Char} (h : RefersTo text table field) :
    text.head? = some '(' := by
  cases h
  rfl

theorem not_refersTo_iff {front text : List Char} :
    Formula.reference.matchAt (.between front text) = none ↔
      ¬∃ table field, RefersTo text table field := by
  rw [matchAt_eq_none_iff, offers_reference_iff]

theorem nameOf?_eq (text : List Char) :
    Formula.nameOf? text = (trimmed? text).map String.ofList := by
  rw [Formula.nameOf?, trimmed?]
  split
  · next hnil => rw [if_pos hnil, Option.map_none]
  · next hne => rw [if_neg hne, Option.map_some]

/-- The reading of a formula by its source. -/
def readingOf (formula : List Char) (table field : Option (List Char)) : Formula.Reading where
  method := Formula.method formula
  sourceTable := table.map String.ofList
  sourceField := field.map String.ofList

theorem readingOf_inj {formula : List Char} {table table' field field' : Option (List Char)}
    (h : readingOf formula table field = readingOf formula table' field') :
    table = table' ∧ field = field' := by
  have hinj : Function.Injective (Option.map String.ofList) :=
    Option.map_injective fun _ _ => String.ofList_injective
  exact ⟨hinj (congrArg Formula.Reading.sourceTable h),
    hinj (congrArg Formula.Reading.sourceField h)⟩

theorem exists_isSource (formula : List Char) :
    ∃ table field, IsSource formula table field := by
  cases hfound : Formula.reference.first? formula with
  | none =>
      exact ⟨none, none, .absent fun front text htext =>
        not_refersTo_iff.1 (first?_eq_none_iff.1 hfound front text htext)⟩
  | some m =>
      obtain ⟨front, text, htext, hm, hearlier⟩ := exists_of_first?_eq_some hfound
      obtain ⟨table, field, h⟩ : ∃ table field, RefersTo text table field := by
        by_contra hno
        rw [not_refersTo_iff.2 hno] at hm
        cases hm
      exact ⟨_, _, .found htext (fun _ _ htext' hlt =>
        not_refersTo_iff.1 (hearlier _ _ htext' hlt)) h⟩

theorem read_of_isSource {formula : List Char} {table field : Option (List Char)}
    (h : IsSource formula table field) : Formula.read formula = readingOf formula table field := by
  cases h with
  | absent hnone =>
      have hfound : Formula.reference.first? formula = none :=
        first?_eq_none_iff.2 fun front text htext => not_refersTo_iff.2 (hnone front text htext)
      rw [Formula.read, hfound]
      rfl
  | found htext hfirst h =>
      obtain ⟨m, hm, htable, hfield⟩ := exists_matchAt_of_refersTo h _
      have hfound : Formula.reference.first? formula = some m :=
        first?_eq_some_iff.2 ⟨_, _, htext, hm, fun _ _ htext' hlt =>
          not_refersTo_iff.2 (hfirst _ _ htext' hlt)⟩
      rw [Formula.read, hfound, readingOf, ← nameOf?_eq, ← nameOf?_eq, ← htable, ← hfield]

/-- A reference behind a text without parentheses is the first one. -/
theorem IsSource.of_refersTo {front text table field : List Char} (hfront : '(' ∉ front)
    (h : RefersTo text table field) :
    IsSource (front ++ text) (trimmed? table) (trimmed? field) := by
  refine .found rfl (fun front' text' htext hlt => ?_) h
  rintro ⟨table', field', h'⟩
  obtain ⟨extra, rfl, rfl⟩ := Text.exists_between htext.symm hlt.le
  -- the other reference would start with a parenthesis in front of this one
  cases extra with
  | nil => simp at hlt
  | cons c extra =>
      obtain rfl : c = '(' := Option.some.inj h'.head_eq
      simp at hfront

theorem read_eq_iff {formula : List Char} {table field : Option (List Char)} :
    Formula.read formula = readingOf formula table field ↔ IsSource formula table field := by
  refine ⟨fun h => ?_, read_of_isSource⟩
  obtain ⟨table', field', hsource⟩ := exists_isSource formula
  obtain ⟨rfl, rfl⟩ := readingOf_inj (h.symm.trans (read_of_isSource hsource))
  exact hsource

/-- **The source of a formula.** A reference behind a text without opening parentheses gives the
source, whatever follows it. In any formula the source comes from the first place that has a
reference, and there is none if no place has one. -/
theorem source_of_formula (formula : List Char) :
    (∀ front text table field, formula = front ++ text → '(' ∉ front → RefersTo text table field →
      Formula.read formula = readingOf formula (trimmed? table) (trimmed? field)) ∧
    ∀ table field, Formula.read formula = readingOf formula table field ↔
      IsSource formula table field := by
  refine ⟨?_, fun _ _ => read_eq_iff⟩
  rintro front text table field rfl hfront h
  exact read_of_isSource (.of_refersTo hfront h)

/-- A formula with a reference in its condition, too. -/
def filteredFormula : List Char :=
  "Sum(\x22Sales Line\x22 . Amount WHERE (Kind = CONST(Kind.Order)))".toList

theorem refersTo_filteredFormula :
    RefersTo "(\x22Sales Line\x22 . Amount WHERE (Kind = CONST(Kind.Order)))".toList
      "Sales Line".toList "Amount".toList := by
  refine @RefersTo.intro "Sales Line".toList "Amount".toList [] "\x22Sales Line\x22".toList
    [' '] [' '] "Amount".toList " WHERE (Kind = CONST(Kind.Order)))".toList
    (by decide) (@NameForm.Writes.quoted formulaNames "Sales Line".toList (by decide) (by decide)
      (.inl rfl)) (by decide) (by decide)
    (.bare ⟨'A', "mount".toList, rfl, by decide, by decide⟩) ?_
  rintro - c hc
  obtain rfl : ' ' = c := Option.some.inj hc
  decide

theorem source_of_filteredFormula :
    Formula.read filteredFormula =
        readingOf filteredFormula (some "Sales Line".toList) (some "Amount".toList) ∧
      IsSource filteredFormula (some "Sales Line".toList) (some "Amount".toList) := by
  have hread : Formula.read filteredFormula =
      readingOf filteredFormula (some "Sales Line".toList) (some "Amount".toList) :=
    (source_of_formula filteredFormula).1 "Sum".toList _ _ _ rfl (by decide)
      refersTo_filteredFormula
  exact ⟨hread, ((source_of_formula filteredFormula).2 _ _).1 hread⟩

end ExtensionAtlas.Source
