import ExtensionAtlas.Proofs.Source.FormulaReferences
import ExtensionAtlas.Proofs.Source.HeaderOrder

/-! Texts that may be absent. A return type, a formula and the table and field that a formula speaks
of are absent if a source text does not give them or gives blanks in their place; one that is
present is not empty and has no blanks around it. The base of an object is not read in this way. It
is absent if the heading does not extend anything, and a name that is made of blanks alone makes it
the empty text. -/

namespace ExtensionAtlas.Source

/-- A text that is not empty and has no blanks around it. -/
structure Present (text : String) : Prop where
  ne_empty : text ≠ ""
  trimmed : Text.Trimmed text.toList

instance (text : String) : Decidable (Present text) :=
  decidable_of_iff (text ≠ "" ∧ Text.Trimmed text.toList)
    ⟨fun h => ⟨h.1, h.2⟩, fun h => ⟨h.ne_empty, h.trimmed⟩⟩

/-- A text that is absent or present, and not there without saying anything. -/
def Proper (text : Option String) : Prop := ∀ s ∈ text, Present s

instance (text : Option String) : Decidable (Proper text) := Option.decidableForallMem text

theorem present_strip {text : List Char} (h : Text.strip text ≠ []) :
    Present (String.ofList (Text.strip text)) where
  ne_empty hempty := h (String.ofList_eq_empty_iff.1 hempty)
  trimmed := by
    rw [String.toList_ofList]
    exact Text.trimmed_strip text

theorem proper_none : Proper none := by
  intro s hs
  cases hs

theorem proper_trimmed? (text : List Char) : Proper ((trimmed? text).map String.ofList) := by
  intro s hs
  obtain ⟨stripped, hstripped, rfl⟩ := Option.map_eq_some_iff.1 hs
  by_cases hnil : Text.strip text = []
  · rw [trimmed?, if_pos hnil] at hstripped
    cases hstripped
  · rw [trimmed?, if_neg hnil] at hstripped
    obtain rfl := Option.some.inj hstripped
    exact present_strip hnil

section Members

theorem presentText?_eq (text : Option (List Char)) :
    Procedure.presentText? text = (trimmed? (text.getD [])).map String.ofList := by
  rw [Procedure.presentText?, trimmed?]
  split
  · next hnil => rw [if_pos hnil, Option.map_none]
  · next hne => rw [if_neg hne, Option.map_some]

theorem proper_returnType {body : List Char} {p : Procedure} (h : p ∈ Procedure.scan body) :
    Proper p.returnType := by
  obtain ⟨m, -, rfl⟩ := List.mem_map.1 h
  rw [show (Procedure.ofMatch body m).returnType = _ from presentText?_eq (m.text? .returns)]
  exact proper_trimmed? _

theorem proper_formula? (body name : List Char) :
    Proper ((Field.formula? body name).map String.ofList) := by
  rw [formula?_eq_bind]
  cases (Field.formulaPattern name).first? body with
  | none => exact proper_none
  | some m => exact proper_trimmed? (m.text .formula)

/-- Only the fields of a flowfield type have formulas, and these are present. -/
theorem calcFormula_of_mem_scan {body : List Char} {fields : List Field}
    (h : Field.scan body = .ok fields) {f : Field} (hf : f ∈ fields) :
    ∀ formula ∈ f.calcFormula, f.isFlowfield = true ∧ Present formula := by
  obtain ⟨m, -, hmatch⟩ := exists_of_mem_mapM h hf
  rw [Field.ofMatch] at hmatch
  split at hmatch
  · cases hmatch
  · obtain rfl := Except.ok.inj hmatch
    intro formula hformula
    by_cases hflow : Field.isFlowType (Text.strip (m.text .type))
    · rw [if_pos hflow] at hformula
      exact ⟨hflow, proper_formula? body _ formula hformula⟩
    · rw [if_neg hflow] at hformula
      cases hformula

theorem calcFormula_of_ofSource {source path : String} {e : Extension}
    (h : Extension.ofSource source path = .ok e) {o : Object} (ho : o ∈ e.objects) {f : Field}
    (hf : f ∈ o.fields) : ∀ formula ∈ f.calcFormula, f.isFlowfield = true ∧ Present formula := by
  obtain ⟨objects, hscan, rfl⟩ := Extension.ofSource_eq_ok_iff.1 h
  obtain ⟨m, -, header, -, hbody⟩ := exists_left_of_mem (forall₂_of_scan hscan) ho
  obtain ⟨fields, hfields, rfl⟩ := Object.ofBody_eq_ok_iff.1 hbody
  exact calcFormula_of_mem_scan hfields hf

theorem proper_read (formula : List Char) :
    Proper (Formula.read formula).sourceTable ∧ Proper (Formula.read formula).sourceField := by
  rw [Formula.read]
  cases Formula.reference.first? formula with
  | none => exact ⟨proper_none, proper_none⟩
  | some m =>
      simp only [nameOf?_eq]
      exact ⟨proper_trimmed? _, proper_trimmed? _⟩

end Members

/-- What an object has for its base, by what its heading gives. -/
inductive BaseOf (m : Match Header.Part) : Option String → Prop where
  | absent (captures : m.text? .base = none) : BaseOf m none
  | named {lead trail : List Char} {name : String}
      (captures : m.text? .base = some (lead ++ (name.toList ++ trail)))
      (lead_blank : ∀ c ∈ lead, Text.isBlank c = true)
      (trail_blank : ∀ c ∈ trail, Text.isBlank c = true) (present : Present name) :
      BaseOf m (some name)
  | blank {captured : List Char} (captures : m.text? .base = some captured)
      (blanks : ∀ c ∈ captured, Text.isBlank c = true) : BaseOf m (some "")

namespace BaseOf

variable {m : Match Header.Part}

theorem ofMatch {header : Header} (h : Header.ofMatch m = .ok header) : BaseOf m header.base := by
  obtain ⟨kind, id, -, -, rfl⟩ := ofMatch_eq_ok_iff.1 h
  show BaseOf m ((m.text? .base).map Header.nameOf)
  cases hcaptured : m.text? .base with
  | none => exact .absent hcaptured
  | some captured =>
      rw [Option.map_some, Header.nameOf]
      by_cases hnil : Text.strip captured = []
      · rw [hnil]
        exact .blank hcaptured (Text.strip_eq_nil_iff.1 hnil)
      · obtain ⟨lead, trail, htext, hlead, htrail⟩ := Text.exists_eq_strip captured
        refine .named ?_ hlead htrail (present_strip hnil)
        rw [String.toList_ofList, ← htext]
        exact hcaptured

/-- A base is proper unless the heading gives blanks for it. -/
theorem proper_iff {base : Option String} (h : BaseOf m base) : Proper base ↔
    ∀ captured ∈ m.text? .base, ∃ c ∈ captured, Text.isBlank c = false := by
  cases h with
  | absent hnone =>
      rw [hnone]
      exact iff_of_true proper_none nofun
  | @named lead trail name hsome hlead htrail hpresent =>
      have hproper : Proper (some name) := fun s hs => Option.some.inj hs ▸ hpresent
      obtain ⟨c, rest, hname⟩ := List.exists_cons_of_ne_nil
        (String.toList_eq_nil_iff.not.2 hpresent.ne_empty)
      have hmark : Text.isBlank c = false := hpresent.trimmed.head c (by rw [hname]; rfl)
      rw [hsome]
      refine iff_of_true hproper fun captured hcaptured => ⟨c, ?_, hmark⟩
      obtain rfl := Option.some.inj hcaptured
      simp [hname]
  | @blank captured hsome hblanks =>
      have hempty : ¬Proper (some "") := fun h => (h "" rfl).ne_empty rfl
      rw [hsome]
      refine iff_of_false hempty fun h => ?_
      obtain ⟨c, hc, hmark⟩ := h captured rfl
      rw [hblanks c hc] at hmark
      cases hmark

end BaseOf

/-- Everything that may be absent in an extension that has been read is absent or present, except
for bases: an object has the empty text for its base if its heading gives a name of blanks. -/
theorem optional_texts_of_ofSource {source path : String} {e : Extension}
    (h : Extension.ofSource source path = .ok e) :
    (∀ o ∈ e.objects, (∀ p ∈ o.procedures, Proper p.returnType) ∧
      ∀ f ∈ o.fields, Proper f.calcFormula) ∧
    (∀ d ∈ e.flowfields, Proper d.sourceTable ∧ Proper d.sourceField) ∧
    List.Forall₂ (fun m o => BaseOf m o.base) (headings source.toList) e.objects ∧
    ((∀ o ∈ e.objects, Proper o.base) ↔ ∀ m ∈ headings source.toList,
      ∀ captured ∈ m.text? .base, ∃ c ∈ captured, Text.isBlank c = false) := by
  obtain ⟨objects, hscan, rfl⟩ := Extension.ofSource_eq_ok_iff.1 h
  have hread := forall₂_of_scan hscan
  have hbases : List.Forall₂ (fun m o => BaseOf m o.base) (headings source.toList) objects := by
    refine hread.imp fun m o ⟨header, hheader, hbody⟩ => ?_
    obtain ⟨fields, -, rfl⟩ := Object.ofBody_eq_ok_iff.1 hbody
    exact BaseOf.ofMatch hheader
  refine ⟨fun o ho => ?_, fun d hd => ?_, hbases, fun hall m hm => ?_, fun hall o ho => ?_⟩
  · refine ⟨?_, fun f hf formula hformula =>
      (calcFormula_of_ofSource h ho hf formula hformula).2⟩
    obtain ⟨m, -, header, -, hbody⟩ := exists_left_of_mem hread ho
    obtain ⟨fields, -, rfl⟩ := Object.ofBody_eq_ok_iff.1 hbody
    exact fun p hp => proper_returnType hp
  · obtain ⟨o, -, hd⟩ := List.mem_flatMap.1 hd
    obtain ⟨⟨f, formula⟩, -, rfl⟩ := List.mem_map.1 hd
    exact proper_read formula.toList
  · obtain ⟨o, ho, hbase⟩ := exists_right_of_mem hbases hm
    exact hbase.proper_iff.1 (hall o ho)
  · obtain ⟨m, hm, hbase⟩ := exists_left_of_mem hbases ho
    exact hbase.proper_iff.2 (hall m hm)

/-- A file with blanks in place of a base, of the table of a formula and of a return type. -/
def sparseFile : Extension where
  name := "Sparse"
  path := "Sparse.al"
  objects := [
    { kind := .tableExtension
      id := 1
      name := "Part"
      base := ""
      fields := [⟨2, "Rest", "FlowField", true, "Sum(\x22 \x22.Due)"⟩]
      procedures := [{ name := "Run", returnType := "Date" }, { name := "End" }] }]
  flowfields := [⟨"Rest", "Part", .sum, none, "Due"⟩]
  source := "tableextension 1 Part extends \x22 \x22 \x7b\n" ++
    "field(2; Rest; FlowField) \x7b CalcFormula = Sum(\x22 \x22.Due); \x7d\n" ++
    "procedure Run(): Date;\nprocedure End(): ; \x7d\n"

theorem ofSource_sparseFile :
    Extension.ofSource sparseFile.source sparseFile.path = .ok sparseFile := by
  decide +kernel

theorem optional_texts_of_ofSource_sparse :
    Extension.ofSource sparseFile.source sparseFile.path = .ok sparseFile ∧
      (∀ o ∈ sparseFile.objects, (∀ p ∈ o.procedures, Proper p.returnType) ∧
        ∀ f ∈ o.fields, Proper f.calcFormula) ∧
      (∀ d ∈ sparseFile.flowfields, Proper d.sourceTable ∧ Proper d.sourceField) ∧
      List.Forall₂ (fun m o => BaseOf m o.base) (headings sparseFile.source.toList)
        sparseFile.objects := by
  obtain ⟨hobjects, hflowfields, hbases, -⟩ := optional_texts_of_ofSource ofSource_sparseFile
  exact ⟨ofSource_sparseFile, hobjects, hflowfields, hbases⟩

/-- A base of blanks is there and says nothing, which none of the other texts does. -/
theorem base_sparseFile : Extension.ofSource sparseFile.source sparseFile.path = .ok sparseFile ∧
    ¬∀ o ∈ sparseFile.objects, Proper o.base := by
  refine ⟨ofSource_sparseFile, fun h => ?_⟩
  have hbare : Proper (some "") := h _ (.head _)
  exact (hbare "" rfl).ne_empty rfl

end ExtensionAtlas.Source
