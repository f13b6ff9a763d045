import ExtensionAtlas.Proofs.Source.FlowfieldLines
import ExtensionAtlas.Proofs.Source.RoundTrip

/-! Printed tables of fields with formulas. Each field gets the formula that is found for its name,
which is its own as long as no field in front of it mentions the name. -/

namespace ExtensionAtlas.Source

open Pattern
open Text (Numeral Plain isBlank)

namespace FlowfieldDecl

variable (d : FlowfieldDecl)

def head : FieldHead := ⟨⟨keyword, by decide⟩, d.number, d.name, d.type⟩

theorem core_eq : d.core = d.head.core ++ d.block := by
  simp [core, label, signature, block, FieldHead.core, head]

/-- The one match in the line of a field. -/
theorem finds_print (front rest : List Char) :
    ∃ m, Finds Field.pattern front d.print rest [m] ∧ m.text .number = d.number.digits ∧
      m.text .name = d.name.chars ∧ m.text .type = d.type.chars := by
  obtain ⟨m, hm, hstop, hparts⟩ := d.head.matchAt_core (front ++ indent) (d.block ++ rest)
    (not_isWord_last_indent front)
  have hne : d.head.core ≠ [] := by simp [FieldHead.core]
  refine ⟨m, ?_, hparts⟩
  rw [print, core_eq]
  exact Finds.single_of_quiet startsField_of_describes (quiet_field_of_marks (by decide) _)
    (d.quiet_block _) hne hm hstop

theorem ofMatch_print {body : List Char} {m : Match Field.Part}
    (hnumber : m.text .number = d.number.digits) (hname : m.text .name = d.name.chars)
    (htype : m.text .type = d.type.chars)
    (hformula : Field.formula? body d.name.chars = some d.formula.print) :
    Field.ofMatch body m = .ok d.field := by
  have hflow : Field.isFlowType d.type.chars = true := by
    have hword : "FlowField ".toList.map Char.toLower = "flowfield".toList ++ [' '] := by decide
    have hlowered : Text.lower d.type.chars =
        "flowfield".toList ++ ([' '] ++ d.kind.chars.map Char.toLower) :=
      calc Text.lower d.type.chars
          = ("FlowField ".toList ++ d.kind.chars).map Char.toLower := d.type.lower_chars
        _ = "FlowField ".toList.map Char.toLower ++ d.kind.chars.map Char.toLower :=
            List.map_append
        _ = ("flowfield".toList ++ [' ']) ++ d.kind.chars.map Char.toLower :=
            congrArg (· ++ _) hword
        _ = "flowfield".toList ++ ([' '] ++ d.kind.chars.map Char.toLower) :=
            List.append_assoc ..
    exact (Text.occursIn_iff_infix _ _).2 (hlowered ▸ (List.prefix_append _ _).isInfix)
  rw [Field.ofMatch, hnumber, hname, htype, d.number.readNumeral_digits, d.name.strip_chars,
    d.type.strip_chars, hflow, hformula]
  rfl

theorem mentions_name : d.Mentions d.name := by
  refine (Text.standsIn_iff d.name.ascii d.label_ascii).2 ⟨d.number.digits ++ [';', ' ', '\x22'],
    d.name.chars, ['\x22', ';', ' '] ++ (d.type.chars ++ [')', ' ', '\x7b', ' ']), ?_,
    (Text.agrees_ascii_iff d.name.ascii d.name.ascii).2 rfl⟩
  simp [label, signature, quote]

end FlowfieldDecl

/-- Of the fields that mention the name of a field, the field itself is the first. -/
theorem find?_mentions {fields : List FlowfieldDecl}
    (h : fields.Pairwise fun d e => ¬d.Mentions e.name) {d : FlowfieldDecl} (hd : d ∈ fields) :
    fields.find? (·.Mentions d.name) = some d := by
  obtain ⟨before, behind, rfl⟩ := List.append_of_mem hd
  have hbefore : ∀ e ∈ before, ¬e.Mentions d.name := fun e he =>
    (List.pairwise_append.1 h).2.2 e he d List.mem_cons_self
  refine List.find?_eq_some_iff_append.2 ⟨decide_eq_true d.mentions_name, before, behind, rfl, ?_⟩
  simpa using hbefore

/-- The fields of a printed table are read back, each with its own formula. -/
theorem scan_flowfields {fields : List FlowfieldDecl}
    (h : fields.Pairwise fun d e => ¬d.Mentions e.name) :
    Field.scan ('\n' :: fields.flatMap FlowfieldDecl.print)
      = .ok (fields.map FlowfieldDecl.field) := by
  have hformulas : ∀ d ∈ fields, Field.formula? ('\n' :: fields.flatMap FlowfieldDecl.print)
      d.name.chars = some d.formula.print := by
    intro d hd
    rw [formula?_lines, find?_mentions h hd]
    rfl
  have hall := forall₂_all startsField_of_describes
    (fun (d : FlowfieldDecl) front rest => d.finds_print front rest) fields ['\n'] []
    (quiet_field_of_marks (by decide)) trivial not_startsField_nil
  rw [List.append_nil, List.singleton_append] at hall
  rw [Field.scan, mapM_eq_ok_iff, List.forall₂_map_right_iff]
  refine ((List.forall₂_and_left _ _).2 ⟨hformulas, hall.flip⟩).flip.imp ?_
  rintro m d ⟨hformula, hnumber, hname, htype⟩
  exact d.ofMatch_print hnumber hname htype hformula

/-- A table of fields with formulas. -/
structure FlowTableDecl where
  number : Numeral
  name : Plain
  fields : List FlowfieldDecl

namespace FlowTableDecl

variable (t : FlowTableDecl)

/-- The table without its fields. -/
def shell : ObjectDecl where
  kind := .table
  keyword := ⟨"table".toList, by decide⟩
  number := t.number
  name := t.name
  base := none
  interfaces := none
  fields := []
  procedures := []
  extends_some := by decide
  implements_none := by decide

def print : List Char := t.shell.around (t.fields.flatMap FlowfieldDecl.print)

end FlowTableDecl

/-! The lines of a table have no heading, and their braces come in pairs. -/

namespace FlowfieldDecl

variable (d : FlowfieldDecl)

theorem balanced_print : Balanced d.print := by
  have hblock : d.block = [' '] ++ (('\x7b' :: ((([' '] ++ property ++ [' ']) ++ (['='] ++ ([' '] ++
      (d.formula.print ++ [';', ' '])))) ++ ['\x7d'])) ++ ['\n']) := by
    simp [block]
  have hinside : Balanced (([' '] ++ property ++ [' ']) ++ (['='] ++ ([' '] ++
      (d.formula.print ++ [';', ' '])))) :=
    (Balanced.of_inline (by decide)).append <| (Balanced.of_not_brace rfl rfl).append <|
      (Balanced.of_not_brace rfl rfl).append <|
      (Balanced.of_inline d.formula.inline_print).append <| .of_inline (by decide)
  rw [print, core_eq, hblock]
  exact (Balanced.of_inline inline_indent).append <|
    (Balanced.of_inline d.head.inline_core).append <|
    (Balanced.of_not_brace rfl rfl).append <| hinside.braces.append (.of_not_brace rfl rfl)

theorem finds_heading {isExtension : Bool} (front rest : List Char) :
    Finds (headingPattern isExtension) front d.print rest [] := by
  have hprint : d.print = (indent ++ (d.head.core ++ ([' ', '\x7b', ' '] ++ (property ++
      ([' ', '=', ' '] ++ (d.formula.print ++ [';', ' ', '\x7d'])))))) ++ ['\n'] := by
    simp [print, core_eq, block]
  have hfeed : '\n' ∉ indent ++ (d.head.core ++ ([' ', '\x7b', ' '] ++ (property ++
      ([' ', '=', ' '] ++ (d.formula.print ++ [';', ' ', '\x7d']))))) := by
    have hcore : '\n' ∉ d.head.core := d.head.inline_core.not_mem (by decide)
    have hproperty : '\n' ∉ property := by decide
    have hformula : '\n' ∉ d.formula.print := d.formula.inline_print.not_mem (by decide)
    simp [indent, hcore, hproperty, hformula]
  rw [hprint]
  apply finds_nil_of_not_startsObject hfeed
  rw [FieldHead.core]
  simp only [List.append_assoc, List.cons_append]
  exact not_startsObject_of_word indent (by decide) (by decide) (by decide)
    (keyword_ne_of_mem "field" (by decide)) d.head.keyword (by decide) (by decide) _

end FlowfieldDecl

/-- A field with a formula is a flowfield of its object, and says what it was printed from. -/
theorem derivedFields_eq {o : Object} {fields : List FlowfieldDecl}
    (h : o.fields = fields.map FlowfieldDecl.field) :
    o.derivedFields = fields.map (·.derivedField o.name) := by
  have hflow : o.flowfields = fields.map fun d => (d.field, d.formula.text) := by
    rw [Object.flowfields, h, List.filterMap_map, ← List.filterMap_eq_map]
    refine List.filterMap_congr fun d _ => ?_
    have hne : d.formula.text ≠ "" := by
      rw [← String.ofList_nil, FormulaDecl.text, ne_eq, String.ofList_inj]
      exact d.formula.print_ne_nil
    simp [FlowfieldDecl.field, hne]
  rw [Object.derivedFields, hflow, List.map_map]
  refine List.map_congr_left fun d _ => ?_
  simp only [Function.comp_apply, FormulaDecl.text, String.toList_ofList, d.formula.read_print]
  rfl

namespace FlowTableDecl

variable {t : FlowTableDecl}

theorem exists_scan (h : t.fields.Pairwise fun d e => ¬d.Mentions e.name) :
    ∃ o, Object.scan t.print = .ok [o] ∧ o.name = t.name.text ∧
      o.fields = t.fields.map FlowfieldDecl.field := by
  have hmembers {isExtension : Bool} (front rest : List Char) : Finds (headingPattern isExtension)
      front (t.fields.flatMap FlowfieldDecl.print) rest [] :=
    finds_heading_flatMap (fun d front rest => FlowfieldDecl.finds_heading d front rest) _
  have hstart : AtLineStart [] := by simp [AtLineStart]
  obtain ⟨m, hm, hheader⟩ : ∃ m, Finds (headingPattern false) [] t.print [] [m]
      ∧ Header.ofMatch m = .ok (t.shell.header []) := t.shell.finds_around_own hmembers hstart
  have hnone : Finds (headingPattern true) [] t.print [] [] :=
    t.shell.finds_around_other (Bool.false_ne_true : ObjectKind.table.isExtension ≠ true) hmembers
  have hbase : (headingPattern false).all t.print = [m] := all_eq_of_finds hm matchAt_heading_nil
  have hextending : (headingPattern true).all t.print = [] :=
    all_eq_of_finds hnone matchAt_heading_nil
  have hheaders : Header.scan t.print = .ok [t.shell.header []] := by
    change ((headingPattern false).all t.print ++ (headingPattern true).all t.print).mapM _ = _
    rw [hbase, hextending, List.append_nil, List.mapM_cons, hheader]
    rfl
  have hbody : body t.print (t.shell.header []).bodyStart =
      '\n' :: t.fields.flatMap FlowfieldDecl.print := by
    have h := t.shell.body_around (.flatMap FlowfieldDecl.balanced_print t.fields) [] []
    rwa [List.nil_append, List.append_nil] at h
  obtain ⟨o, hobject, hname, hfields⟩ : ∃ o, Object.ofBody (t.shell.header [])
      ('\n' :: t.fields.flatMap FlowfieldDecl.print) = .ok o ∧ o.name = t.name.text ∧
      o.fields = t.fields.map FlowfieldDecl.field := by
    rw [Object.ofBody, scan_flowfields h]
    exact ⟨_, rfl, rfl, rfl⟩
  refine ⟨o, ?_, hname, hfields⟩
  rw [Object.scan, hheaders]
  simp only [List.mapM_cons, hbody, hobject]
  rfl

/-- A printed table is read back with the flowfields that it was printed from, each with its own
formula, as long as no field mentions the name of a later one. -/
theorem ofSource_print (t : FlowTableDecl) (path : String)
    (h : t.fields.Pairwise fun d e => ¬d.Mentions e.name) :
    ∃ e o, Extension.ofSource (String.ofList t.print) path = .ok e ∧ e.objects = [o] ∧
      o.fields = t.fields.map FlowfieldDecl.field ∧
      e.flowfields = t.fields.map (·.derivedField t.name.text) := by
  obtain ⟨o, hscan, hname, hfields⟩ := exists_scan h
  rw [Extension.ofSource, String.toList_ofList, hscan]
  refine ⟨_, o, rfl, rfl, hfields, ?_⟩
  rw [← hname, ← derivedFields_eq hfields]
  exact List.flatMap_singleton ..

/-- A table in which the name of the second field has that of the first in it. -/
def balances : FlowTableDecl where
  number := ⟨['1', '8'], by decide, by decide, by decide⟩
  name := ⟨"Customer".toList, by decide, by decide, by decide, by decide⟩
  fields := [
    { number := ⟨['1'], by decide, by decide, by decide⟩
      name := ⟨"Balance".toList, by decide, by decide, by decide, by decide⟩
      kind := ⟨"Decimal".toList, by decide, by decide, by decide, by decide⟩
      formula := {
        method := .sum
        word := "SUM".toList
        table := ⟨"Entry".toList, by decide, by decide, by decide, by decide⟩
        field := ⟨"Amount".toList, by decide, by decide, by decide, by decide⟩
        named := by decide
        spells := by decide } },
    { number := ⟨['2'], by decide, by decide, by decide⟩
      name := ⟨"Balance Due".toList, by decide, by decide, by decide, by decide⟩
      kind := ⟨"Decimal".toList, by decide, by decide, by decide, by decide⟩
      formula := {
        method := .max
        word := "Max".toList
        table := ⟨"Due Entry".toList, by decide, by decide, by decide, by decide⟩
        field := ⟨"Rest".toList, by decide, by decide, by decide, by decide⟩
        named := by decide
        spells := by decide } }]

/-- Neither field is harmed by the name of the other in this order. -/
theorem ofSource_print_balances :
    (balances.fields.Pairwise fun d e => ¬d.Mentions e.name) ∧
      ∃ e o, Extension.ofSource (String.ofList balances.print) "Customer.al" = .ok e ∧
        e.objects = [o] ∧
        o.fields.map (·.calcFormula) =
          [some "SUM(\x22Entry\x22.\x22Amount\x22)", some "Max(\x22Due Entry\x22.\x22Rest\x22)"] ∧
        e.flowfields = [
          ⟨"Balance", "Customer", .sum, some "Entry", some "Amount"⟩,
          ⟨"Balance Due", "Customer", .max, some "Due Entry", some "Rest"⟩] := by
  have hmentions : balances.fields.Pairwise fun d e => ¬d.Mentions e.name := by decide +kernel
  obtain ⟨e, o, hsource, hobjects, hfields, hflowfields⟩ :=
    ofSource_print balances "Customer.al" hmentions
  refine ⟨hmentions, e, o, hsource, hobjects, ?_, ?_⟩
  · rw [hfields]
    decide +kernel
  · rw [hflowfields]
    decide +kernel

end FlowTableDecl

end ExtensionAtlas.Source
