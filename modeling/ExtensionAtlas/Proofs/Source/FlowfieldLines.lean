import ExtensionAtlas.Proofs.Source.FormulaMethods
import ExtensionAtlas.Proofs.Source.FormulaReferences
import ExtensionAtlas.Proofs.Source.PrintedLines

/-! Printed fields with a formula. A formula is looked for by the name of its field, so what is
found is the formula of the first line that mentions the name before it assigns anything. Behind
the parenthesis of a line there is one equals sign in front of the closing brace, which tells what
the line mentions and what it assigns. -/

namespace ExtensionAtlas.Source

open Pattern
open Text (Numeral Plain isBlank)

/-- A formula: a method in any mixture of small and capital letters, and the field of a table that
it is applied to. -/
structure FormulaDecl where
  method : CalcMethod
  word : List Char
  table : Plain
  field : Plain
  named : method ∈ CalcMethod.named
  spells : word.map Char.toLower = method.label.toList.map Char.toLower

namespace FormulaDecl

def print (d : FormulaDecl) : List Char :=
  d.word ++ '(' :: (quote d.table ++ '.' :: (quote d.field ++ [')']))

def text (d : FormulaDecl) : String := String.ofList d.print

end FormulaDecl

/-- A field with a formula, and what kind of value it is. -/
structure FlowfieldDecl where
  number : Numeral
  name : Plain
  kind : Plain
  formula : FormulaDecl

namespace FlowfieldDecl

/-- The word in front of the parenthesis. -/
def keyword : List Char := "field".toList

/-- The word in front of the equals sign. -/
def property : List Char := "CalcFormula".toList

def type (d : FlowfieldDecl) : Plain where
  chars := "FlowField ".toList ++ d.kind.chars
  ne_nil := by simp
  parts c hc := (List.mem_append.1 hc).elim
    ((by decide : ∀ c ∈ "FlowField ".toList, Text.isPlainPart c = true) c) (d.kind.parts c)
  head := by
    rintro c ⟨⟩
    decide
  last c hc := d.kind.last c (by rwa [List.getLast?_append_of_ne_nil _ d.kind.ne_nil] at hc)

/-- A field behind its opening parenthesis, up to the block with its formula. -/
def signature (d : FlowfieldDecl) : List Char :=
  d.number.digits ++ ';' :: ' ' :: (quote d.name ++ ';' :: ' ' :: (d.type.chars ++ [')', ' ']))

/-- A field between its opening parenthesis and its formula. -/
def label (d : FlowfieldDecl) : List Char := d.signature ++ ['\x7b', ' ']

/-- A field from its keyword on. -/
def core (d : FlowfieldDecl) : List Char :=
  keyword ++ '(' :: (d.label ++ (property ++ ' ' :: '=' :: ' ' ::
    (d.formula.print ++ [';', ' ', '\x7d', '\n'])))

def print (d : FlowfieldDecl) : List Char := indent ++ d.core

def field (d : FlowfieldDecl) : Field where
  id := d.number.value
  name := d.name.text
  type := d.type.text
  isFlowfield := true
  calcFormula := some d.formula.text

/-- What the field says in a table. -/
def derivedField (d : FlowfieldDecl) (table : String) : DerivedField where
  name := d.name.text
  tableName := table
  method := d.formula.method
  sourceTable := some d.formula.table.text
  sourceField := some d.formula.field.text

/-- Whether the declaration of a field has a name somewhere in it, letter case aside. -/
def Mentions (d : FlowfieldDecl) (name : Plain) : Prop := Text.StandsIn name.chars d.label

instance (d : FlowfieldDecl) (name : Plain) : Decidable (d.Mentions name) :=
  inferInstanceAs (Decidable (Text.StandsIn name.chars d.label))

end FlowfieldDecl

/-! Formulas are read back. -/

namespace FormulaDecl

variable (d : FormulaDecl)

theorem spells_word : Spells d.method d.word := ⟨d.named, d.spells⟩

theorem word_letters {c : Char} (hc : c ∈ d.word) :
    c.isAlpha = true ∧ Text.agreesUpToCase 'f' c = false := by
  have hlabels : ∀ method ∈ CalcMethod.named, 'f' ∉ method.label.toList.map Char.toLower := by
    decide
  have halpha := d.spells_word.isAlpha c hc
  refine ⟨halpha, Bool.eq_false_iff.2 fun hagrees => hlabels d.method d.named ?_⟩
  rw [← (Text.agreesUpToCase_iff (by decide) (Text.isAlpha_ascii halpha)).1 hagrees, ← d.spells]
  exact List.mem_map_of_mem hc

theorem word_ne_nil : d.word ≠ [] := d.spells_word.ne_nil

theorem method_print : Formula.method d.print = d.method := by
  refine method_eq_of_spells ⟨_, ⟨[], rfl, by simp⟩, fun c hc => (d.word_letters hc).1, ?_⟩
    d.spells_word
  rintro c ⟨⟩
  decide

/-- A name in quotes in a reference. -/
theorem writes_quote (p : Plain) : formulaNames.Writes (quote p) p.chars :=
  .quoted (p.not_mem (by decide)) (p.not_mem (by decide)) (.inl rfl)

theorem trimmed?_plain (p : Plain) : trimmed? p.chars = some p.chars := by
  rw [trimmed?, p.strip_chars, if_neg p.ne_nil]

theorem refersTo_print : RefersTo ('(' :: (quote d.table ++ '.' :: (quote d.field ++ [')'])))
    d.table.chars d.field.chars :=
  @RefersTo.intro _ _ [] _ [] [] _ _ (by simp) (writes_quote d.table) (by simp) (by simp)
    (writes_quote d.field) (NameForm.ends_quoted _ _)

/-- A formula says what it was printed from. -/
theorem read_print : Formula.read d.print =
    ⟨d.method, some d.table.text, some d.field.text⟩ := by
  have hword : '(' ∉ d.word := fun hmem => absurd (d.word_letters hmem).1 (by decide)
  have hread := read_of_isSource (.of_refersTo hword d.refersTo_print)
  rw [trimmed?_plain, trimmed?_plain, ← print, readingOf, d.method_print] at hread
  exact hread

theorem print_ne_nil : d.print ≠ [] := by simp [print]

theorem trimmed_print : Text.Trimmed d.print where
  head c hc := by
    rw [print, List.head?_append_of_ne_nil _ d.word_ne_nil] at hc
    exact Text.isBlank_of_isAlpha (d.word_letters (List.mem_of_mem_head? hc)).1
  last c hc := by
    have hprint : d.print = d.word ++ '(' :: (quote d.table ++ '.' :: quote d.field) ++ [')'] := by
      simp [print]
    rw [hprint, List.getLast?_concat, Option.mem_some_iff] at hc
    exact hc ▸ (by decide)

theorem inline_print : Inline d.print := by
  have hword : Inline d.word := fun c hc => by
    rw [isInline, Text.isPlainPart, Char.isAlphanum, (d.word_letters hc).1]
    rfl
  exact hword.append <| .cons (by decide) <| (inline_quote d.table).append <| .cons (by decide) <|
    (inline_quote d.field).append <| .cons (by decide) .nil

theorem semicolon_notMem_print : ';' ∉ d.print := by
  have hword : ';' ∉ d.word := fun hmem => absurd (d.word_letters hmem).1 (by decide)
  have htable : ';' ∉ d.table.chars := d.table.not_mem (by decide)
  have hfield : ';' ∉ d.field.chars := d.field.not_mem (by decide)
  simp [print, quote, hword, htable, hfield]

end FormulaDecl

/-! What a declaration mentions and assigns. -/

namespace FlowfieldDecl

variable (d : FlowfieldDecl)

theorem inline_signature : Inline d.signature :=
  (inline_numeral d.number).append <| .cons (by decide) <| .cons (by decide) <|
    (inline_quote d.name).append <| .cons (by decide) <| .cons (by decide) <|
    (inline_plain d.type).append <| .cons (by decide) <| .cons (by decide) .nil

theorem label_ascii : ∀ c ∈ d.label, c.toNat < 128 := by
  intro c hc
  rcases List.mem_append.1 hc with hc | hc
  · exact isInline_ascii (d.inline_signature c hc)
  · exact (by decide : ∀ c ∈ ['\x7b', ' '], c.toNat < 128) c hc

theorem not_mem_label {mark : Char} (hinline : isInline mark = false) (hmark : mark ≠ '\x7b') :
    mark ∉ d.label := by
  have hsignature : mark ∉ d.signature := d.inline_signature.not_mem hinline
  have hspace : mark ≠ ' ' := by
    rintro rfl
    cases hinline
  simp [label, hsignature, hmark, hspace]

/-- In front of the closing brace of a field there is one equals sign. -/
theorem cut_at_equals {front back behind : List Char} (hfront : '\x7d' ∉ front)
    (heq : front ++ '=' :: back = d.label ++ (property ++ ' ' :: '=' :: ' ' ::
      (d.formula.print ++ ';' :: ' ' :: '\x7d' :: '\n' :: behind))) :
    front = d.label ++ (property ++ [' ']) ∧
      back = ' ' :: (d.formula.print ++ ';' :: ' ' :: '\x7d' :: '\n' :: behind) := by
  have hlabel : '=' ∉ d.label ++ (property ++ [' ']) := by
    have hproperty : '=' ∉ property := by decide
    simp [d.not_mem_label (by decide : isInline '=' = false), hproperty]
  have hformula : '=' ∉ ' ' :: (d.formula.print ++ [';', ' ']) := by
    simp [d.formula.inline_print.not_mem (by decide : isInline '=' = false)]
  have hbrace : '\x7d' ∉ front ++ ['='] := by simp [hfront]
  have hsplit : (front ++ ['=']) ++ back = ((d.label ++ (property ++ [' '])) ++
      '=' :: ' ' :: (d.formula.print ++ [';', ' '])) ++ '\x7d' :: '\n' :: behind := by
    rw [List.append_assoc, List.singleton_append, heq]
    simp only [List.append_assoc, List.cons_append, List.nil_append]
  obtain ⟨found, hwhole, hback⟩ := Text.exists_of_append_eq_append_cons hbrace hsplit
  rw [List.append_assoc front, List.singleton_append] at hwhole
  obtain ⟨rfl, -, rfl⟩ := (List.append_cons_inj_of_notMem hlabel hformula).1 hwhole
  refine ⟨rfl, hback.trans ?_⟩
  simp only [List.append_assoc, List.cons_append, List.nil_append]

/-- The word in front of the equals sign is known, so a name that is mentioned in front of it is
mentioned in the declaration. -/
theorem mentions_of_eq {name : Plain} {lead mentioned middle assigned gap : List Char}
    (hmentioned : Text.Agrees name.chars mentioned)
    (hassigned : Text.Agrees property assigned) (hgap : ∀ c ∈ gap, isBlank c = true)
    (heq : lead ++ (mentioned ++ (middle ++ (assigned ++ gap))) =
      d.label ++ (property ++ [' '])) : d.Mentions name := by
  have hlowered : assigned.map Char.toLower = "calcformula".toList := by
    refine (Text.agrees_ascii_iff (by decide) fun c hc => ?_).1 hassigned
    have hmem : c ∈ d.label ++ (property ++ [' ']) := by
      rw [← heq]
      simp only [List.mem_append, hc, true_or, or_true]
    rcases List.mem_append.1 hmem with hmem | hmem
    · exact d.label_ascii c hmem
    · exact (by decide : ∀ c ∈ property ++ [' '], c.toNat < 128) c hmem
  have hletters : ∀ c ∈ assigned, isBlank c = false := fun c hc =>
    Text.isBlank_of_isAlpha (Text.isAlpha_of_toLower rfl
      ((by decide : Text.Small "calcformula".toList) _ (hlowered ▸ List.mem_map_of_mem hc)))
  have hne : assigned ≠ [] := by
    rintro rfl
    cases hlowered
  have hword : lead ++ (mentioned ++ middle) ++ assigned = d.label ++ property := by
    have hgaps : lead ++ (mentioned ++ middle) ++ assigned ++ gap =
        d.label ++ property ++ [' '] := by
      simpa only [List.append_assoc] using heq
    exact Text.append_blanks_inj (Text.last_append_of_forall _ hne hletters)
      (Text.last_append_of_forall _ (by decide) (by decide)) hgap (by decide) hgaps
  have hlength : assigned.length = property.length := hassigned.length_eq.symm
  exact (Text.standsIn_iff name.ascii d.label_ascii).2
    ⟨lead, mentioned, middle, (List.append_inj_left' hword hlength).symm, hmentioned⟩

/-- What is behind the parenthesis of a field. -/
theorem leads_core (behind : List Char) : Leads "field" '(' (d.core ++ behind)
    (d.label ++ (property ++ ' ' :: '=' :: ' ' ::
      (d.formula.print ++ ';' :: ' ' :: '\x7d' :: '\n' :: behind))) :=
  ⟨keyword, [], by simp [core], (Text.agrees_ascii_iff (by decide) (by decide)).2 rfl, by simp⟩

/-- A match in the line of a field has found the formula of the field, for a name that its
declaration mentions. -/
theorem of_matchAt {name : Plain} {front behind : List Char} {m : Match Field.Part}
    (h : (Field.formulaPattern name.chars).matchAt (.between front (d.core ++ behind)) = some m) :
    d.Mentions name ∧ Text.strip (m.text .formula) = d.formula.print := by
  obtain ⟨_, before, formula, hdeclares, ⟨rest, rfl, hmentioned, hassigns⟩, hstrip, -⟩ :=
    exists_of_matchAt h
  obtain ⟨rest, assigned, gap, rfl, hassigned, hgap⟩ := hassigns.leads
  have hbehind := hdeclares.leads.unique (by decide) (by decide) (by decide) (by decide)
    (d.leads_core behind)
  have hbrace : '\x7d' ∉ before ++ (assigned ++ gap) := by
    have hbefore : '\x7d' ∉ before := hmentioned.brace_mem_iff.not.2 (name.not_mem (by decide))
    have hassigned : '\x7d' ∉ assigned :=
      (Text.mem_iff_of_agrees (by decide) (by decide) hassigned).not.2 (by decide)
    have hgap : '\x7d' ∉ gap := Text.not_mem_of_forall hgap (by decide)
    simp [hbefore, hassigned, hgap]
  obtain ⟨hfront, hfound⟩ := d.cut_at_equals hbrace (by simpa using hbehind)
  obtain ⟨lead, mentioned, middle, rfl, -, hagrees, -⟩ := hmentioned
  refine ⟨d.mentions_of_eq hagrees hassigned hgap (by simpa using hfront), ?_⟩
  have hends : ';' ∉ ' ' :: d.formula.print := by simp [d.formula.semicolon_notMem_print]
  obtain ⟨hprint, -⟩ := Text.append_mark_inj hassigns.ends hends hfound
  rw [hstrip, hprint, Text.strip_cons_of_isBlank (by decide),
    Text.strip_of_trimmed d.formula.trimmed_print]

/-- In the line of a field a formula is found for the names that its declaration mentions. -/
theorem exists_matchAt_core {name : Plain} (h : d.Mentions name) (front : List Char)
    (hfront : ∀ y ∈ front.getLast?, Text.isWord y = false) (behind : List Char) :
    ∃ m, (Field.formulaPattern name.chars).matchAt (.between front (d.core ++ behind)) =
      some m := by
  obtain ⟨lead, mentioned, middle, hlabel, hagrees⟩ :=
    (Text.standsIn_iff name.ascii d.label_ascii).1 h
  have hbrace : '\x7d' ∉ d.label := d.not_mem_label (by decide) (by decide)
  have hmentioned : MentionedIn name.chars d.label :=
    ⟨lead, mentioned, middle, hlabel, by simp_all, hagrees, by simp_all⟩
  have hassigns : Assigns (property ++ ' ' :: '=' :: ' ' :: (d.formula.print ++ ';' :: ' ' ::
      '\x7d' :: '\n' :: behind)) (' ' :: d.formula.print) :=
    ⟨⟨_, property, [' '], rfl, (Text.agrees_ascii_iff (by decide) (by decide)).2 rfl, by decide⟩,
      List.cons_ne_nil _ _, by simp [d.formula.semicolon_notMem_print]⟩
  refine Option.ne_none_iff_exists'.1 fun hnone => ?_
  exact matchAt_eq_none_iff.1 hnone (offers_formulaPattern_iff.2
    ⟨_, d.label, _, ⟨hfront, d.leads_core behind⟩, _, rfl, hmentioned, hassigns⟩)

/-! Behind the first letter of a field no other one starts. -/

/-- The block with the formula of a field. -/
def block (d : FlowfieldDecl) : List Char :=
  ' ' :: '\x7b' :: ' ' :: (property ++ ' ' :: '=' :: ' ' :: (d.formula.print ++
    [';', ' ', '\x7d', '\n']))

theorem quiet_block (rest : List Char) : Quiet StartsField d.block rest := by
  have hblock : d.block = [' ', '\x7b', ' '] ++ (((property ++ [' ']) ++ ['=']) ++ ([' '] ++
      (d.formula.word ++ (['(', '\x22'] ++ ((d.formula.table.chars ++ ['\x22']) ++ (['.', '\x22'] ++
      ((d.formula.field.chars ++ ['\x22']) ++ [')', ';', ' ', '\x7d', '\n']))))))) := by
    simp [block, FormulaDecl.print, quote]
  rw [hblock]
  exact .append (quiet_field_of_marks (by decide) _) <|
    .append (quiet_field_of_guard (by decide) (by decide) (by decide) (by decide) (by decide) _) <|
    .append (quiet_field_of_marks (by decide) _) <|
    .append (.of_forall fun c hc => not_startsField_of_letter (d.formula.word_letters hc).2) <|
    .append (quiet_field_of_marks (by decide) _) <|
    .append (quiet_field_of_guard (by decide) (by decide) (by decide) (by decide)
      (d.formula.table.not_mem (by decide)) _) <|
    .append (quiet_field_of_marks (by decide) _) <|
    .append (quiet_field_of_guard (by decide) (by decide) (by decide) (by decide)
      (d.formula.field.not_mem (by decide)) _) <|
    quiet_field_of_marks (by decide) _

theorem exists_quiet_core : ∃ text, d.core = 'f' :: text ∧ ∀ rest, Quiet StartsField text rest := by
  refine ⟨['i', 'e', 'l', 'd', '('] ++ ((d.number.digits ++ [';']) ++ ([' ', '\x22'] ++
    ((d.name.chars ++ ['\x22']) ++ ([';', ' '] ++ ((d.type.chars ++ [')']) ++ d.block))))), ?_, ?_⟩
  · have hkeyword : keyword = ['f', 'i', 'e', 'l', 'd'] := by decide
    simp [core, label, signature, block, quote, hkeyword]
  · intro rest
    exact .append (.of_forall fun c hc => not_startsField_of_letter
        ((by decide : ∀ c ∈ ['i', 'e', 'l', 'd', '('], Text.agreesUpToCase 'f' c = false) c hc)) <|
      .append (quiet_field_of_guard (by decide) (by decide) (by decide) (by decide)
        (d.number.not_mem (by decide)) _) <|
      .append (quiet_field_of_marks (by decide) _) <|
      .append (quiet_field_of_guard (by decide) (by decide) (by decide) (by decide)
        (d.name.not_mem (by decide)) _) <|
      .append (quiet_field_of_marks (by decide) _) <|
      .append (quiet_field_of_guard (by decide) (by decide) (by decide) (by decide)
        (d.type.not_mem (by decide)) _) <|
      d.quiet_block _

/-- No formula is found for a name in the line of a field that does not mention it. -/
theorem finds_nil_of_not_mentions {name : Plain} (h : ¬d.Mentions name) (front rest : List Char) :
    Finds (Field.formulaPattern name.chars) front d.print rest [] := by
  have hindent : Finds (Field.formulaPattern name.chars) front indent (d.core ++ rest) [] :=
    finds_nil_of_quiet startsField_of_opening (quiet_field_of_marks (by decide) _)
  obtain ⟨text, hcore, hquiet⟩ := d.exists_quiet_core
  have hnone : (Field.formulaPattern name.chars).matchAt
      (.between (front ++ indent) (d.core ++ rest)) = none := by
    refine Option.eq_none_iff_forall_ne_some.2 fun m hm => ?_
    exact h (d.of_matchAt hm).1
  refine hindent.append ?_
  rw [hcore] at hnone ⊢
  exact .cons hnone (finds_nil_of_quiet startsField_of_opening (hquiet _))

theorem finds_nil_flatMap {name : Plain} {fields : List FlowfieldDecl}
    (h : ∀ d ∈ fields, ¬d.Mentions name) (front rest : List Char) :
    Finds (Field.formulaPattern name.chars) front (fields.flatMap print) rest [] := by
  induction fields generalizing front with
  | nil => exact .nil
  | cons d fields ih =>
      obtain ⟨hd, hfields⟩ := List.forall_mem_cons.1 h
      exact (d.finds_nil_of_not_mentions hd _ _).append (ih hfields _)

end FlowfieldDecl

/-- The formula that is found for a name is that of the first field that mentions it. -/
theorem formula?_lines (name : Plain) (fields : List FlowfieldDecl) :
    Field.formula? ('\n' :: fields.flatMap FlowfieldDecl.print) name.chars =
      (fields.find? (·.Mentions name)).map (·.formula.print) := by
  have hfeed (rest : List Char) : Finds (Field.formulaPattern name.chars) [] ['\n'] rest [] :=
    finds_nil_of_quiet startsField_of_opening (quiet_field_of_marks (by decide) _)
  cases hfind : fields.find? (·.Mentions name) with
  | none =>
      have hno : ∀ d ∈ fields, ¬d.Mentions name := by simpa using hfind
      have hall : (Field.formulaPattern name.chars).all ('\n' :: fields.flatMap FlowfieldDecl.print)
          = [] := by
        refine all_eq_of_finds ((hfeed _).append (FlowfieldDecl.finds_nil_flatMap hno _ _)) ?_
        exact matchAt_eq_none fun _ _ htext hd =>
          not_startsField_nil (htext ▸ startsField_of_opening hd)
      rw [formula?_eq_bind, first?_eq_head?_all, hall]
      rfl
  | some d =>
      obtain ⟨hmentions, before, behind, rfl, hbefore⟩ := List.find?_eq_some_iff_append.1 hfind
      have hno : ∀ e ∈ before, ¬e.Mentions name := by simpa using hbefore
      have hindent (front rest : List Char) :
          Finds (Field.formulaPattern name.chars) front indent rest [] :=
        finds_nil_of_quiet startsField_of_opening (quiet_field_of_marks (by decide) _)
      obtain ⟨m, hm⟩ := d.exists_matchAt_core (of_decide_eq_true hmentions)
        (['\n'] ++ before.flatMap FlowfieldDecl.print ++ indent) (not_isWord_last_indent _)
        (behind.flatMap FlowfieldDecl.print)
      have hfirst := first?_of_finds (((hfeed _).append
        (FlowfieldDecl.finds_nil_flatMap hno _ _)).append (hindent _ _)) hm
      obtain ⟨-, hstrip⟩ := d.of_matchAt hm
      have hbody : '\n' :: (before ++ d :: behind).flatMap FlowfieldDecl.print =
          ['\n'] ++ before.flatMap FlowfieldDecl.print ++ indent ++
            (d.core ++ behind.flatMap FlowfieldDecl.print) := by
        simp [FlowfieldDecl.print]
      rw [formula?_eq_bind, hbody, hfirst, Option.bind_some, trimmed?, hstrip,
        if_neg d.formula.print_ne_nil]
      rfl

end ExtensionAtlas.Source
