import ExtensionAtlas.Proofs.Source.Legible

/-! Headings of both sorts that end at one brace. From the brace backwards, a heading without
interfaces is known from the text: a name, `extends` if there is one, a number, and the keyword,
which is of one sort. So the heading of an object that stands on its own shares its brace with that
of an extending object only if it lists interfaces, and these run up to the brace. -/

namespace ExtensionAtlas.Source

open Header (Part)
open Pattern
open Text (isBlank)

/-! Rows without blanks. -/

theorem solid_of_agrees {word text : List Char} (hword : Text.Small word) (hk : 'k' ∉ word)
    (h : Text.Agrees word text) : Solid text := by
  have hodd : ∀ c ∈ Text.oddLetters, isBlank c = false := by decide
  intro c hc
  exact (Text.isAlpha_or_odd_of_agrees hword hk h c hc).elim Text.isBlank_of_isAlpha (hodd c)

theorem solid_of_agrees_extends {text : List Char} (h : Text.Agrees "extends".toList text) :
    Solid text :=
  solid_of_agrees (by decide) (by decide) h

/-- What is read as `extends` has no digits. -/
theorem isDigit_of_agrees_extends {text : List Char} (h : Text.Agrees "extends".toList text) :
    ∀ c ∈ text, Text.isDigit c = false := by
  have hletter (c : Char) (h : c.isAlpha = true) : Text.isDigit c = false :=
    Text.of_ascii (P := fun c => c.isAlpha = true → Text.isDigit c = false) (by decide +kernel)
      (Text.isAlpha_ascii h) h
  have hodd : ∀ c ∈ Text.oddLetters, Text.isDigit c = false := by decide +kernel
  intro c hc
  exact (Text.isAlpha_or_odd_of_agrees (by decide) (by decide) h c hc).elim (hletter c) (hodd c)

/-! Reading backwards. -/

/-- Whether a text is empty or ends with a blank. -/
def EndsBlank (text : List Char) : Prop := ∀ c ∈ text.getLast?, isBlank c = true

/-- A row without blanks at the end of a text is known from the text if a blank is in front. -/
theorem solid_inj {text text' token token' : List Char} (htext : EndsBlank text)
    (htext' : EndsBlank text') (htoken : Solid token) (htoken' : Solid token')
    (heq : text ++ token = text' ++ token') : text = text' ∧ token = token' := by
  have hmiddle {text token middle token' : List Char} (hends : EndsBlank (text ++ middle))
      (htoken : Solid token) (heq : token = middle ++ token') : middle = [] := by
    by_contra hne
    have hlast := List.getLast_mem hne
    have hblank : isBlank (middle.getLast hne) = true := by
      apply hends
      rw [List.getLast?_append_of_ne_nil _ hne]
      exact List.getLast?_eq_some_getLast hne
    rw [htoken _ (heq ▸ List.mem_append_left _ hlast)] at hblank
    cases hblank
  rcases List.append_eq_append_iff.1 heq with ⟨middle, rfl, hrest⟩ | ⟨middle, rfl, hrest⟩
  · obtain rfl := hmiddle htext' htoken hrest
    exact ⟨(List.append_nil _).symm, hrest⟩
  · obtain rfl := hmiddle htext htoken' hrest
    exact ⟨List.append_nil _, hrest.symm⟩

/-- The last row without blanks is known from a text that goes on with blanks. -/
theorem solid_gap_inj {text text' token token' gap gap' : List Char} (htext : EndsBlank text)
    (htext' : EndsBlank text') (hne : token ≠ []) (hne' : token' ≠ []) (htoken : Solid token)
    (htoken' : Solid token') (hgap : ∀ c ∈ gap, isBlank c = true)
    (hgap' : ∀ c ∈ gap', isBlank c = true)
    (heq : text ++ (token ++ gap) = text' ++ (token' ++ gap')) : text = text' ∧ token = token' := by
  rw [← List.append_assoc, ← List.append_assoc] at heq
  exact solid_inj htext htext' htoken htoken' (Text.append_blanks_inj
    (Text.last_append_of_forall text hne htoken) (Text.last_append_of_forall text' hne' htoken')
    hgap hgap' heq)

theorem IsName.last_not_blank {name : List Char} (h : IsName name) (text : List Char) :
    ∀ c ∈ (text ++ name).getLast?, isBlank c = false := by
  rcases h with ⟨quoted, rfl, -⟩ | ⟨hne, hparts⟩
  · intro c hc
    rw [← List.cons_append, ← List.append_assoc, List.getLast?_concat, Option.mem_some_iff] at hc
    subst hc
    decide
  · exact Text.last_append_of_forall text hne (solid_of_isNamePart hparts)

/-- A name at the end of a text is known from the text if a blank is in front. -/
theorem IsName.inj {text text' name name' : List Char} (h : IsName name) (h' : IsName name')
    (htext : EndsBlank text) (htext' : EndsBlank text') (heq : text ++ name = text' ++ name') :
    text = text' := by
  have hmixed {text text' quoted name : List Char} (hname : name ≠ [])
      (hparts : ∀ c ∈ name, Text.isNamePart c = true)
      (heq : text ++ '\x22' :: (quoted ++ ['\x22']) = text' ++ name) : False := by
    have hlast := congrArg List.getLast? heq
    rw [← List.cons_append, ← List.append_assoc, List.getLast?_concat,
      List.getLast?_append_of_ne_nil _ hname] at hlast
    have hpart := hparts _ (List.mem_of_mem_getLast? hlast.symm)
    exact absurd hpart (by decide)
  rcases h with ⟨quoted, rfl, hquoted⟩ | ⟨hne, hparts⟩
  · rcases h' with ⟨quoted', rfl, hquoted'⟩ | ⟨hne', hparts'⟩
    · rw [← List.cons_append, ← List.cons_append, ← List.append_assoc, ← List.append_assoc] at heq
      exact (Text.append_mark_inj_right (Text.not_mem_of_forall hquoted (by decide))
        (Text.not_mem_of_forall hquoted' (by decide)) (List.append_cancel_right heq)).1
    · exact (hmixed hne' hparts' heq).elim
  · rcases h' with ⟨quoted', rfl, -⟩ | ⟨-, hparts'⟩
    · exact (hmixed hne hparts heq.symm).elim
    · exact (solid_inj htext htext' (solid_of_isNamePart hparts) (solid_of_isNamePart hparts')
        heq).1

/-! The parts of a heading. -/

/-- At least one blank, and nothing else. -/
def Gap (text : List Char) : Prop := text ≠ [] ∧ ∀ c ∈ text, isBlank c = true

theorem Gap.endsBlank {gap : List Char} (h : Gap gap) (text : List Char) :
    EndsBlank (text ++ gap) :=
  Text.last_append_of_forall text h.1 h.2

/-- The start of a heading of some kinds, up to and including the name. -/
def IsOpening (kinds : List ObjectKind) (text : List Char) : Prop :=
  ∃ lead word space number gap name,
    text = lead ++ (word ++ (space ++ (number ++ (gap ++ name)))) ∧
    (∀ c ∈ lead, isBlank c = true) ∧ (∃ kind ∈ kinds, Text.Agrees kind.keyword.toList word) ∧
    Gap space ∧ (number ≠ [] ∧ ∀ c ∈ number, Text.isDigit c = true) ∧ Gap gap ∧ IsName name

/-- What names the object that is extended. -/
def NamesBase (text : List Char) : Prop :=
  ∃ gap word gap' name, text = gap ++ (word ++ (gap' ++ name)) ∧ Gap gap ∧
    Text.Agrees "extends".toList word ∧ Gap gap' ∧ IsName name

/-- A list of interfaces, which may be anything up to a brace. -/
def NamesInterfaces (text : List Char) : Prop :=
  ∃ gap word clause, text = gap ++ (word ++ clause) ∧ Text.Agrees "implements".toList word ∧
    '\x7b' ∉ clause

theorem isOpening_of_describes {kinds : List ObjectKind} {front stretch rest : List Char}
    (h : (inOrder (Header.opening kinds)).Describes front stretch rest) :
    AtLineStart front ∧ IsOpening kinds stretch := by
  have hwhole : (inOrder (Header.opening kinds ++ [])).Describes front stretch rest := by
    rwa [List.append_nil]
  refine ⟨(startsObject_of_describes hwhole).1, ?_⟩
  rw [Header.opening] at h
  obtain ⟨_, _, rfl, ⟨rfl, -⟩, lead, _, rfl, hlead, word, _, rfl, hword, h⟩ := h
  obtain ⟨space, _, rfl, hspace, number, _, rfl, hnumber, gap, _, rfl, hgap, name, _, rfl, hname,
    rfl⟩ := h
  obtain ⟨p, hp, hword⟩ := describes_oneOf.1 hword
  obtain ⟨kind, hkind, rfl⟩ := List.mem_map.1 hp
  obtain ⟨hne, hspace⟩ := describes_someMost.1 hspace
  have hblank : ∀ c ∈ space, isBlank c = true := by
    intro c hc
    have hc := hspace c hc
    rw [Bool.or_eq_true, beq_iff_eq, beq_iff_eq] at hc
    rcases hc with rfl | rfl <;> decide
  exact ⟨lead, word, space, number, gap, name, by simp, hlead,
    ⟨kind, hkind, describes_letters.1 hword⟩, ⟨hne, hblank⟩, describes_someMost.1 hnumber,
    describes_someMost.1 hgap, isName_of_describes hname⟩

theorem namesBase_of_describes {front stretch rest : List Char}
    (h : Header.extending.Describes front stretch rest) : NamesBase stretch := by
  obtain ⟨gap, _, rfl, hgap, word, _, rfl, hword, gap', _, rfl, hgap', name, _, rfl, hname,
    rfl⟩ := h
  exact ⟨gap, word, gap', name, by simp, describes_someMost.1 hgap, describes_letters.1 hword,
    describes_someMost.1 hgap', isName_of_describes hname⟩

theorem namesInterfaces_of_describes {front stretch rest : List Char}
    (h : Header.implementing.Describes front stretch rest) : NamesInterfaces stretch := by
  obtain ⟨gap, _, rfl, -, word, _, rfl, hword, gap', _, rfl, hgap', clause, _, rfl, hclause,
    rfl⟩ := h
  have hgap' : '\x7b' ∉ gap' := Text.not_mem_of_forall (describes_someMost.1 hgap').2 (by decide)
  have hclause : '\x7b' ∉ clause := Text.not_mem_of_forall hclause (by decide)
  exact ⟨gap, word, gap' ++ clause, by simp, describes_letters.1 hword, by simp [hgap', hclause]⟩

/-- A heading ends with a brace. -/
theorem parts_of_describes_base {front stretch rest : List Char}
    (h : Header.basePattern.Describes front stretch rest) :
    AtLineStart front ∧ ∃ opening base interfaces gap,
      stretch = opening ++ (base ++ (interfaces ++ (gap ++ ['\x7b']))) ∧
      IsOpening ObjectKind.base opening ∧ (NamesBase base ∨ base = []) ∧
      (NamesInterfaces interfaces ∨ interfaces = []) ∧ ∀ c ∈ gap, isBlank c = true := by
  rw [Header.basePattern, List.append_assoc] at h
  obtain ⟨opening, _, rfl, hopening, h⟩ := describes_inOrder_append.1 h
  obtain ⟨base, _, rfl, hbase, interfaces, _, rfl, hinterfaces, gap, _, rfl, hgap, _, _, rfl, hmark,
    rfl⟩ := h
  obtain rfl := describes_char.1 hmark
  obtain ⟨hstart, hopening⟩ := isOpening_of_describes hopening
  exact ⟨hstart, opening, base, interfaces, gap, rfl, hopening,
    hbase.imp_left namesBase_of_describes, hinterfaces.imp_left namesInterfaces_of_describes, hgap⟩

theorem parts_of_describes_extending {front stretch rest : List Char}
    (h : Header.extendingPattern.Describes front stretch rest) :
    AtLineStart front ∧ ∃ opening base gap, stretch = opening ++ (base ++ (gap ++ ['\x7b'])) ∧
      IsOpening ObjectKind.extending opening ∧ NamesBase base ∧ ∀ c ∈ gap, isBlank c = true := by
  rw [Header.extendingPattern, List.append_assoc] at h
  obtain ⟨opening, _, rfl, hopening, h⟩ := describes_inOrder_append.1 h
  obtain ⟨base, _, rfl, hbase, gap, _, rfl, hgap, _, _, rfl, hmark, rfl⟩ := h
  obtain rfl := describes_char.1 hmark
  obtain ⟨hstart, hopening⟩ := isOpening_of_describes hopening
  exact ⟨hstart, opening, base, gap, rfl, hopening, namesBase_of_describes hbase, hgap⟩

/-! Headings that end alike. -/

theorem endsBlank_of_atLineStart {front lead : List Char} (h : AtLineStart front)
    (hlead : ∀ c ∈ lead, isBlank c = true) : EndsBlank (front ++ lead) := by
  cases lead with
  | nil =>
      rw [List.append_nil]
      intro c hc
      rw [h c hc]
      decide
  | cons x lead => exact Gap.endsBlank ⟨List.cons_ne_nil x lead, hlead⟩ front

theorem ne_nil_of_agrees {word text : List Char} (h : Text.Agrees word text) (hne : word ≠ []) :
    text ≠ [] := by
  rintro rfl
  exact hne (List.forall₂_nil_right_iff.1 h)

section

variable {front front' text text' : List Char}

theorem IsOpening.last_not_blank {kinds : List ObjectKind} (h : IsOpening kinds text) :
    ∀ c ∈ (front ++ text).getLast?, isBlank c = false := by
  obtain ⟨lead, word, space, number, gap, name, rfl, -, -, -, -, -, hname⟩ := h
  have hlast := hname.last_not_blank (front ++ lead ++ word ++ space ++ number ++ gap)
  simpa only [List.append_assoc] using hlast

theorem NamesBase.last_not_blank (h : NamesBase text) :
    ∀ c ∈ (front ++ text).getLast?, isBlank c = false := by
  obtain ⟨gap, word, gap', name, rfl, -, -, -, hname⟩ := h
  have hlast := hname.last_not_blank (front ++ gap ++ word ++ gap')
  simpa only [List.append_assoc] using hlast

/-- Openings that end alike have the same keyword, letter case aside. -/
theorem IsOpening.exists_length_eq {kinds kinds' : List ObjectKind} (h : IsOpening kinds text)
    (h' : IsOpening kinds' text') (hfront : AtLineStart front) (hfront' : AtLineStart front')
    (heq : front ++ text = front' ++ text') : ∃ kind ∈ kinds, ∃ kind' ∈ kinds',
      kind.keyword.toList.length = kind'.keyword.toList.length := by
  obtain ⟨lead, word, space, number, gap, name, rfl, hlead, ⟨kind, hkind, hword⟩, hspace, hnumber,
    hgap, hname⟩ := h
  obtain ⟨lead', word', space', number', gap', name', rfl, hlead', ⟨kind', hkind', hword'⟩, hspace',
    hnumber', hgap', hname'⟩ := h'
  have hnames := hname.inj hname' (hgap.endsBlank (front ++ lead ++ word ++ space ++ number))
    (hgap'.endsBlank (front' ++ lead' ++ word' ++ space' ++ number'))
    (by simpa only [List.append_assoc] using heq)
  obtain ⟨hnumbers, -⟩ := solid_gap_inj (hspace.endsBlank (front ++ lead ++ word))
    (hspace'.endsBlank (front' ++ lead' ++ word')) hnumber.1 hnumber'.1
    (solid_of_isDigit hnumber.2) (solid_of_isDigit hnumber'.2) hgap.2 hgap'.2
    (by simpa only [List.append_assoc] using hnames)
  obtain ⟨-, hwords⟩ := solid_gap_inj (endsBlank_of_atLineStart hfront hlead)
    (endsBlank_of_atLineStart hfront' hlead')
    (ne_nil_of_agrees hword (keyword_ne_nil kind)) (ne_nil_of_agrees hword' (keyword_ne_nil kind'))
    (solid_of_agrees (small_keyword kind) (k_notMem_keyword kind) hword)
    (solid_of_agrees (small_keyword kind') (k_notMem_keyword kind') hword')
    hspace.2 hspace'.2 (by simpa only [List.append_assoc] using hnumbers)
  exact ⟨kind, hkind, kind', hkind', by rw [hword.length_eq, hword'.length_eq, hwords]⟩

/-- A heading that names no other object does not end like one that does. -/
theorem IsOpening.ne_base {kinds : List ObjectKind} {base' : List Char}
    (h : IsOpening kinds text) (hbase' : NamesBase base') :
    front ++ text ≠ front' ++ (text' ++ base') := by
  intro heq
  obtain ⟨lead, word, space, number, gap, name, rfl, -, -, hspace, hnumber, hgap, hname⟩ := h
  obtain ⟨gap₁, extends', gap₂, name', rfl, hgap₁, hextends, hgap₂, hname'⟩ := hbase'
  have hnames := hname.inj hname' (hgap.endsBlank (front ++ lead ++ word ++ space ++ number))
    (hgap₂.endsBlank (front' ++ text' ++ gap₁ ++ extends'))
    (by simpa only [List.append_assoc] using heq)
  obtain ⟨-, hnumbers⟩ := solid_gap_inj (hspace.endsBlank (front ++ lead ++ word))
    (hgap₁.endsBlank (front' ++ text')) hnumber.1 (ne_nil_of_agrees hextends (by decide))
    (solid_of_isDigit hnumber.2) (solid_of_agrees_extends hextends) hgap.2 hgap₂.2
    (by simpa only [List.append_assoc] using hnames)
  obtain ⟨digit, hdigit⟩ := List.exists_mem_of_ne_nil number hnumber.1
  have hletter := isDigit_of_agrees_extends hextends digit (hnumbers ▸ hdigit)
  rw [hnumber.2 digit hdigit] at hletter
  cases hletter

/-- What stands in front of the name of the extended object is known from the text. -/
theorem NamesBase.inj {base base' : List Char} (h : NamesBase base) (h' : NamesBase base')
    (htext : ∀ c ∈ (front ++ text).getLast?, isBlank c = false)
    (htext' : ∀ c ∈ (front' ++ text').getLast?, isBlank c = false)
    (heq : front ++ (text ++ base) = front' ++ (text' ++ base')) :
    front ++ text = front' ++ text' := by
  obtain ⟨gap₁, extends₁, gap₂, name, rfl, hgap₁, hextends, hgap₂, hname⟩ := h
  obtain ⟨gap₁', extends₁', gap₂', name', rfl, hgap₁', hextends', hgap₂', hname'⟩ := h'
  have hnames := hname.inj hname' (hgap₂.endsBlank (front ++ text ++ gap₁ ++ extends₁))
    (hgap₂'.endsBlank (front' ++ text' ++ gap₁' ++ extends₁'))
    (by simpa only [List.append_assoc] using heq)
  obtain ⟨hgaps, -⟩ := solid_gap_inj (hgap₁.endsBlank (front ++ text))
    (hgap₁'.endsBlank (front' ++ text')) (ne_nil_of_agrees hextends (by decide))
    (ne_nil_of_agrees hextends' (by decide)) (solid_of_agrees_extends hextends)
    (solid_of_agrees_extends hextends') hgap₂.2 hgap₂'.2
    (by simpa only [List.append_assoc] using hnames)
  exact Text.append_blanks_inj htext htext' hgap₁.2 hgap₁'.2 hgaps

end

/-- Whether a list of interfaces runs up to the brace in front of an offset. -/
def ListsInterfaces (source : List Char) (start : Nat) : Prop :=
  ∃ front word clause rest, source = front ++ (word ++ (clause ++ '\x7b' :: rest)) ∧
    Text.Agrees "implements".toList word ∧ '\x7b' ∉ clause ∧
    start = (front ++ (word ++ clause)).length + 1

theorem length_keyword_ne : ∀ kind ∈ ObjectKind.base, ∀ kind' ∈ ObjectKind.extending,
    kind.keyword.toList.length ≠ kind'.keyword.toList.length := by
  decide

/-- Where headings of both sorts end, one of them lists interfaces. -/
theorem listsInterfaces_of_stop_eq {source : List Char} {m m' : Match Part}
    (hm : m ∈ Header.basePattern.all source) (hm' : m' ∈ Header.extendingPattern.all source)
    (h : m.stop.offset = m'.stop.offset) : ListsInterfaces source m.stop.offset := by
  obtain ⟨front, _, hsource, hmatch⟩ := exists_matchAt_of_mem_all hm
  obtain ⟨front', _, hsource', hmatch'⟩ := exists_matchAt_of_mem_all hm'
  obtain ⟨stretch, rest, rfl, hd, hstop⟩ := exists_stop_of_matchAt hmatch
  obtain ⟨stretch', rest', rfl, hd', hstop'⟩ := exists_stop_of_matchAt hmatch'
  rw [hstop, hstop', Cursor.offset_between, Cursor.offset_between] at h
  rw [hstop, Cursor.offset_between]
  obtain ⟨hstart, opening, base, interfaces, gap, rfl, hopening, hbase, hinterfaces, hgap⟩ :=
    parts_of_describes_base hd
  obtain ⟨hstart', opening', base', gap', rfl, hopening', hbase', hgap'⟩ :=
    parts_of_describes_extending hd'
  rcases hinterfaces with ⟨gap₁, word, clause, rfl, hword, hclause⟩ | rfl
  · have hbrace : '\x7b' ∉ gap := Text.not_mem_of_forall hgap (by decide)
    refine ⟨front ++ (opening ++ (base ++ gap₁)), word, clause ++ gap, rest, ?_, hword,
      by simp [hclause, hbrace], ?_⟩
    · rw [hsource]
      simp
    · simp only [List.length_append, List.length_cons, List.length_nil]
      omega
  · have hends : front ++ (opening ++ (base ++ ([] ++ (gap ++ ['\x7b'])))) =
        front' ++ (opening' ++ (base' ++ (gap' ++ ['\x7b']))) :=
      (List.append_inj (by simpa only [List.append_assoc] using hsource.symm.trans hsource') h).1
    have hbraces : (front ++ (opening ++ base) ++ gap) ++ ['\x7b'] =
        (front' ++ (opening' ++ base') ++ gap') ++ ['\x7b'] := by
      simpa only [List.append_assoc, List.nil_append] using hends
    have hblanks := List.append_cancel_right hbraces
    have hlast' : ∀ c ∈ (front' ++ (opening' ++ base')).getLast?, isBlank c = false := by
      rw [← List.append_assoc]
      exact hbase'.last_not_blank
    rcases hbase with hbase | rfl
    · have hlast : ∀ c ∈ (front ++ (opening ++ base)).getLast?, isBlank c = false := by
        rw [← List.append_assoc]
        exact hbase.last_not_blank
      have hbases := Text.append_blanks_inj hlast hlast' hgap hgap' hblanks
      have hopenings := hbase.inj hbase' hopening.last_not_blank hopening'.last_not_blank hbases
      obtain ⟨kind, hkind, kind', hkind', hlength⟩ :=
        hopening.exists_length_eq hopening' hstart hstart' hopenings
      exact absurd hlength (length_keyword_ne kind hkind kind' hkind')
    · rw [List.append_nil] at hblanks
      have hbases := Text.append_blanks_inj hopening.last_not_blank hlast' hgap hgap' hblanks
      exact absurd hbases (hopening.ne_base hbase')

end ExtensionAtlas.Source
