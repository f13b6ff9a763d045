import ExtensionAtlas.Proofs.Source.ProcedureLines
import ExtensionAtlas.Proofs.Text.OddLetters

/-! Printed procedures with event attributes. The role of a procedure is looked for by its name, so
an attribute counts for every procedure whose name starts the name of the one behind the attribute.
An attribute ends on its line, and behind it there is one procedure only. -/

namespace ExtensionAtlas.Source

open Pattern
open Text (Plain isBlank)

/-- An attribute of an event, written in any mixture of small and capital letters. -/
structure AttributeDecl where
  role : EventRole
  keyword : String
  word : List Char
  arguments : List Char
  known : keyword ∈ role.attributes
  spells : word.map Char.toLower = keyword.toList.map Char.toLower
  unmarked : ∀ mark ∈ ['\n', '(', ')', '[', ']', '\x7b', '\x7d'], mark ∉ arguments

/-- An attribute between its brackets. -/
def AttributeDecl.text (a : AttributeDecl) : List Char := a.word ++ '(' :: (a.arguments ++ [')'])

/-- An attribute on a line of its own. -/
def AttributeDecl.print (a : AttributeDecl) : List Char := indent ++ '[' :: (a.text ++ [']', '\n'])

/-- A procedure, with or without an attribute in front of it. -/
structure MemberDecl where
  attr : Option AttributeDecl
  procedure : ProcedureDecl

namespace MemberDecl

def print (d : MemberDecl) : List Char :=
  d.attr.elim [] AttributeDecl.print ++ d.procedure.print

/-- Whether an attribute of a role stands in front of a procedure whose name starts with a text,
letter case aside. -/
def marks (d : MemberDecl) (role : EventRole) (name : Plain) : Bool :=
  d.attr.any (·.role == role) &&
    (name.chars.map Char.toLower).isPrefixOf (d.procedure.name.chars.map Char.toLower)

/-- The role of the procedures of some name among some members. -/
def roleOf (ds : List MemberDecl) (name : Plain) : Option EventRole :=
  if ds.any (·.marks .subscriber name) then some .subscriber
  else if ds.any (·.marks .publisher name) then some .publisher
  else none

end MemberDecl

/-! No procedure starts in an attribute. -/

/-- Where the second character ends the line, the line is cut at the first. -/
theorem eq_nil_of_second {feed first mark : Char} {front rest back : List Char}
    (hfront : feed ∉ front) (hmark : mark ≠ feed)
    (heq : first :: feed :: rest = front ++ mark :: back) :
    front = [] ∧ first = mark ∧ feed :: rest = back := by
  match front, heq with
  | [], heq => exact ⟨rfl, List.cons.inj heq⟩
  | [_], heq =>
      cases heq
      exact absurd rfl hmark
  | _ :: _ :: _, heq =>
      cases heq
      exact absurd (.tail _ (.head _)) hfront

/-- A procedure has an opening parenthesis behind its name, and its name ends on its line. -/
theorem not_describes_arguments {front stretch rest tail behind : List Char} (htail : '(' ∉ tail)
    (htext : stretch ++ rest = tail ++ ')' :: ']' :: '\n' :: behind) :
    ¬Procedure.pattern.Describes front stretch rest := by
  intro h
  obtain ⟨modifier, _, rfl, hmodifier, _, _, rfl, ⟨rfl, -⟩, word, _, rfl, hword, gap, _, rfl, hgap,
    name, _, rfl, hname, gap', _, rfl, hgap', _, v, rfl, hparen, -⟩ := h
  obtain rfl := describes_char.1 hparen
  have hlead : ')' ∉ modifier ++ (word ++ gap) := by
    have hletters : ')' ∉ word :=
      Text.not_mem_of_agrees (by decide) (describes_letters.1 hword) (by decide) (by decide)
    have hblanks : ')' ∉ gap := Text.not_mem_of_forall (describes_someMost.1 hgap).2 (by decide)
    simp only [List.mem_append, not_or]
    exact ⟨IsModifier.not_mem (hmodifier.imp_left isModifier_of_describes) (by decide) (by decide)
      (by decide), hletters, hblanks⟩
  have hbehind : ')' ∉ gap' := Text.not_mem_of_forall hgap' (by decide)
  have hsplit : (tail ++ [')', ']', '\n']) ++ behind =
      (modifier ++ (word ++ gap) ++ (name ++ gap')) ++ '(' :: (v ++ rest) := by
    simpa using htext.symm
  obtain ⟨middle, hfront, -⟩ := Text.exists_of_append_eq_append_cons (by simp [htail]) hsplit
  rcases isName_of_describes hname with ⟨quoted, hquote, hquotable⟩ | ⟨-, hbare⟩
  · -- the parenthesis lies between the quotes, and the line feed as well
    have hquoted : '\n' ∉ quoted := Text.not_mem_of_forall hquotable (by decide)
    rw [hquote] at hfront
    have hopen : ')' ∉ modifier ++ (word ++ gap) ++ ['\x22'] := by
      rw [List.mem_append, not_or]
      exact ⟨hlead, by decide⟩
    obtain ⟨inside, -, hinside⟩ := Text.exists_of_append_eq_append_cons hopen
      (show modifier ++ (word ++ gap) ++ ['\x22'] ++ (quoted ++ '\x22' :: gap') =
        tail ++ ')' :: (']' :: '\n' :: middle) by simpa using hfront)
    obtain ⟨last, hlast, hrest⟩ := Text.exists_of_append_cons_eq_append
      (by simp [hbehind] : ')' ∉ '\x22' :: gap') hinside.symm
    rw [hlast, List.mem_append, List.mem_cons, not_or, not_or] at hquoted
    obtain ⟨-, hbracket, -⟩ := eq_nil_of_second hquoted.2.2 (by decide) hrest
    exact absurd hbracket (by decide)
  · have hmem : ')' ∈ modifier ++ (word ++ gap) ++ (name ++ gap') := by
      rw [hfront]
      simp
    have hparts : ')' ∉ name := Text.not_mem_of_forall hbare (by decide)
    rcases List.mem_append.1 hmem with hmem | hmem
    · exact hlead hmem
    · exact (List.mem_append.1 hmem).elim hparts hbehind

theorem finds_arguments {tail : List Char} (h : '(' ∉ tail) (front behind : List Char) :
    Finds Procedure.pattern front tail (')' :: ']' :: '\n' :: behind) [] := by
  induction tail generalizing front with
  | nil => exact .nil
  | cons x tail ih =>
      refine .cons (matchAt_eq_none fun stretch rest htext hd => ?_)
        (ih (List.not_mem_of_not_mem_cons h) _)
      exact not_describes_arguments h htext.symm hd

namespace AttributeDecl

variable (a : AttributeDecl)

theorem letters_of_mem_attributes : ∀ role : EventRole, ∀ keyword ∈ role.attributes,
    keyword.toList ≠ [] ∧ (∀ c ∈ keyword.toList, c.isAlpha = true)
      ∧ Text.Small (keyword.toList.map Char.toLower) := by
  intro role
  cases role <;> decide

theorem isAlpha_word {c : Char} (hc : c ∈ a.word) : c.isAlpha = true :=
  Text.isAlpha_of_toLower rfl ((letters_of_mem_attributes a.role a.keyword a.known).2.2 _
    (a.spells ▸ List.mem_map_of_mem hc))

theorem word_ne_nil : a.word ≠ [] := by
  intro h
  have hspells := a.spells
  rw [h, List.map_nil] at hspells
  exact (letters_of_mem_attributes a.role a.keyword a.known).1 (List.map_eq_nil_iff.1 hspells.symm)

theorem agrees_word : Text.Agrees a.keyword.toList a.word :=
  (Text.agrees_ascii_iff
    (fun c hc => Text.isAlpha_ascii ((letters_of_mem_attributes a.role a.keyword a.known).2.1 c hc))
    fun _ hc => Text.isAlpha_ascii (a.isAlpha_word hc)).2 a.spells

theorem not_mem_text {mark : Char} (hmark : mark ∈ ['\n', '[', ']']) : mark ∉ a.text := by
  have hguard : ∀ mark ∈ ['\n', '[', ']'], mark.isAlpha = false ∧ mark ∉ ['(', ')'] ∧
      mark ∈ ['\n', '(', ')', '[', ']', '\x7b', '\x7d'] := by
    decide
  obtain ⟨halpha, hparens, hmarks⟩ := hguard mark hmark
  have hword : mark ∉ a.word := Text.not_mem_of_forall (fun _ hc => a.isAlpha_word hc) halpha
  have harguments : mark ∉ a.arguments := a.unmarked mark hmarks
  simp only [List.mem_cons, List.not_mem_nil, or_false, not_or] at hparens
  simp [text, hword, harguments, hparens]

/-- No procedure starts on the line of an attribute. -/
theorem finds_print (front rest : List Char) :
    Finds Procedure.pattern front a.print rest [] := by
  have hprint : a.print = (indent ++ ['[']) ++ ((a.word ++ ['(']) ++ (a.arguments ++
      [')', ']', '\n'])) := by
    simp [print, text]
  have hword : ∀ c ∈ a.word, isBlank c = false := fun c hc =>
    Text.isBlank_of_isAlpha (a.isAlpha_word hc)
  have hopen (front rest : List Char) :
      Finds Procedure.pattern front (indent ++ ['[']) rest [] :=
    finds_nil_of_quiet startsProcedure_of_describes (quiet_procedure_of_marks (by decide) _)
  have hclose (front : List Char) : Finds Procedure.pattern front [')', ']', '\n'] rest [] :=
    finds_nil_of_quiet startsProcedure_of_describes (quiet_procedure_of_marks (by decide) _)
  have hname (front rest : List Char) : Finds Procedure.pattern front (a.word ++ ['(']) rest [] :=
    finds_nil_of_quiet startsProcedure_of_describes (quiet_procedure_of_word hword _)
  have harguments (front : List Char) : Finds Procedure.pattern front a.arguments
      ([')', ']', '\n'] ++ rest) [] :=
    finds_arguments (a.unmarked '(' (by decide)) front rest
  rw [hprint]
  exact (hopen _ _).append ((hname _ _).append ((harguments _).append (hclose _)))

end AttributeDecl

theorem MemberDecl.finds_print (d : MemberDecl) (body front rest : List Char) :
    ∃ m, Finds Procedure.pattern front d.print rest [m] ∧ Procedure.ofMatch body m =
      d.procedure.withRole (EventRole.find? body d.procedure.name.chars) := by
  obtain ⟨m, hm, hprocedure⟩ := d.procedure.finds_print body
    (front ++ d.attr.elim [] AttributeDecl.print) rest
  refine ⟨m, ?_, hprocedure⟩
  have hattribute : Finds Procedure.pattern front (d.attr.elim [] AttributeDecl.print)
      (d.procedure.print ++ rest) [] := by
    cases d.attr with
    | none => exact .nil
    | some a => exact a.finds_print front _
  exact hattribute.append hm

/-- The procedures of a printed body are read back, each with the role of its name. -/
theorem scan_members (ds : List MemberDecl) :
    Procedure.scan (ds.flatMap MemberDecl.print) = ds.map fun d => d.procedure.withRole
      (EventRole.find? (ds.flatMap MemberDecl.print) d.procedure.name.chars) := by
  have hall := forall₂_all startsProcedure_of_describes
    (fun (d : MemberDecl) => d.finds_print (ds.flatMap MemberDecl.print)) ds [] []
    (fun _ => trivial) trivial not_startsProcedure_nil
  rw [List.append_nil, List.nil_append] at hall
  rw [← List.forall₂_eq_eq_eq, Procedure.scan, List.forall₂_map_left_iff,
    List.forall₂_map_right_iff]
  exact hall

/-! The attribute of a role in front of a name. -/

/-- The words in front of the name of a procedure, a blank behind each. -/
def IsLead (text : List Char) : Prop :=
  ∃ modifier word gap, text = modifier ++ (word ++ gap) ∧ (IsModifier modifier ∨ modifier = [])
    ∧ Text.Agrees "procedure".toList word ∧ gap ≠ [] ∧ ∀ c ∈ gap, isBlank c = true

theorem describes_modifier {front stretch rest : List Char} :
    (Pattern.both (.oneOf (EventRole.modifiers.map .word)) .someBlanks : Pattern Unit).Describes
      front stretch rest ↔ IsModifier stretch := by
  constructor
  · rintro ⟨letters, gap, rfl, hletters, hgap⟩
    obtain ⟨p, hp, hletters⟩ := describes_oneOf.1 hletters
    obtain ⟨word, hword, rfl⟩ := List.mem_map.1 hp
    exact ⟨word, hword, letters, gap, rfl, describes_letters.1 hletters, describes_someMost.1 hgap⟩
  · rintro ⟨word, hword, letters, gap, rfl, hletters, hgap⟩
    exact ⟨letters, gap, rfl, describes_oneOf.2 ⟨_, List.mem_map_of_mem hword,
      describes_letters.2 hletters⟩, describes_someMost.2 hgap⟩

theorem describes_attributePattern {role : EventRole} {name front stretch rest : List Char} :
    (EventRole.attributePattern role name).Describes front stretch rest ↔
      ∃ gap word arguments gap' lead mark letters,
        stretch = '[' :: (gap ++ (word ++ (arguments ++
          ']' :: (gap' ++ (lead ++ (mark ++ letters))))))
        ∧ (∀ c ∈ gap, isBlank c = true)
        ∧ (∃ keyword ∈ role.attributes, Text.Agrees keyword.toList word) ∧ '\n' ∉ arguments
        ∧ (∀ c ∈ gap', isBlank c = true) ∧ IsLead lead ∧ (mark = ['\x22'] ∨ mark = [])
        ∧ Text.Agrees name letters := by
  constructor
  · rw [EventRole.attributePattern]
    rintro ⟨_, _, rfl, hopen, gap, _, rfl, hgap, word, _, rfl, hword, arguments, _, rfl,
      harguments, _, _, rfl, hclose, gap', _, rfl, hgap', h⟩
    obtain ⟨modifier, _, rfl, hmodifier, keyword, _, rfl, hkeyword, blanks, _, rfl, hblanks, h⟩ := h
    obtain ⟨mark, _, rfl, hmark, letters, _, rfl, hletters, rfl⟩ := h
    obtain rfl := describes_char.1 hopen
    obtain rfl := describes_char.1 hclose
    obtain ⟨p, hp, hword⟩ := describes_oneOf.1 hword
    obtain ⟨known, hknown, rfl⟩ := List.mem_map.1 hp
    obtain ⟨hne, hblanks⟩ := describes_someMost.1 hblanks
    exact ⟨gap, word, arguments, gap', modifier ++ (keyword ++ blanks), mark, letters, by simp,
      hgap, ⟨known, hknown, describes_letters.1 hword⟩, Text.forall_bne_iff.1 harguments, hgap',
      ⟨modifier, keyword, blanks, rfl, hmodifier.imp_left describes_modifier.1,
        describes_letters.1 hkeyword, hne, hblanks⟩,
      hmark.imp_left describes_char.1, describes_letters.1 hletters⟩
  · rintro ⟨gap, word, arguments, gap', _, mark, letters, rfl, hgap, ⟨known, hknown, hword⟩,
      harguments, hgap', ⟨modifier, keyword, blanks, rfl, hmodifier, hkeyword, hne, hblanks⟩, hmark,
      hletters⟩
    rw [EventRole.attributePattern, List.append_assoc, List.append_assoc]
    refine ⟨['['], _, rfl, describes_char.2 rfl, ?_⟩
    refine ⟨gap, _, rfl, hgap, ?_⟩
    refine ⟨word, _, rfl, describes_oneOf.2 ⟨_, List.mem_map_of_mem hknown,
      describes_letters.2 hword⟩, ?_⟩
    refine ⟨arguments, _, rfl, Text.forall_bne_iff.2 harguments, ?_⟩
    refine ⟨[']'], _, rfl, describes_char.2 rfl, ?_⟩
    refine ⟨gap', _, rfl, hgap', ?_⟩
    refine ⟨modifier, _, rfl, hmodifier.imp_left describes_modifier.2, ?_⟩
    refine ⟨keyword, _, rfl, describes_letters.2 hkeyword, ?_⟩
    refine ⟨blanks, _, rfl, describes_someMost.2 ⟨hne, hblanks⟩, ?_⟩
    refine ⟨mark, _, rfl, hmark.imp_left describes_char.2, ?_⟩
    exact ⟨letters, [], (List.append_nil _).symm, describes_letters.2 hletters, rfl⟩

/-- Words in front of one another are known from the text if blanks are between them. -/
theorem lead_inj {word word' letters letters' gap rest rest' : List Char} (hword : Text.Small word)
    (hletters : Text.Agrees word letters) (hne : gap ≠ []) (hgap : ∀ c ∈ gap, isBlank c = true)
    (hword' : Text.Small word') (hletters' : letters'.map Char.toLower = word')
    (heq : letters ++ (gap ++ rest) = letters' ++ ' ' :: rest') :
    word = word' ∧ gap.tail ++ rest = rest' := by
  obtain ⟨mark, gap, rfl⟩ := List.exists_cons_of_ne_nil hne
  have hmark : mark.isAlpha = false := Text.isAlpha_of_isBlank (hgap mark List.mem_cons_self)
  obtain ⟨hwords, -, hrest⟩ := Text.word_inj hword hletters hmark hword' hletters' (by decide)
    (by decide) heq
  exact ⟨hwords, hrest⟩

namespace IsLead

variable {text : List Char}

theorem not_mem (h : IsLead text) {guard : Char} (hascii : guard.toNat < 128)
    (halpha : guard.isAlpha = false) (hblank : isBlank guard = false) : guard ∉ text := by
  obtain ⟨modifier, word, gap, rfl, hmodifier, hword, -, hgap⟩ := h
  rw [List.mem_append, List.mem_append, not_or, not_or]
  exact ⟨IsModifier.not_mem hmodifier hascii halpha hblank,
    Text.not_mem_of_agrees (by decide) hword hascii halpha, Text.not_mem_of_forall hgap hblank⟩

/-- The words do not start with a blank. -/
theorem append_ne_cons (h : IsLead text) {x : Char} (hascii : x.toNat < 128)
    (hx : x.isAlpha = false) (rest t : List Char) : x :: t ≠ text ++ rest := by
  obtain ⟨modifier, word, gap, rfl, hmodifier, hword, -⟩ := h
  rcases hmodifier with ⟨keyword, hkeyword, letters, gap', rfl, hletters, -⟩ | rfl
  · have hne : keyword.toList ≠ [] :=
      (by decide : ∀ keyword ∈ EventRole.modifiers, keyword.toList ≠ []) keyword hkeyword
    rw [List.append_assoc, List.append_assoc]
    exact Text.cons_ne_append_of_agrees (small_of_mem_modifiers keyword hkeyword) hne hletters
      hascii hx _ _
  · rw [List.nil_append, List.append_assoc]
    exact Text.cons_ne_append_of_agrees (by decide) (by decide) hword hascii hx _ _

end IsLead

namespace ProcedureDecl

variable (d : ProcedureDecl)

/-- The words in front of the name of a printed procedure. -/
def lead : List Char :=
  d.modifier.elim [] (·.letters ++ [' ']) ++ (d.keyword.letters ++ [' '])

theorem exists_core_eq :
    ∃ behind, d.core = d.lead ++ '\x22' :: (d.name.chars ++ '\x22' :: behind) :=
  ⟨'(' :: (d.list ++ ')' :: (d.returns.elim [] (':' :: ' ' :: ·.type.chars) ++ [';'])), by
    simp [core, lead, quote]⟩

theorem isLead_lead : IsLead d.lead := by
  refine ⟨d.modifier.elim [] (·.letters ++ [' ']), d.keyword.letters, [' '], rfl, ?_,
    d.keyword.agrees (by decide), List.cons_ne_nil _ _, by decide⟩
  cases d.modifier with
  | none => exact Or.inr rfl
  | some m => exact Or.inl ⟨m.keyword, m.keyword_mem_modifiers, m.letters, [' '], rfl,
      m.spelling.agrees m.small_keyword, List.cons_ne_nil _ _, by decide⟩

theorem exists_lead_eq : ∃ x text, d.lead = x :: text ∧ x.isAlpha = true := by
  have hkeyword {keyword : String} (hsmall : Text.Small keyword.toList) (hne : keyword.toList ≠ [])
      (s : Text.Spelling keyword) (rest : List Char) :
      ∃ x text, s.letters ++ rest = x :: text ∧ x.isAlpha = true := by
    obtain ⟨x, text, htext⟩ := List.exists_cons_of_ne_nil (s.ne_nil hne)
    exact ⟨x, text ++ rest, by rw [htext, List.cons_append],
      s.isAlpha hsmall (htext ▸ List.mem_cons_self)⟩
  rw [lead]
  cases d.modifier with
  | none => exact hkeyword (by decide) (by decide) d.keyword _
  | some m =>
      rw [Option.elim, List.append_assoc]
      exact hkeyword m.small_keyword m.keyword_ne_nil m.spelling _

/-- No name stands in front of the quote of a printed procedure. -/
theorem eq_nil_of_lead_eq {text rest : List Char} (h : IsLead text) (heq : d.lead = text ++ rest) :
    rest = [] := by
  obtain ⟨modifier, word, gap, rfl, hmodifier, hword, hne, hgap⟩ := h
  have hprocedure : Text.Small "procedure".toList := by decide
  have hlast (h : word ++ (gap ++ rest) = d.keyword.letters ++ [' ']) : rest = [] := by
    obtain ⟨-, htail⟩ := lead_inj hprocedure hword hne hgap hprocedure d.keyword.spells h
    exact (List.append_eq_nil_iff.1 htail).2
  rw [lead, List.append_assoc, List.append_assoc] at heq
  rcases hmodifier with ⟨keyword, hkeyword, letters, gap', rfl, hletters, hne', hgap'⟩ | rfl
  · have hsmall : Text.Small keyword.toList := small_of_mem_modifiers keyword hkeyword
    rw [List.append_assoc] at heq
    cases hd : d.modifier with
    | none =>
        rw [hd] at heq
        obtain ⟨hwords, -⟩ := lead_inj hsmall hletters hne' hgap' hprocedure d.keyword.spells
          heq.symm
        rw [String.toList_inj.1 hwords] at hkeyword
        exact absurd hkeyword (by decide)
    | some m =>
        rw [hd, Option.elim, List.append_assoc] at heq
        obtain ⟨-, htail⟩ := lead_inj hsmall hletters hne' hgap' m.small_keyword m.spelling.spells
          heq.symm
        obtain ⟨y, letters', hy⟩ := List.exists_cons_of_ne_nil (d.keyword.ne_nil (by decide))
        have halpha : y.isAlpha = true := d.keyword.isAlpha hprocedure (hy ▸ List.mem_cons_self)
        have hnil : gap'.tail = [] := Text.eq_nil_of_blanks
          (fun c hc => hgap' c (List.mem_of_mem_tail hc)) halpha
          (htail.trans (congrArg (· ++ [' ']) hy))
        rw [hnil] at htail
        exact hlast htail
  · cases hd : d.modifier with
    | none =>
        rw [hd] at heq
        exact hlast heq.symm
    | some m =>
        rw [hd, Option.elim, List.append_assoc] at heq
        obtain ⟨hwords, -⟩ := lead_inj hprocedure hword hne hgap m.small_keyword m.spelling.spells
          heq.symm
        have hmodifier := m.keyword_mem_modifiers
        rw [← String.toList_inj.1 hwords] at hmodifier
        exact absurd hmodifier (by decide)

/-- The blanks in front of a printed procedure end where its first word starts. -/
theorem eq_of_blanks {gap lead rest behind : List Char} (hgap : ∀ c ∈ gap, isBlank c = true)
    (hlead : IsLead lead) (heq : gap ++ (lead ++ rest) = ('\n' :: indent) ++ (d.lead ++ behind)) :
    lead ++ rest = d.lead ++ behind := by
  rcases List.append_eq_append_iff.1 heq with ⟨middle, hmiddle, hrest⟩ | ⟨middle, hmiddle, hrest⟩
  · cases middle with
    | nil => exact hrest
    | cons x middle =>
        have hblanks : ∀ y ∈ '\n' :: indent, y.toNat < 128 ∧ y.isAlpha = false := by decide
        obtain ⟨hascii, hx⟩ := hblanks x (by rw [hmiddle]; simp)
        exact absurd hrest.symm (hlead.append_ne_cons hascii hx _ _)
  · obtain ⟨y, text, hy, halpha⟩ := d.exists_lead_eq
    have hnil : middle = [] := Text.eq_nil_of_blanks
      (fun c hc => hgap c (hmiddle ▸ List.mem_append_right _ hc)) halpha
      (hrest.symm.trans (congrArg (· ++ behind) hy))
    rw [hrest, hnil, List.nil_append]

/-- A name that is looked for behind the blanks in front of a printed procedure starts its name. -/
theorem prefix_of_eq {gap lead mark letters rest behind : List Char} {name : Plain}
    (hgap : ∀ c ∈ gap, isBlank c = true) (hlead : IsLead lead) (hmark : mark = ['\x22'] ∨ mark = [])
    (hletters : Text.Agrees name.chars letters)
    (heq : gap ++ (lead ++ (mark ++ (letters ++ rest))) = '\n' :: (d.print ++ behind)) :
    name.chars.map Char.toLower <+: d.name.chars.map Char.toLower := by
  obtain ⟨core, hcore⟩ := d.exists_core_eq
  have hwords : lead ++ (mark ++ (letters ++ rest)) =
      d.lead ++ '\x22' :: (d.name.chars ++ '\x22' :: (core ++ '\n' :: behind)) := by
    apply d.eq_of_blanks hgap hlead
    rw [heq, print, hcore]
    simp
  have hquote : '\x22' ∉ letters :=
    (Text.mem_iff_of_agrees (by decide) (by decide) hletters).not.2 (name.not_mem (by decide))
  have hopen : '\x22' ∉ lead := hlead.not_mem (by decide) (by decide) (by decide)
  rcases hmark with rfl | rfl
  · obtain ⟨-, hname⟩ := Text.append_mark_inj hopen
      (d.isLead_lead.not_mem (by decide) (by decide) (by decide)) hwords
    obtain ⟨tail, htail, -⟩ := Text.exists_of_append_eq_append_cons hquote hname
    have hascii : ∀ c ∈ letters, c.toNat < 128 := fun c hc =>
      d.name.ascii c (htail ▸ List.mem_append_left _ hc)
    rw [htail, List.map_append, (Text.agrees_ascii_iff name.ascii hascii).1 hletters]
    exact List.prefix_append _ _
  · rw [List.nil_append, ← List.append_assoc] at hwords
    obtain ⟨tail, htail, -⟩ := Text.exists_of_append_eq_append_cons
      (by simp [hopen, hquote]) hwords
    rw [List.append_assoc] at htail
    have hnil : letters = [] := (List.append_eq_nil_iff.1 (d.eq_nil_of_lead_eq hlead htail)).1
    rw [hnil] at hletters
    exact absurd (List.forall₂_nil_right_iff.1 hletters) name.ne_nil

end ProcedureDecl

namespace AttributeDecl

variable (a : AttributeDecl)

/-- No attribute starts another one. -/
theorem role_eq_of_startsWith : ∀ role role' : EventRole, ∀ keyword ∈ role.attributes,
    ∀ keyword' ∈ role'.attributes,
      keyword.toList.map Char.toLower <+: keyword'.toList.map Char.toLower → role' = role := by
  intro role role'
  cases role <;> cases role' <;> decide

/-- An attribute that is found at an opening bracket is the one of its line, up to its end. -/
theorem role_eq {role : EventRole} {gap word arguments behind behind' : List Char}
    (hgap : ∀ c ∈ gap, isBlank c = true)
    (hword : ∃ keyword ∈ role.attributes, Text.Agrees keyword.toList word)
    (harguments : '\n' ∉ arguments)
    (heq : a.text ++ ']' :: '\n' :: behind = gap ++ (word ++ (arguments ++ ']' :: behind'))) :
    a.role = role ∧ behind' = '\n' :: behind := by
  obtain ⟨keyword, hkeyword, hword⟩ := hword
  have hletters := (letters_of_mem_attributes role keyword hkeyword).2.1
  have hkeyword' : ∀ c ∈ keyword.toList, c.toNat < 128 := fun c hc =>
    Text.isAlpha_ascii (hletters c hc)
  have hguard {mark : Char} (hascii : mark.toNat < 128) (hmark : mark.isAlpha = false) :
      mark ∉ word :=
    (Text.mem_iff_of_agrees hascii hmark hword).not.2 (Text.not_mem_of_forall hletters hmark)
  obtain ⟨x, letters, hx⟩ := List.exists_cons_of_ne_nil a.word_ne_nil
  have halpha : x.isAlpha = true := a.isAlpha_word (hx ▸ List.mem_cons_self)
  have hnil : gap = [] := Text.eq_nil_of_blanks hgap halpha (heq.symm.trans (by rw [text, hx]; rfl))
  rw [hnil, List.nil_append, ← List.append_assoc] at heq
  obtain ⟨middle, hmiddle, hrest⟩ := Text.exists_of_append_eq_append_cons
    (a.not_mem_text (by decide)) heq
  have hline : '\n' ∉ word ++ arguments := by
    rw [List.mem_append, not_or]
    exact ⟨hguard (by decide) (by decide), harguments⟩
  have hmiddle' : '\n' ∉ middle := fun hmem => hline (hmiddle ▸ List.mem_append_right _ hmem)
  obtain ⟨rfl, -, hbehind⟩ := eq_nil_of_second hmiddle' (by decide) hrest
  rw [List.append_nil, text] at hmiddle
  obtain ⟨tail, htail, -⟩ := Text.exists_of_append_eq_append_cons
    (hguard (by decide) (by decide)) hmiddle
  have hascii : ∀ c ∈ word, c.toNat < 128 := fun c hc =>
    Text.isAlpha_ascii (a.isAlpha_word (htail ▸ List.mem_append_left _ hc))
  refine ⟨role_eq_of_startsWith role a.role keyword hkeyword a.keyword a.known ?_, hbehind.symm⟩
  rw [← a.spells, htail, List.map_append, (Text.agrees_ascii_iff hkeyword' hascii).1 hword]
  exact List.prefix_append _ _

/-- At an opening bracket stands an attribute of a role in front of a procedure whose name starts
with a text exactly if the line and the one behind it say so. -/
theorem exists_describes_iff {role : EventRole} {name : Plain} (d : ProcedureDecl)
    (front behind : List Char) :
    (∃ stretch rest, '[' :: (a.text ++ ']' :: '\n' :: (d.print ++ behind)) = stretch ++ rest ∧
        (EventRole.attributePattern role name.chars).Describes front stretch rest) ↔
      a.role = role ∧ name.chars.map Char.toLower <+: d.name.chars.map Char.toLower := by
  simp only [describes_attributePattern]
  constructor
  · rintro ⟨_, rest, htext, gap, word, arguments, gap', lead, mark, letters, rfl, hgap, hword,
      harguments, hgap', hlead, hmark, hletters⟩
    obtain ⟨hrole, hbehind⟩ := a.role_eq hgap hword harguments
      (by simpa using (List.cons.inj htext).2)
    exact ⟨hrole, d.prefix_of_eq hgap' hlead hmark hletters hbehind⟩
  · rintro ⟨rfl, hprefix⟩
    obtain ⟨core, hcore⟩ := d.exists_core_eq
    obtain ⟨tail, htail⟩ := hprefix
    obtain ⟨letters, tail, hname, hletters, -⟩ := List.map_eq_append_iff.1 htail.symm
    have hascii : ∀ c ∈ letters, c.toNat < 128 := fun c hc =>
      d.name.ascii c (hname ▸ List.mem_append_left _ hc)
    refine ⟨_, tail ++ '\x22' :: (core ++ '\n' :: behind), ?_, [], a.word,
      '(' :: (a.arguments ++ [')']), '\n' :: indent, d.lead, ['\x22'], letters, rfl, by simp,
      ⟨a.keyword, a.known, a.agrees_word⟩, ?_, by decide, d.isLead_lead, Or.inl rfl, ?_⟩
    · simp [ProcedureDecl.print, hcore, hname, text]
    · have harguments : '\n' ∉ a.arguments := a.unmarked _ (by decide)
      simp [harguments]
    · exact (Text.agrees_ascii_iff name.ascii hascii).2 hletters

end AttributeDecl

/-- Every opening bracket of a printed body is that of an attribute. -/
theorem exists_member_of_bracket {ds : List MemberDecl} {front rest : List Char}
    (h : ds.flatMap MemberDecl.print = front ++ '[' :: rest) :
    ∃ d ∈ ds, ∃ a behind, d.attr = some a ∧
      rest = a.text ++ ']' :: '\n' :: (d.procedure.print ++ behind) := by
  induction ds generalizing front with
  | nil => simp at h
  | cons d ds ih =>
      have hprocedure : '[' ∉ d.procedure.print := by
        have hcore := d.procedure.inline_core.not_mem (by decide : isInline '[' = false)
        have hindent : '[' ∉ indent := by decide
        simp [ProcedureDecl.print, hcore, hindent]
      have hlater {front : List Char} (h : ds.flatMap MemberDecl.print = front ++ '[' :: rest) :
          ∃ e ∈ d :: ds, ∃ a behind, e.attr = some a ∧
            rest = a.text ++ ']' :: '\n' :: (e.procedure.print ++ behind) := by
        obtain ⟨e, he, hrest⟩ := ih h
        exact ⟨e, List.mem_cons_of_mem _ he, hrest⟩
      rw [List.flatMap_cons, MemberDecl.print] at h
      cases hd : d.attr with
      | none =>
          rw [hd, Option.elim, List.nil_append] at h
          obtain ⟨_, -, hds⟩ := Text.exists_of_append_eq_append_cons hprocedure h
          exact hlater hds
      | some a =>
          rw [hd, Option.elim, AttributeDecl.print, List.append_assoc, List.append_assoc] at h
          obtain ⟨middle, -, hline⟩ := Text.exists_of_append_eq_append_cons
            (by decide : '[' ∉ indent) h
          cases middle with
          | nil =>
              refine ⟨d, List.mem_cons_self, a, ds.flatMap MemberDecl.print, hd, ?_⟩
              simpa using (List.cons.inj hline).2.symm
          | cons x middle =>
              have htext : '[' ∉ a.text ++ [']', '\n'] ++ d.procedure.print := by
                simp [a.not_mem_text (by decide : '[' ∈ ['\n', '[', ']']), hprocedure]
              obtain ⟨_, -, hds⟩ := Text.exists_of_append_eq_append_cons htext
                (by simpa using (List.cons.inj hline).2)
              exact hlater hds

theorem occursIn_attributePattern_iff (ds : List MemberDecl) (role : EventRole) (name : Plain) :
    (EventRole.attributePattern role name.chars).occursIn (ds.flatMap MemberDecl.print) = true ↔
      ds.any (·.marks role name) = true := by
  have hmarks (d : MemberDecl) : d.marks role name = true ↔ ∃ a, d.attr = some a ∧ a.role = role ∧
      name.chars.map Char.toLower <+: d.procedure.name.chars.map Char.toLower := by
    simp [MemberDecl.marks, Option.any_eq_true, ← exists_and_right, and_assoc]
  rw [occursIn_iff, List.any_eq_true]
  constructor
  · rintro ⟨front, stretch, rest, htext, hdescribes⟩
    obtain ⟨text, hstretch⟩ : ∃ text, stretch = '[' :: text := by
      obtain ⟨_, _, _, _, _, _, _, rfl, -⟩ := describes_attributePattern.1 hdescribes
      exact ⟨_, rfl⟩
    have hbracket : ds.flatMap MemberDecl.print = front ++ '[' :: (text ++ rest) := by
      rw [htext, hstretch, List.cons_append]
    obtain ⟨d, hd, a, behind, hattr, hline⟩ := exists_member_of_bracket hbracket
    refine ⟨d, hd, (hmarks d).2 ⟨a, hattr, (a.exists_describes_iff d.procedure front behind).1
      ⟨stretch, rest, ?_, hdescribes⟩⟩⟩
    rw [← hline, hstretch, List.cons_append]
  · rintro ⟨d, hd, hmark⟩
    obtain ⟨before, behind, rfl⟩ := List.append_of_mem hd
    obtain ⟨a, hattr, hfits⟩ := (hmarks d).1 hmark
    obtain ⟨stretch, rest, htext, hdescribes⟩ := (a.exists_describes_iff d.procedure
      (before.flatMap MemberDecl.print ++ indent) (behind.flatMap MemberDecl.print)).2 hfits
    refine ⟨_, stretch, rest, ?_, hdescribes⟩
    rw [← htext]
    simp [MemberDecl.print, AttributeDecl.print, hattr]

theorem find?_members (ds : List MemberDecl) (name : Plain) :
    EventRole.find? (ds.flatMap MemberDecl.print) name.chars = MemberDecl.roleOf ds name := by
  simp only [EventRole.find?, MemberDecl.roleOf, occursIn_attributePattern_iff]

/-- The procedures of a printed body are read back in order. A procedure is a subscriber if some
subscriber attribute stands in front of a procedure whose name starts with its name, and otherwise
a publisher if some publisher attribute does. -/
theorem scan_attributed (ds : List MemberDecl) :
    Procedure.scan (ds.flatMap MemberDecl.print) =
      ds.map fun d => d.procedure.withRole (MemberDecl.roleOf ds d.procedure.name) := by
  simp only [scan_members, find?_members]

/-- The attribute counts for the first procedure, and for the second one because of its name. -/
example :
    let publisher : AttributeDecl := ⟨.publisher, "IntegrationEvent", "integrationevent".toList,
      "false, false".toList, by decide, by decide, by decide⟩
    let onPosted : ProcedureDecl := ⟨some (.localOnly ⟨"Local".toList, by decide⟩),
      ⟨"procedure".toList, by decide⟩,
      ⟨"OnPosted".toList, by decide, by decide, by decide, by decide⟩, [], none⟩
    let onPost : ProcedureDecl := ⟨none, ⟨"procedure".toList, by decide⟩,
      ⟨"OnPost".toList, by decide, by decide, by decide, by decide⟩, [], none⟩
    let post : ProcedureDecl := ⟨none, ⟨"procedure".toList, by decide⟩,
      ⟨"Post".toList, by decide, by decide, by decide, by decide⟩, [], none⟩
    let body : List MemberDecl := [⟨some publisher, onPosted⟩, ⟨none, onPost⟩, ⟨none, post⟩]
    String.ofList (body.flatMap MemberDecl.print) =
        "    [integrationevent(false, false)]\n    Local procedure \x22OnPosted\x22();\n" ++
          "    procedure \x22OnPost\x22();\n    procedure \x22Post\x22();\n" ∧
      body.map (fun d => MemberDecl.roleOf body d.procedure.name) =
        [some .publisher, some .publisher, none] := by
  decide

end ExtensionAtlas.Source
