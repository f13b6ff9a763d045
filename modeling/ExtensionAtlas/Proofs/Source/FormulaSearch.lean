import ExtensionAtlas.Proofs.Pattern.Captures
import ExtensionAtlas.Proofs.Source.FieldLines
import ExtensionAtlas.Proofs.Text.OddLetters

/-! The formula that is found for a name, without the search. Of the declarations that come to the
name and then to an assignment the first one counts, and of the assignments that it comes to the
last. No closing brace stands on the way but in the name itself. The search goes as far as it can
twice, in front of the name and behind it. What it finds is the last assignment all the same: one
that lies behind a shorter way to the name, further on than the longest way, lies behind that one
too. -/

namespace ExtensionAtlas.Source

open Pattern
open Text (isBlank)

/-- A field is declared between `front` and what is behind its opening parenthesis. -/
structure Declares (front text behind : List Char) : Prop where
  alone : ∀ c ∈ front.getLast?, Text.isWord c = false
  leads : Leads "field" '(' text behind

/-- A text starts with the assignment of a formula, which ends at the first semicolon. -/
structure Assigns (text formula : List Char) : Prop where
  leads : ∃ rest, Leads "CalcFormula" '=' text (formula ++ ';' :: rest)
  ne_nil : formula ≠ []
  ends : ';' ∉ formula

/-- A text has a name in it, with no closing brace on either side of the name. -/
def MentionedIn (name text : List Char) : Prop :=
  ∃ lead mentioned middle, text = lead ++ (mentioned ++ middle) ∧ '\x7d' ∉ lead
    ∧ Text.Agrees name mentioned ∧ '\x7d' ∉ middle

/-- A declaration mentions a name in front of the assignment of a formula. -/
def Reaches (name behind before formula : List Char) : Prop :=
  ∃ rest, behind = before ++ rest ∧ MentionedIn name before ∧ Assigns rest formula

/-- A declaration with a formula for a name starts here. -/
def Counts (name front text : List Char) : Prop :=
  ∃ behind before formula, Declares front text behind ∧ Reaches name behind before formula

/-- A text without the blanks around it, unless nothing is left. -/
def trimmed? (text : List Char) : Option (List Char) :=
  if Text.strip text = [] then none else some (Text.strip text)

/-- What is found for a name in a body. -/
inductive IsFormula (body name : List Char) : Option (List Char) → Prop where
  | absent (none_counts : ∀ front text, body = front ++ text → ¬Counts name front text) :
      IsFormula body name none
  | found {front text behind before formula : List Char} (body_eq : body = front ++ text)
      (first : ∀ front' text', body = front' ++ text' → front'.length < front.length →
        ¬Counts name front' text')
      (declares : Declares front text behind) (reaches : Reaches name behind before formula)
      (last : ∀ before' formula', Reaches name behind before' formula' →
        before'.length ≤ before.length) :
      IsFormula body name (trimmed? formula)

/-! The parts of the search. -/

/-- The part of the search behind the name. -/
def assignment : List (Pattern Field.Part) :=
  [.word "CalcFormula", .blanks, .char '=', .blanks,
    .capture .formula (.someMost (· != ';')), .char ';']

theorem formulaPattern_eq (name : List Char) : Field.formulaPattern name =
    .inOrder (Field.opening ++
      Field.uptoBrace :: .letters name :: Field.uptoBrace :: assignment) := rfl

theorem describes_uptoBrace_iff {front stretch rest : List Char} :
    Field.uptoBrace.Describes front stretch rest ↔ '\x7d' ∉ stretch :=
  Text.forall_bne_iff

/-- However it is written, the keyword of a field starts with a word character. -/
theorem Leads.exists_head {text behind : List Char} (h : Leads "field" '(' text behind) :
    ∃ x rest, text = x :: rest ∧ Text.isWord x = true := by
  obtain ⟨word, gap, rfl, hword, -⟩ := h
  obtain ⟨x, rest, rfl, hx⟩ := Text.exists_head_of_agrees (by decide) (by decide) (by decide) hword
  exact ⟨x, _, rfl, hx⟩

theorem describes_opening_iff {front stretch rest : List Char} :
    (inOrder Field.opening).Describes front stretch rest ↔
      Declares front (stretch ++ rest) rest := by
  constructor
  · rintro ⟨_, stretch, rfl, ⟨rfl, hedge⟩, hleads⟩
    rw [List.append_nil] at hleads
    have hleads := describes_leads_iff.1 hleads
    obtain ⟨x, _, htext, hx⟩ := hleads.exists_head
    refine ⟨?_, hleads⟩
    rw [htext] at hedge
    exact not_isWord_last_of_atWordEdge hx hedge
  · rintro ⟨halone, hleads⟩
    obtain ⟨x, _, htext, hx⟩ := hleads.exists_head
    refine ⟨[], stretch, rfl, ⟨rfl, ?_⟩, describes_leads_iff.2 hleads⟩
    rw [htext]
    exact atWordEdge_between halone hx

/-- The blanks behind the equals sign may or may not be captured, which trimming does not see. -/
theorem reads_assignment {front stretch rest : List Char} {captures : Captures Field.Part}
    (h : (inOrder assignment).Reads front stretch rest captures) :
    ∃ formula captured, Assigns (stretch ++ rest) formula ∧ captures = [(.formula, captured)]
      ∧ Text.strip captured.chars = Text.strip formula := by
  obtain ⟨word, _, _, _, rfl, rfl, hword, h⟩ := h
  obtain ⟨gap, _, _, _, rfl, rfl, ⟨hgap, rfl⟩, h⟩ := h
  obtain ⟨_, _, _, _, rfl, rfl, ⟨hequals, rfl⟩, h⟩ := h
  obtain ⟨gap', _, _, _, rfl, rfl, ⟨hgap', rfl⟩, h⟩ := h
  obtain ⟨formula, _, _, _, rfl, rfl, ⟨_, rfl, hformula⟩, h⟩ := h
  obtain ⟨_, _, _, _, rfl, rfl, ⟨hsemicolon, rfl⟩, ⟨rfl, rfl⟩⟩ := h
  obtain rfl := describes_char.1 hequals
  obtain rfl := describes_char.1 hsemicolon
  obtain rfl := hword.captures_eq_nil (parts_word _)
  obtain rfl := hformula.captures_eq_nil (parts_someMost _)
  obtain ⟨hne, hends⟩ := describes_someMost.1 hformula.describes
  have hends : ';' ∉ gap' ++ formula := by
    simp [Text.not_mem_of_forall hgap' (by decide : isBlank ';' = false),
      Text.forall_bne_iff.1 hends]
  refine ⟨gap' ++ formula, _, ⟨⟨rest, word, gap, ?_, ?_, hgap⟩, ?_, hends⟩, rfl, ?_⟩
  · simp
  · exact describes_letters.1 hword.describes
  · exact List.append_ne_nil_of_right_ne_nil gap' hne
  · rw [Text.strip_append_of_blanks hgap', Stretch.chars]
    simp

theorem offers_assignment_iff {front text : List Char} :
    (inOrder assignment).Offers front text ↔ ∃ formula, Assigns text formula := by
  constructor
  · rintro ⟨stretch, rest, rfl, hd⟩
    obtain ⟨captures, hreads⟩ := hd.exists_reads
    obtain ⟨formula, _, hassigns, -, -⟩ := reads_assignment hreads
    exact ⟨formula, hassigns⟩
  · rintro ⟨formula, ⟨rest, word, gap, rfl, hword, hgap⟩, hne, hends⟩
    refine ⟨word ++ (gap ++ '=' :: (formula ++ [';'])), rest, by simp, ?_⟩
    refine ⟨word, _, rfl, describes_letters.2 hword, gap, _, rfl, hgap, ['='], _, rfl,
      describes_char.2 rfl, ?_⟩
    refine ⟨[], _, rfl, by simp [blanks, Describes], formula, _, rfl, ?_, ?_⟩
    · exact describes_someMost.2 ⟨hne, Text.forall_bne_iff.2 hends⟩
    · exact ⟨[';'], [], rfl, describes_char.2 rfl, rfl⟩

theorem offers_reaching_iff {name front behind : List Char} :
    (inOrder (Field.uptoBrace :: .letters name :: Field.uptoBrace :: assignment)).Offers front
      behind ↔ ∃ before formula, Reaches name behind before formula := by
  simp only [offers_cons, describes_uptoBrace_iff, describes_letters, offers_assignment_iff]
  constructor
  · rintro ⟨lead, _, rfl, hlead, mentioned, _, rfl, hmentioned, middle, rest, rfl, hmiddle,
      formula, hassigns⟩
    exact ⟨lead ++ (mentioned ++ middle), formula, rest, by simp,
      ⟨lead, mentioned, middle, rfl, hlead, hmentioned, hmiddle⟩, hassigns⟩
  · rintro ⟨_, formula, rest, rfl, ⟨lead, mentioned, middle, rfl, hlead, hmentioned, hmiddle⟩,
      hassigns⟩
    exact ⟨lead, _, by simp, hlead, mentioned, _, rfl, hmentioned, middle, rest, rfl, hmiddle,
      formula, hassigns⟩

theorem offers_formulaPattern_iff {name front text : List Char} :
    (Field.formulaPattern name).Offers front text ↔ Counts name front text := by
  rw [formulaPattern_eq, offers_inOrder_append]
  simp only [describes_opening_iff, offers_reaching_iff]
  constructor
  · rintro ⟨stretch, behind, rfl, hdeclares, before, formula, hreaches⟩
    exact ⟨behind, before, formula, hdeclares, hreaches⟩
  · rintro ⟨behind, before, formula, hdeclares, hreaches⟩
    obtain ⟨word, gap, rfl, -⟩ := hdeclares.leads
    have htext : word ++ (gap ++ '(' :: behind) = (word ++ (gap ++ ['('])) ++ behind := by simp
    exact ⟨word ++ (gap ++ ['(']), behind, htext, htext ▸ hdeclares, before, formula, hreaches⟩

/-! What a run comes to. -/

section

variable {β : Type} {name front behind : List Char} {captures : Captures Field.Part}
  {k : Cursor → Captures Field.Part → Option β} {result : β}
  (hk : ∀ c captures, (k c captures).isSome = true)

include hk

/-- Behind the name a run comes to the last assignment in front of a brace. -/
theorem last_assignment_of_run
    (h : (inOrder (Field.uptoBrace :: assignment)).run (.between front behind) captures k =
      some result) :
    ∃ middle rest formula captured c, behind = middle ++ rest ∧ '\x7d' ∉ middle
      ∧ Assigns rest formula ∧ Text.strip captured.chars = Text.strip formula
      ∧ k c ((.formula, captured) :: captures) = some result
      ∧ ∀ middle' rest' formula', behind = middle' ++ rest' → '\x7d' ∉ middle' →
        Assigns rest' formula' → middle'.length ≤ middle.length := by
  obtain ⟨middle, _, rfl, hmiddle, hassignment, hlongest⟩ := longest_of_runMost front behind h
  obtain ⟨stretch, rest, own, rfl, hreads, hresult⟩ := reads_of_run hassignment
  obtain ⟨formula, captured, hassigns, rfl, hstrip⟩ := reads_assignment hreads
  refine ⟨middle, stretch ++ rest, formula, captured, _, rfl, Text.forall_bne_iff.1 hmiddle,
    hassigns, hstrip, hresult, ?_⟩
  intro middle' rest' formula' heq hmiddle' hassigns'
  by_contra hlonger
  have hnone := hlongest middle' rest' heq (Text.forall_bne_iff.2 hmiddle')
    (Nat.lt_of_not_le hlonger)
  exact not_offers_of_run_eq_none hk hnone (offers_assignment_iff.2 ⟨formula', hassigns'⟩)

/-- Behind the parenthesis a run comes to the last assignment that can be reached. -/
theorem last_of_run
    (h : (inOrder (Field.uptoBrace :: .letters name :: Field.uptoBrace :: assignment)).run
      (.between front behind) captures k = some result) :
    ∃ before formula captured c, Reaches name behind before formula
      ∧ Text.strip captured.chars = Text.strip formula
      ∧ k c ((.formula, captured) :: captures) = some result
      ∧ ∀ before' formula', Reaches name behind before' formula' →
        before'.length ≤ before.length := by
  obtain ⟨lead, _, rfl, hlead, hname, hlongest⟩ := longest_of_runMost front behind h
  obtain ⟨mentioned, _, own, rfl, hmentioned, hbehind⟩ := reads_of_run (p := letters name) hname
  obtain rfl := hmentioned.captures_eq_nil (parts_letters name)
  obtain ⟨middle, rest, formula, captured, c, rfl, hmiddle, hassigns, hstrip, hresult, hlast⟩ :=
    last_assignment_of_run hk hbehind
  have hagrees : Text.Agrees name mentioned := describes_letters.1 hmentioned.describes
  refine ⟨lead ++ (mentioned ++ middle), formula, captured, c, ⟨rest, by simp,
    ⟨lead, mentioned, middle, rfl, Text.forall_bne_iff.1 hlead, hagrees, hmiddle⟩, hassigns⟩,
    hstrip, hresult, ?_⟩
  rintro _ formula' ⟨rest', htext, ⟨lead', mentioned', middle', rfl, hlead', hagrees', hmiddle'⟩,
    hassigns'⟩
  -- the other way to the name is no longer, or the run had gone it
  have hlead_le : lead'.length ≤ lead.length := by
    by_contra hlonger
    have hnone := hlongest lead' (mentioned' ++ (middle' ++ rest')) (by simpa using htext)
      (Text.forall_bne_iff.2 hlead') (Nat.lt_of_not_le hlonger)
    exact not_offers_of_run_eq_none hk hnone (offers_cons.2 ⟨mentioned', _, rfl,
      describes_letters.2 hagrees', offers_cons.2 ⟨middle', rest', rfl,
        describes_uptoBrace_iff.2 hmiddle', offers_assignment_iff.2 ⟨formula', hassigns'⟩⟩⟩)
  -- so what it leaves behind the name of the run is a part of what it leaves behind its own
  have hmentioned_eq : mentioned'.length = mentioned.length :=
    hagrees'.length_eq.symm.trans hagrees.length_eq
  have hwhole : (lead' ++ mentioned') ++ (middle' ++ rest') =
      (lead ++ mentioned) ++ (middle ++ rest) := by
    simpa using htext.symm
  obtain ⟨extra, hextra, hbehind'⟩ := Text.exists_between hwhole (by simp; omega)
  have hlength : (lead ++ mentioned).length = (lead' ++ mentioned').length + extra.length := by
    rw [hextra, List.length_append]
  by_contra hlonger
  simp only [List.length_append] at hlonger hlength
  obtain ⟨longer, rfl, heq⟩ := Text.exists_between hbehind'.symm (by omega)
  have hle := hlast longer rest' formula' heq
    (fun hmem => hmiddle' (List.mem_append_right _ hmem)) hassigns'
  rw [List.length_append] at hlonger
  omega

end

/-- A match comes to the last assignment that its declaration reaches. -/
theorem exists_of_matchAt {name front text : List Char} {m : Match Field.Part}
    (h : (Field.formulaPattern name).matchAt (.between front text) = some m) :
    ∃ behind before formula, Declares front text behind ∧ Reaches name behind before formula
      ∧ Text.strip (m.text .formula) = Text.strip formula
      ∧ ∀ before' formula', Reaches name behind before' formula' →
        before'.length ≤ before.length := by
  rw [formulaPattern_eq, matchAt, run_inOrder_append] at h
  obtain ⟨stretch, behind, own, rfl, hopening, hrun⟩ := reads_of_run h
  obtain rfl := hopening.captures_eq_nil rfl
  obtain ⟨before, formula, captured, c, hreaches, hstrip, hm, hlast⟩ :=
    last_of_run (fun _ _ => rfl) hrun
  refine ⟨behind, before, formula, describes_opening_iff.1 hopening.describes, hreaches, ?_, hlast⟩
  rw [← Option.some.inj hm]
  exact hstrip

/-! The result is the only one of its kind. -/

/-- What is behind a keyword and a mark is known from the text. -/
theorem Leads.unique {keyword : String} {mark : Char} {text behind behind' : List Char}
    (hascii : mark.toNat < 128) (hletter : mark.isAlpha = false) (hblank : isBlank mark = false)
    (hkeyword : mark ∉ keyword.toList) (h : Leads keyword mark text behind)
    (h' : Leads keyword mark text behind') : behind = behind' := by
  have hmark {word gap : List Char} (hword : Text.Agrees keyword.toList word)
      (hgap : ∀ c ∈ gap, isBlank c = true) : mark ∉ word ++ gap := by
    rw [List.mem_append, not_or]
    exact ⟨(Text.mem_iff_of_agrees hascii hletter hword).not.2 hkeyword,
      Text.not_mem_of_forall hgap hblank⟩
  obtain ⟨word, gap, rfl, hword, hgap⟩ := h
  obtain ⟨word', gap', heq, hword', hgap'⟩ := h'
  rw [← List.append_assoc, ← List.append_assoc] at heq
  exact (Text.append_mark_inj (hmark hword hgap) (hmark hword' hgap') heq).2

theorem Declares.unique {front text behind behind' : List Char} (h : Declares front text behind)
    (h' : Declares front text behind') : behind = behind' :=
  h.leads.unique (by decide) (by decide) (by decide) (by decide) h'.leads

theorem Assigns.unique {text formula formula' : List Char} (h : Assigns text formula)
    (h' : Assigns text formula') : formula = formula' := by
  obtain ⟨rest, hleads⟩ := h.leads
  obtain ⟨rest', hleads'⟩ := h'.leads
  have heq := hleads.unique (by decide) (by decide) (by decide) (by decide) hleads'
  exact (Text.append_mark_inj h.ends h'.ends heq).1

/-- Where an assignment starts decides what it assigns. -/
theorem Reaches.unique {name behind before before' formula formula' : List Char}
    (h : Reaches name behind before formula) (h' : Reaches name behind before' formula')
    (hlength : before.length = before'.length) : formula = formula' := by
  obtain ⟨rest, rfl, -, hassigns⟩ := h
  obtain ⟨rest', heq, -, hassigns'⟩ := h'
  obtain ⟨rfl, rfl⟩ := List.append_inj heq hlength
  exact hassigns.unique hassigns'

theorem IsFormula.unique {body name : List Char} {result result' : Option (List Char)}
    (h : IsFormula body name result) (h' : IsFormula body name result') : result = result' := by
  cases h with
  | absent hnone =>
      cases h' with
      | absent => rfl
      | found hbody _ hdeclares hreaches _ =>
          exact absurd ⟨_, _, _, hdeclares, hreaches⟩ (hnone _ _ hbody)
  | @found front text behind before formula hbody hfirst hdeclares hreaches hlast =>
      cases h' with
      | absent hnone => exact absurd ⟨_, _, _, hdeclares, hreaches⟩ (hnone _ _ hbody)
      | @found front' text' behind' before' formula' hbody' hfirst' hdeclares' hreaches' hlast' =>
          -- neither declaration is in front of the other
          have hfront : front.length = front'.length := by
            refine Nat.le_antisymm (Nat.le_of_not_lt fun hlt => ?_)
              (Nat.le_of_not_lt fun hlt => ?_)
            · exact hfirst _ _ hbody' hlt ⟨_, _, _, hdeclares', hreaches'⟩
            · exact hfirst' _ _ hbody hlt ⟨_, _, _, hdeclares, hreaches⟩
          obtain ⟨rfl, rfl⟩ := List.append_inj (hbody.symm.trans hbody') hfront
          obtain rfl := hdeclares.unique hdeclares'
          have hbefore : before.length = before'.length :=
            Nat.le_antisymm (hlast' _ _ hreaches) (hlast _ _ hreaches')
          rw [hreaches.unique hreaches' hbefore]

theorem formula?_eq_bind (body name : List Char) : Field.formula? body name =
    ((Field.formulaPattern name).first? body).bind fun m => trimmed? (m.text .formula) := by
  rw [Field.formula?]
  cases (Field.formulaPattern name).first? body with
  | none => rfl
  | some m =>
      simp only [Option.bind_some, trimmed?]
      split
      · next hnil => rw [if_pos hnil]
      · next hne => rw [if_neg hne]

theorem isFormula_formula? (body name : List Char) :
    IsFormula body name (Field.formula? body name) := by
  have hnot {front text : List Char}
      (h : (Field.formulaPattern name).matchAt (.between front text) = none) :
      ¬Counts name front text :=
    offers_formulaPattern_iff.not.1 (matchAt_eq_none_iff.1 h)
  rw [formula?_eq_bind]
  cases hfound : (Field.formulaPattern name).first? body with
  | none => exact .absent fun front text hbody => hnot (first?_eq_none_iff.1 hfound _ _ hbody)
  | some m =>
      obtain ⟨front, text, hbody, hmatch, hearlier⟩ := exists_of_first?_eq_some hfound
      obtain ⟨behind, before, formula, hdeclares, hreaches, hstrip, hlast⟩ :=
        exists_of_matchAt hmatch
      rw [Option.bind_some, trimmed?, hstrip]
      exact .found hbody (fun _ _ hbody' hlt => hnot (hearlier _ _ hbody' hlt)) hdeclares
        hreaches hlast

/-- **The formula that is found for a name.** The search gives the formula of the last assignment
that the first declaration comes to which comes to the name and then to an assignment at all. -/
theorem formula?_eq_iff {body name : List Char} {result : Option (List Char)} :
    Field.formula? body name = result ↔ IsFormula body name result := by
  constructor
  · rintro rfl
    exact isFormula_formula? body name
  · exact fun h => (isFormula_formula? body name).unique h

/-- A name is found within a longer one, and the last assignment in front of a brace counts. -/
example : Field.formula? ("field(1; Net; Decimal) \x7b \x7d\n" ++
    "field(2; Net Change; FlowField) \x7b CalcFormula = A; calcformula = B ; \x7d").toList
      "change".toList = some "B".toList := by decide +kernel

/-! Braces in a name. -/

/-- In front of an assignment there is a closing brace if and only if the name has one. -/
theorem MentionedIn.brace_mem_iff {name text : List Char} (h : MentionedIn name text) :
    '\x7d' ∈ text ↔ '\x7d' ∈ name := by
  obtain ⟨lead, mentioned, middle, rfl, hlead, hagrees, hmiddle⟩ := h
  rw [← Text.mem_iff_of_agrees (by decide) (by decide) hagrees]
  simp [hlead, hmiddle]

def bracedName : List Char := "a\x7db".toList

/-- A field with a closing brace in its name. -/
def bracedBody : List Char :=
  "field(5; \x22a\x7db\x22; FlowField) \x7b CalcFormula = Sum(Entry.Amount); \x7d".toList

/-- The formula of such a field is found, although it is behind a closing brace. -/
theorem formula?_bracedBody :
    Field.formula? bracedBody bracedName = some "Sum(Entry.Amount)".toList ∧
      ¬∃ front text behind before formula, bracedBody = front ++ text ∧
        Declares front text behind ∧ Reaches bracedName behind before formula ∧
        '\x7d' ∉ before := by
  refine ⟨by decide +kernel, ?_⟩
  rintro ⟨_, _, _, before, _, -, -, ⟨_, -, hmentioned, -⟩, hbefore⟩
  exact hbefore (hmentioned.brace_mem_iff.2 (by decide))

end ExtensionAtlas.Source
