import ExtensionAtlas.Proofs.Pattern.Scan
import ExtensionAtlas.Proofs.Source.ParameterList
import ExtensionAtlas.Proofs.Source.Tokens
import ExtensionAtlas.Proofs.Traversal
import ExtensionAtlas.Source.Field

/-! Printed fields are read back. A match starts with the keyword and an opening parenthesis, which
no other line of a printed body has. -/

namespace ExtensionAtlas.Source

open Pattern
open Text (Plain isBlank)

/-- A text starts with a keyword, blanks and a mark, and goes on behind them. -/
def Leads (keyword : String) (mark : Char) (text behind : List Char) : Prop :=
  ∃ word gap, text = word ++ (gap ++ mark :: behind) ∧ Text.Agrees keyword.toList word
    ∧ ∀ c ∈ gap, isBlank c = true

theorem describes_leads_iff {σ : Type} {keyword : String} {mark : Char}
    {front stretch rest : List Char} :
    (inOrder [word keyword, blanks, char mark] : Pattern σ).Describes front stretch rest ↔
      Leads keyword mark (stretch ++ rest) rest := by
  constructor
  · rintro ⟨word, _, rfl, hword, gap, _, rfl, hgap, _, _, rfl, hmark, rfl⟩
    rw [describes_char.1 hmark]
    exact ⟨word, gap, by simp, describes_letters.1 hword, hgap⟩
  · rintro ⟨word, gap, heq, hword, hgap⟩
    have hwhole : stretch ++ rest = word ++ (gap ++ [mark]) ++ rest := by
      rw [heq, List.append_assoc, List.append_assoc, List.singleton_append]
    exact ⟨word, _, List.append_cancel_right hwhole, describes_letters.2 hword, gap, _, rfl, hgap,
      [mark], [], rfl, describes_char.2 rfl, rfl⟩

/-- A text starts with the keyword of a field and an opening parenthesis. -/
def StartsField (text : List Char) : Prop :=
  ∃ word gap rest, text = word ++ (gap ++ '(' :: rest) ∧ Text.Agrees "field".toList word
    ∧ ∀ c ∈ gap, isBlank c = true

theorem startsField_of_opening {more : List (Pattern Field.Part)} {front stretch rest : List Char}
    (h : (inOrder (Field.opening ++ more)).Describes front stretch rest) :
    StartsField (stretch ++ rest) := by
  obtain ⟨u, v, rfl, ⟨_, _, rfl, ⟨rfl, -⟩, hopening⟩, -⟩ := describes_inOrder_append.1 h
  obtain ⟨word, gap, heq, hword, hgap⟩ := describes_leads_iff.1 hopening
  exact ⟨word, gap, v ++ rest, (List.append_assoc ..).trans heq, hword, hgap⟩

theorem startsField_of_describes {front stretch rest : List Char}
    (h : Field.pattern.Describes front stretch rest) : StartsField (stretch ++ rest) :=
  startsField_of_opening h

namespace FieldHead

variable (d : FieldHead)

/-- The type of a field is not left before its end. -/
theorem run_behind_type {σ β : Type} {front rest v w : List Char} {captures : Captures σ}
    {k : Cursor → Captures σ → Option β} (hsplit : d.type.chars = v ++ w) (hne : w ≠ []) :
    (inOrder [blanks, char ')']).run (.between front (w ++ ')' :: rest)) captures k = none := by
  have htail : Text.PlainTail w := .of_append v (hsplit ▸ d.type.tail)
  apply run_eq_none
  rintro stretch rest' _ htext ⟨gap, _, rfl, hgap, _, _, rfl, hparen, rfl⟩
  rw [describes_char.1 hparen] at htext
  have hgap' : ')' ∉ gap := Text.not_mem_of_forall hgap (by decide)
  obtain ⟨rfl, -⟩ := Text.append_mark_inj (htail.not_mem (by decide)) hgap'
    (by simpa using htext)
  obtain ⟨c, hc, hblank⟩ := htail.exists_not_blank hne
  rw [hgap c hc] at hblank
  cases hblank

theorem matchAt_core (front rest : List Char)
    (hfront : ∀ y ∈ front.getLast?, Text.isWord y = false) :
    ∃ m ∈ Field.pattern.matchAt (.between front (d.core ++ rest)),
      m.stop = .between (front ++ d.core) rest ∧ m.text .number = d.number.digits
      ∧ m.text .name = d.name.chars ∧ m.text .type = d.type.chars := by
  have hsmall : Text.Small "field".toList := by decide
  have htype : ∀ c ∈ d.type.chars, Field.isTypePart c = true := d.type.all_of_marks (by decide)
  have htext : d.core ++ rest = d.keyword.letters ++ ('(' :: (d.number.digits ++ (';' :: ' ' ::
      (quote d.name ++ (';' :: ' ' :: (d.type.chars ++ (')' :: rest))))))) := by
    simp [core]
  rw [htext, matchAt, Field.pattern, Field.opening, run_inOrder_append, run_cons,
    run_wordEdge_word hsmall (by decide) _ hfront, run_cons, run_word hsmall, run_cons]
  apply run_blanks_nil (.cons (by decide) _)
  rw [run_cons, run_char, run_nil, run_cons]
  apply run_blanks_nil (noBlank_numeral _ _)
  rw [run_cons, run_capture]
  apply run_digits _ (by rintro y ⟨⟩; decide)
  rw [run_cons]
  apply run_blanks_nil (.cons (by decide) _)
  rw [run_cons, run_char, run_cons]
  apply run_blanks_space (.cons (by decide) _)
  rw [run_cons]
  apply run_either_left
  apply run_quotedName
  intro stretch hstretch
  rw [run_cons]
  apply run_blanks_nil (.cons (by decide) _)
  rw [run_cons, run_char, run_cons]
  apply run_blanks_space (noBlank_plain _ _)
  rw [run_cons, run_capture]
  apply run_someFewest d.type.ne_nil htype
  · intro v w hsplit _ hw
    exact d.run_behind_type hsplit hw
  rw [run_cons]
  apply run_blanks_nil (.cons (by decide) _)
  rw [run_cons, run_char, run_nil]
  refine ⟨_, rfl, ?_, ?_, ?_, ?_⟩
  · simp [core]
  · exact Stretch.chars_between _ _ _
  · exact hstretch
  · exact Stretch.chars_between _ _ _

end FieldHead

namespace FieldDecl

variable (d : FieldDecl)

theorem ofMatch_core {body : List Char} {m : Match Field.Part}
    (hnumber : m.text .number = d.number.digits) (hname : m.text .name = d.name.chars)
    (htype : m.text .type = d.type.chars) : Field.ofMatch body m = .ok d.field := by
  have hstored : Field.isFlowType d.type.chars = false := by
    rw [Field.isFlowType, Bool.eq_false_iff, d.type.lower_chars]
    intro hoccurs
    exact d.stored ((Text.occursIn_iff_infix _ _).1 hoccurs)
  rw [Field.ofMatch, hnumber, hname, htype, d.number.readNumeral_digits, d.name.strip_chars,
    d.type.strip_chars, hstored]
  rfl

end FieldDecl

/-! No field starts between two printed fields or in a printed procedure. -/

theorem not_startsField_nil : ¬StartsField [] := by
  rintro ⟨word, gap, rest, htext, -⟩
  simp at htext

theorem not_startsField_cons {x : Char} (hascii : x.toNat < 128) (hx : x.isAlpha = false)
    (t : List Char) : ¬StartsField (x :: t) := by
  rintro ⟨word, gap, rest, htext, hword, -⟩
  exact Text.cons_ne_append_of_agrees (by decide) (by decide) hword hascii hx _ _ htext

/-- No field starts with another letter. -/
theorem not_startsField_of_letter {x : Char} (hx : Text.agreesUpToCase 'f' x = false)
    (t : List Char) : ¬StartsField (x :: t) := by
  rintro ⟨word, gap, rest, htext, hword, -⟩
  have hletters : Text.Agrees ('f' :: "ield".toList) word := hword
  obtain ⟨y, word, hy, -, rfl⟩ := List.forall₂_cons_left_iff.1 hletters
  rw [List.cons_append, List.cons.injEq] at htext
  rw [← htext.1, hx] at hy
  cases hy

theorem quiet_field_of_marks {marks : List Char}
    (h : ∀ c ∈ marks, c.toNat < 128 ∧ c.isAlpha = false) (rest : List Char) :
    Quiet StartsField marks rest :=
  .of_forall fun c hc t => not_startsField_cons (h c hc).1 (h c hc).2 t

theorem quiet_field_of_guard {guard : Char} (hascii : guard.toNat < 128)
    (halpha : guard.isAlpha = false) (hblank : isBlank guard = false) (hparen : guard ≠ '(')
    {stretch : List Char} (h : '(' ∉ stretch) (rest : List Char) :
    Quiet StartsField (stretch ++ [guard]) rest := by
  refine .of_guard (· = '(') ?_ hparen fun c hc hmark => h (hmark ▸ hc)
  rintro t ⟨word, gap, rest', rfl, hword, hgap⟩
  refine ⟨word ++ gap, '(', rest', (List.append_assoc ..).symm, rfl, ?_⟩
  rw [List.mem_append, not_or]
  exact ⟨Text.not_mem_of_agrees (by decide) hword hascii halpha,
    Text.not_mem_of_forall hgap hblank⟩

/-- In a procedure every opening parenthesis stands behind a quote. -/
theorem ProcedureDecl.quiet_field_print (d : ProcedureDecl) (rest : List Char) :
    Quiet StartsField d.print rest := by
  have hmodifier : '(' ∉ d.modifier.elim [] (·.letters ++ [' ']) := by
    cases d.modifier with
    | none => exact List.not_mem_nil
    | some m => simp [m.not_mem_letters]
  have hkeyword : '(' ∉ d.keyword.letters := d.keyword.not_mem (by decide) (by decide)
  have hreturns : '(' ∉ d.returns.elim [] (':' :: ' ' :: ·.type.chars) := by
    cases d.returns with
    | none => exact List.not_mem_nil
    | some r =>
        have htype : '(' ∉ r.type.chars := r.type.not_mem (by decide)
        simp [htype]
  have hprint : d.print = (indent ++ d.modifier.elim [] (·.letters ++ [' '])
      ++ d.keyword.letters ++ [' '] ++ ['\x22']) ++ ((d.name.chars ++ ['\x22']) ++ (['('] ++
      ((d.list ++ [')']) ++ ((d.returns.elim [] (':' :: ' ' :: ·.type.chars) ++ [';'])
      ++ ['\n'])))) := by
    simp [print, core, quote]
  rw [hprint]
  refine .append (quiet_field_of_guard (by decide) (by decide) (by decide) (by decide) ?_ _) <|
    .append (quiet_field_of_guard (by decide) (by decide) (by decide) (by decide) ?_ _) <|
    .append (quiet_field_of_marks (by decide) _) <|
    .append (quiet_field_of_guard (by decide) (by decide) (by decide) (by decide) ?_ _) <|
    .append (quiet_field_of_guard (by decide) (by decide) (by decide) (by decide) hreturns _) <|
    quiet_field_of_marks (by decide) _
  · simp [indent, hmodifier, hkeyword]
  · exact d.name.not_mem (by decide)
  · exact not_mem_intercalate_print (by decide) (by decide) (by decide) (by decide) _

/-- The one match in the line of a printed field. -/
theorem FieldDecl.finds_print (d : FieldDecl) (body front rest : List Char) :
    ∃ m, Finds Field.pattern front d.print rest [m] ∧ Field.ofMatch body m = .ok d.field := by
  obtain ⟨m, hm, hstop, hnumber, hname, htype⟩ := d.matchAt_core (front ++ indent)
    ([' ', '\x7b', ' ', '\x7d', '\n'] ++ rest) (not_isWord_last_indent front)
  have hne : d.core ≠ [] := by simp [FieldHead.core]
  exact ⟨m, Finds.single_of_quiet startsField_of_describes (quiet_field_of_marks (by decide) _)
    (quiet_field_of_marks (by decide) _) hne hm hstop, d.ofMatch_core hnumber hname htype⟩

/-- The fields of a printed body are read back. -/
theorem scan_fields (fields : List FieldDecl) (procedures : List ProcedureDecl) :
    Field.scan ('\n' :: (fields.flatMap FieldDecl.print ++ procedures.flatMap ProcedureDecl.print))
      = .ok (fields.map FieldDecl.field) := by
  have hstart : ∀ rest, Quiet StartsField ['\n'] rest := quiet_field_of_marks (by decide)
  have hprocedures : Quiet StartsField (procedures.flatMap ProcedureDecl.print) [] :=
    .flatMap (fun d rest => d.quiet_field_print rest) procedures
  exact mapM_eq_ok_iff.2 (List.forall₂_map_right_iff.2 (forall₂_all startsField_of_describes
    (fun d front rest => FieldDecl.finds_print d _ front rest) fields ['\n'] _ hstart hprocedures
    not_startsField_nil))

end ExtensionAtlas.Source
