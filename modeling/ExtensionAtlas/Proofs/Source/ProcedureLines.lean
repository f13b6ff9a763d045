import ExtensionAtlas.Proofs.Source.FieldLines
import ExtensionAtlas.Proofs.Source.PrintedLines
import ExtensionAtlas.Source.Procedure

/-! Printed procedures are read back. A match starts with a keyword, a blank, and then a quote or a
name in front of an opening parenthesis, which no line of a printed field has. -/

namespace ExtensionAtlas.Source

open Pattern
open Text (Plain isBlank)

section

variable {σ β : Type} {front rest : List Char} {captures : Captures σ}
  {k : Cursor → Captures σ → Option β} {good : β → Prop}

/-- A word on its own has no word character on either side. -/
theorem edges_of_wholeWord {keyword : String} {word : List Char}
    (hsmall : Text.Small keyword.toList) (hne : keyword.toList ≠ [])
    (hascii : ∀ c ∈ word, c.toNat < 128)
    (h : (Procedure.wholeWord keyword).Describes front word rest) :
    word.map Char.toLower = keyword.toList ∧ (∀ y ∈ front.getLast?, Text.isWord y = false)
      ∧ ∀ y ∈ rest.head?, Text.isWord y = false := by
  obtain ⟨_, _, rfl, ⟨rfl, hleft⟩, part, _, rfl, hpart, _, _, rfl, ⟨rfl, hright⟩, rfl⟩ := h
  simp only [List.nil_append, List.append_nil] at hascii hleft hright hpart ⊢
  have hspells := Text.map_toLower_of_agrees hsmall hascii (describes_letters.1 hpart)
  have hword : ∀ c ∈ part, Text.isWord c = true := fun c hc =>
    Text.isWord_of_isAlpha
      (Text.isAlpha_of_toLower rfl (hsmall _ (hspells ▸ List.mem_map_of_mem hc)))
  have hpart' : part ≠ [] := by
    rintro rfl
    exact hne hspells.symm
  refine ⟨hspells, ?_, ?_⟩
  · obtain ⟨x, part', rfl⟩ := List.exists_cons_of_ne_nil hpart'
    exact not_isWord_last_of_atWordEdge (hword x List.mem_cons_self) hleft
  · rw [← List.dropLast_append_getLast hpart', ← List.append_assoc] at hright
    exact not_isWord_head_of_atWordEdge (hword _ (List.getLast_mem hpart')) hright

end

/-- What may stand behind the signature of a procedure. -/
def signatureEnd : List (Pattern Procedure.Part) :=
  [.blanks,
    .oneOf [.char ';', .char '\x7b', Procedure.wholeWord "var", Procedure.wholeWord "begin"]]

section

variable {β : Type} {front rest : List Char} {captures : Captures Procedure.Part}
  {k : Cursor → Captures Procedure.Part → Option β} {good : β → Prop}

/-- A return type is not left before its end. -/
theorem ReturnDecl.run_behind_type (r : ReturnDecl) {v w : List Char}
    (hsplit : r.type.chars = v ++ w) (hv : v ≠ []) (hw : w ≠ []) :
    (inOrder signatureEnd).run (.between (front ++ v) (w ++ ';' :: rest)) captures k = none := by
  have htail : Text.PlainTail w := .of_append v (hsplit ▸ r.type.tail)
  apply run_eq_none
  rintro stretch rest' _ htext ⟨gap, _, rfl, hgap, last, _, rfl, hlast, rfl⟩
  rw [List.append_nil, List.append_assoc] at htext
  have hmark : ';' ∉ gap := Text.not_mem_of_forall hgap (by decide)
  -- a word that is found inside the type would stand there on its own
  have hword : ∀ keyword : String, Text.Small keyword.toList → keyword.toList ≠ [] →
      ¬HasWord keyword.toList r.type.chars →
      ¬(Procedure.wholeWord keyword).Describes (front ++ v ++ gap) last rest' := by
    intro keyword hsmall hne hno hd
    have hsemicolon : ';' ∉ last := by
      obtain ⟨_, _, rfl, ⟨rfl, -⟩, part, _, rfl, hpart, _, _, rfl, ⟨rfl, -⟩, rfl⟩ := hd
      simpa using Text.not_mem_of_agrees hsmall (describes_letters.1 hpart) (by decide) (by decide)
    obtain ⟨back, hback, hrest⟩ : ∃ back, w = gap ++ last ++ back
        ∧ rest' = back ++ ';' :: rest := by
      rcases List.append_eq_append_iff.1 (htext.trans (List.append_assoc ..).symm)
        with ⟨t, ht, hrest⟩ | ⟨t, ht, hrest⟩
      · cases t with
        | nil => exact ⟨[], by simpa using ht.symm, by simpa using hrest.symm⟩
        | cons x t =>
            rw [List.cons_append, List.cons.injEq] at hrest
            have hmem : ';' ∈ gap ++ last := by
              rw [ht, hrest.1]
              exact List.mem_append_right _ List.mem_cons_self
            simp [hmark, hsemicolon] at hmem
      · exact ⟨t, ht, hrest⟩
    have hascii : ∀ c ∈ last, c.toNat < 128 := fun c hc =>
      Text.isPlainPart_ascii (htail.parts c (by simp [hback, hc]))
    obtain ⟨hspells, hleft, hright⟩ := edges_of_wholeWord hsmall hne hascii hd
    refine hno ⟨v ++ gap, last, back, by rw [hsplit, hback]; simp, hspells, ?_, ?_⟩
    · intro c hc
      apply hleft c
      rw [List.append_assoc, List.getLast?_append_of_ne_nil _ (by simp [hv])]
      exact hc
    · intro c hc
      apply hright c
      rw [hrest]
      exact List.mem_head?_append_of_mem_head? hc
  obtain ⟨p, hp, hlast⟩ := describes_oneOf.1 hlast
  simp only [List.mem_cons, List.not_mem_nil, or_false] at hp
  rcases hp with rfl | rfl | rfl | rfl
  · rw [describes_char.1 hlast] at htext
    obtain ⟨rfl, -⟩ := Text.append_mark_inj (htail.not_mem (by decide)) hmark htext
    obtain ⟨c, hc, hblank⟩ := htail.exists_not_blank hw
    rw [hgap c hc] at hblank
    cases hblank
  · rw [describes_char.1 hlast] at htext
    obtain ⟨-, hne, -⟩ := Text.append_marks_inj (htail.not_mem (by decide)) hmark htext
    cases hne
  · exact (hword "var" (by decide) (by decide) r.no_var hlast).elim
  · exact (hword "begin" (by decide) (by decide) r.no_begin hlast).elim

theorem run_signatureEnd
    (hk : ∃ r ∈ k (.between (front ++ [';']) rest) captures, good r) :
    ∃ r ∈ (inOrder signatureEnd).run (.between front (';' :: rest)) captures k, good r := by
  rw [signatureEnd, run_cons]
  apply run_blanks_nil (.cons (by decide) _)
  rw [run_cons]
  apply run_either_left
  rwa [run_char]

/-- The end of a signature with its return type, if there is one. -/
theorem run_returns (returns : Option ReturnDecl)
    (hk : ∀ stretch : Option Stretch, stretch.map Stretch.chars = returns.map (·.type.chars) →
      ∃ r ∈ k (.between (front ++ (returns.elim [] (':' :: ' ' :: ·.type.chars) ++ [';'])) rest)
        (stretch.elim captures fun s => (.returns, s) :: captures), good r) :
    ∃ r ∈ (inOrder (Pattern.optional (.inOrder [.char ':', .blanks,
        .capture .returns (.someFewest Procedure.isReturnPart)]) :: signatureEnd)).run
      (.between front (returns.elim [] (':' :: ' ' :: ·.type.chars) ++ ';' :: rest)) captures k,
      good r := by
  rw [run_cons]
  cases returns with
  | none =>
      have hcolon : (inOrder [.char ':', .blanks,
          .capture .returns (.someFewest Procedure.isReturnPart)]).run
          (.between front (';' :: rest)) captures
          (fun c captures => (inOrder signatureEnd).run c captures k) = none := by
        apply run_eq_none
        rintro stretch rest' _ htext ⟨_, _, rfl, hcolon, -⟩
        rw [describes_char.1 hcolon] at htext
        cases htext
      change ∃ r ∈ Pattern.run _ (.between front (';' :: rest)) _ _, good r
      rw [Pattern.optional, run_either_right hcolon]
      exact run_signatureEnd (hk none rfl)
  | some returns =>
      have hpart : ∀ c ∈ returns.type.chars, Procedure.isReturnPart c = true :=
        returns.type.all_of_marks (by decide)
      apply run_either_left
      change ∃ r ∈ Pattern.run _
        (.between front (':' :: ' ' :: (returns.type.chars ++ ';' :: rest))) _ _, good r
      rw [run_cons, run_char, run_cons]
      apply run_blanks_space (noBlank_plain _ _)
      rw [run_cons, run_capture]
      apply run_someFewest returns.type.ne_nil hpart
      · intro v w hsplit hv hw
        exact returns.run_behind_type hsplit hv hw
      rw [run_nil]
      apply run_signatureEnd
      have h := hk (some ⟨_, _⟩) (congrArg some (Stretch.chars_between (front ++ [':'] ++ [' '])
        returns.type.chars (';' :: rest)))
      simpa using h

/-- A text is a modifier and the blanks behind it. -/
def IsModifier (text : List Char) : Prop :=
  ∃ word ∈ EventRole.modifiers, ∃ letters gap, text = letters ++ gap
    ∧ Text.Agrees word.toList letters ∧ gap ≠ [] ∧ ∀ c ∈ gap, isBlank c = true

theorem isModifier_of_describes {front stretch rest : List Char}
    (h : (inOrder [.wordEdge, .capture Procedure.Part.modifier
      (.oneOf (EventRole.modifiers.map .word)), .someBlanks]).Describes front stretch rest) :
    IsModifier stretch := by
  obtain ⟨_, _, rfl, ⟨rfl, -⟩, letters, _, rfl, hletters, gap, _, rfl, hgap, rfl⟩ := h
  obtain ⟨p, hp, hletters⟩ := describes_oneOf.1 hletters
  obtain ⟨word, hword, rfl⟩ := List.mem_map.1 hp
  exact ⟨word, hword, letters, gap, by simp, describes_letters.1 hletters,
    describes_someMost.1 hgap⟩

theorem small_of_mem_modifiers : ∀ word ∈ EventRole.modifiers, Text.Small word.toList := by decide

theorem Modifier.keyword_mem_modifiers (m : Modifier) : m.keyword ∈ EventRole.modifiers := by
  cases m with
  | localOnly _ => exact (by decide : "local" ∈ EventRole.modifiers)
  | internalOnly _ => exact (by decide : "internal" ∈ EventRole.modifiers)

/-- The modifier of a procedure, if there is one. -/
theorem run_modifier (modifier : Option Modifier) (keyword : Text.Spelling "procedure")
    (hfront : ∀ y ∈ front.getLast?, Text.isWord y = false)
    (hk : ∀ stretch : Option Stretch, stretch.map Stretch.chars = modifier.map Modifier.letters →
      ∃ r ∈ k (.between (front ++ modifier.elim [] (·.letters ++ [' ']))
          (keyword.letters ++ ' ' :: rest))
        (stretch.elim captures fun s => (.modifier, s) :: captures), good r) :
    ∃ r ∈ (Pattern.optional (.inOrder [.wordEdge,
        .capture .modifier (.oneOf (EventRole.modifiers.map .word)), .someBlanks])).run
      (.between front (modifier.elim [] (·.letters ++ [' ']) ++ (keyword.letters ++ ' ' :: rest)))
      captures k, good r := by
  have hprocedure : Text.Small "procedure".toList := by decide
  cases modifier with
  | none =>
      have hnone : (inOrder [.wordEdge, .capture Procedure.Part.modifier
          (.oneOf (EventRole.modifiers.map .word)), .someBlanks]).run
          (.between front (keyword.letters ++ ' ' :: rest)) captures k = none := by
        apply run_eq_none
        intro stretch rest' _ htext hd
        obtain ⟨word, hword, letters, gap, rfl, hletters, hne, hgap⟩ := isModifier_of_describes hd
        obtain ⟨x, gap, rfl⟩ := List.exists_cons_of_ne_nil hne
        rw [List.append_assoc, List.cons_append] at htext
        obtain ⟨heq, -⟩ := Text.word_inj (small_of_mem_modifiers word hword) hletters
          (Text.isAlpha_of_isBlank (hgap x List.mem_cons_self)) hprocedure keyword.spells
          (by decide) (by decide) htext.symm
        rw [String.toList_inj.1 heq] at hword
        exact absurd hword (by decide)
      change ∃ r ∈ Pattern.run _ (.between front (keyword.letters ++ ' ' :: rest)) _ _, good r
      rw [Pattern.optional, run_either_right hnone]
      simpa [Pattern.run] using hk none rfl
  | some m =>
      have htext : m.letters ++ [' '] ++ (keyword.letters ++ ' ' :: rest)
          = m.spelling.letters ++ ' ' :: (keyword.letters ++ ' ' :: rest) := by
        simp [Modifier.letters]
      apply run_either_left
      change ∃ r ∈ Pattern.run _ (.between front (m.letters ++ [' '] ++ _)) _ _, good r
      rw [htext, run_cons, run_wordEdge_word m.small_keyword m.keyword_ne_nil _ hfront, run_cons,
        run_capture]
      apply run_keyword small_of_mem_modifiers m.keyword_mem_modifiers m.spelling (by decide)
        (by decide)
      · intro front text captures hsome
        obtain ⟨x, rest, htext, hx⟩ := exists_head_of_someMost hsome
        exact ⟨x, rest, htext, Text.isAlpha_of_isBlank hx⟩
      rw [run_cons]
      apply run_someBlanks_space (noBlank_spelling hprocedure (by decide) _ _)
      have h := hk (some ⟨_, _⟩) (congrArg some (Stretch.chars_between front m.letters
        (' ' :: (keyword.letters ++ ' ' :: rest))))
      simpa [Modifier.letters, run_nil] using h

end

namespace ProcedureDecl

variable (d : ProcedureDecl)

theorem matchAt_core (front rest : List Char)
    (hfront : ∀ y ∈ front.getLast?, Text.isWord y = false) :
    ∃ m ∈ Procedure.pattern.matchAt (.between front (d.core ++ rest)),
      m.stop = .between (front ++ d.core) rest
      ∧ m.text? .modifier = d.modifier.map Modifier.letters ∧ m.text .name = d.name.chars
      ∧ m.text .parameters = d.list ∧ m.text? .returns = d.returns.map (·.type.chars) := by
  have hsmall : Text.Small "procedure".toList := by decide
  have hlist : ∀ c ∈ d.list, (c != ')') = true := Text.forall_bne_iff.2
    (not_mem_intercalate_print (by decide) (by decide) (by decide) (by decide) _)
  have htext : d.core ++ rest = d.modifier.elim [] (·.letters ++ [' '])
      ++ (d.keyword.letters ++ ' ' :: (quote d.name ++ '(' :: (d.list ++ ')' ::
        (d.returns.elim [] (':' :: ' ' :: ·.type.chars) ++ ';' :: rest)))) := by
    simp [core]
  have hedge : ∀ y ∈ (front ++ d.modifier.elim [] (·.letters ++ [' '])).getLast?,
      Text.isWord y = false := by
    cases d.modifier with
    | none => simpa using hfront
    | some m =>
        intro y hy
        rw [Option.elim, ← List.append_assoc, List.getLast?_concat, Option.mem_some_iff] at hy
        subst hy
        decide
  rw [htext, matchAt, Procedure.pattern, run_cons]
  apply run_modifier _ _ hfront
  intro modifier hmodifier
  rw [run_cons, run_wordEdge_word hsmall (by decide) _ hedge, run_cons, run_word hsmall, run_cons]
  apply run_someBlanks_space (.cons (by decide) _)
  rw [run_cons]
  apply run_name
  intro name hname
  rw [run_cons]
  apply run_blanks_nil (.cons (by decide) _)
  rw [run_cons, run_char, run_cons, run_capture]
  apply run_most hlist (by rintro x ⟨⟩; decide)
  rw [run_cons, run_char, run_cons]
  apply run_blanks_nil
  · cases d.returns with
    | none => exact .cons (by decide) _
    | some r => exact .cons (by decide) _
  apply run_returns
  intro returns hreturns
  refine ⟨_, rfl, ?_, ?_, ?_, ?_, ?_⟩
  · simp [core]
  · rw [← hmodifier]
    cases returns <;> cases modifier <;> rfl
  · rw [← hname]
    cases returns <;> rfl
  · have hparameters := Stretch.chars_between (front ++ d.modifier.elim [] (·.letters ++ [' '])
      ++ d.keyword.letters ++ [' '] ++ quote d.name ++ ['(']) d.list
      (')' :: (d.returns.elim [] (':' :: ' ' :: ·.type.chars) ++ ';' :: rest))
    cases returns <;> exact hparameters
  · rw [← hreturns]
    cases returns <;> cases modifier <;> rfl

/-- A printed procedure is read back, with the role of its name. -/
theorem ofMatch_core {body : List Char} {m : Match Procedure.Part}
    (hmodifier : m.text? .modifier = d.modifier.map Modifier.letters)
    (hname : m.text .name = d.name.chars) (hparameters : m.text .parameters = d.list)
    (hreturns : m.text? .returns = d.returns.map (·.type.chars)) :
    Procedure.ofMatch body m = d.withRole (EventRole.find? body d.name.chars) := by
  have hlocal : (Text.lower (m.text .modifier) == "local".toList)
      = d.modifier.any Modifier.isLocal := by
    rw [Match.text, hmodifier]
    cases hd : d.modifier with
    | none => decide
    | some modifier =>
        rw [Option.map_some, Option.getD_some, Modifier.letters,
          modifier.spelling.lower_letters modifier.small_keyword]
        cases modifier with
        | localOnly _ => exact (by decide : ("local".toList == "local".toList) = true)
        | internalOnly _ => exact (by decide : ("internal".toList == "local".toList) = false)
  have hpresent : Procedure.presentText? (m.text? .returns) = d.returns.map (·.type.text) := by
    rw [hreturns, Procedure.presentText?]
    cases d.returns with
    | none => rfl
    | some r =>
        rw [Option.map_some, Option.getD_some, r.type.strip_chars]
        split
        next hnil => exact absurd hnil r.type.ne_nil
        next => rfl
  rw [Procedure.ofMatch, hname, d.name.strip_chars, hparameters, list,
    scan_intercalate_print, hpresent, hlocal]
  rfl

end ProcedureDecl

/-! No procedure starts in a printed field. -/

/-- A text starts with the keyword of a procedure, a name and an opening parenthesis; of a name in
quotes only the first quote is asked for. -/
def StartsProcedure (text : List Char) : Prop :=
  ∃ modifier word gap name gap' rest,
    text = modifier ++ (word ++ (gap ++ (name ++ (gap' ++ '(' :: rest))))
    ∧ (IsModifier modifier ∨ modifier = []) ∧ Text.Agrees "procedure".toList word
    ∧ gap ≠ [] ∧ (∀ c ∈ gap, isBlank c = true)
    ∧ ((∃ quoted, name = '\x22' :: quoted) ∨ ∀ c ∈ name, Text.isNamePart c = true)
    ∧ ∀ c ∈ gap', isBlank c = true

theorem startsProcedure_of_describes {front stretch rest : List Char}
    (h : Procedure.pattern.Describes front stretch rest) : StartsProcedure (stretch ++ rest) := by
  obtain ⟨modifier, _, rfl, hmodifier, _, _, rfl, ⟨rfl, -⟩, word, _, rfl, hword, gap, _, rfl, hgap,
    name, _, rfl, hname, gap', _, rfl, hgap', _, v, rfl, hparen, -⟩ := h
  obtain ⟨hne, hgap⟩ := describes_someMost.1 hgap
  rw [describes_char.1 hparen]
  exact ⟨modifier, word, gap, name, gap', v ++ rest, by simp,
    hmodifier.imp_left isModifier_of_describes, describes_letters.1 hword, hne, hgap,
    (isName_of_describes hname).imp (fun ⟨_, hquoted, _⟩ => ⟨_, hquoted⟩) And.right, hgap'⟩

theorem isAlpha_of_not_isNamePart {guard : Char} (hascii : guard.toNat < 128)
    (h : Text.isNamePart guard = false) : guard.isAlpha = false :=
  Text.of_ascii (P := fun c => Text.isNamePart c = false → c.isAlpha = false) (by decide) hascii h

theorem IsModifier.not_mem {text : List Char} (h : IsModifier text ∨ text = []) {guard : Char}
    (hascii : guard.toNat < 128) (halpha : guard.isAlpha = false) (hblank : isBlank guard = false) :
    guard ∉ text := by
  rcases h with ⟨word, hword, letters, gap, rfl, hletters, -, hgap⟩ | rfl
  · rw [List.mem_append, not_or]
    exact ⟨Text.not_mem_of_agrees (small_of_mem_modifiers word hword) hletters hascii halpha,
      Text.not_mem_of_forall hgap hblank⟩
  · exact List.not_mem_nil

namespace StartsProcedure

variable {text : List Char}

/-- The text starts with a word, and behind the word is a blank. -/
theorem exists_blank (h : StartsProcedure text) :
    ∃ word mark rest, text = word ++ mark :: rest ∧ isBlank mark = true ∧ word ≠ []
      ∧ ∀ guard : Char, guard.toNat < 128 → guard.isAlpha = false → guard ∉ word := by
  have hword : ∀ keyword : String, keyword.toList ≠ [] → Text.Small keyword.toList →
      ∀ letters gap rest : List Char, Text.Agrees keyword.toList letters → gap ≠ [] →
      (∀ c ∈ gap, isBlank c = true) →
      ∃ word mark rest', letters ++ (gap ++ rest) = word ++ mark :: rest'
        ∧ isBlank mark = true ∧ word ≠ []
        ∧ ∀ guard : Char, guard.toNat < 128 → guard.isAlpha = false → guard ∉ word := by
    intro keyword hkeyword hsmall letters gap rest hletters hne hgap
    obtain ⟨x, gap, rfl⟩ := List.exists_cons_of_ne_nil hne
    refine ⟨letters, x, gap ++ rest, rfl, hgap x List.mem_cons_self, ?_, fun guard hascii halpha =>
      Text.not_mem_of_agrees hsmall hletters hascii halpha⟩
    rintro rfl
    exact hkeyword (List.forall₂_nil_right_iff.1 hletters)
  obtain ⟨modifier, word, gap, name, gap', rest, rfl, hmodifier, hprocedure, hne, hgap, -⟩ := h
  rcases hmodifier with ⟨keyword, hkeyword, letters, gap₀, rfl, hletters, hne₀, hgap₀⟩ | rfl
  · have hne' : ∀ word ∈ EventRole.modifiers, word.toList ≠ [] := by decide
    rw [List.append_assoc]
    exact hword keyword (hne' keyword hkeyword) (small_of_mem_modifiers keyword hkeyword) letters
      gap₀ _ hletters hne₀ hgap₀
  · exact hword "procedure" (by decide) (by decide) word gap _ hprocedure hne hgap

/-- In front of the first quote or parenthesis are names and blanks only, and a blank is in front of
the quote. -/
theorem exists_mark (h : StartsProcedure text) :
    ∃ lead mark rest, text = lead ++ mark :: rest
      ∧ (mark = '(' ∨ mark = '\x22' ∧ ∃ c ∈ lead.getLast?, isBlank c = true)
      ∧ ∀ guard : Char, guard.toNat < 128 → Text.isNamePart guard = false → isBlank guard = false →
        guard ∉ lead := by
  obtain ⟨modifier, word, gap, name, gap', rest, rfl, hmodifier, hword, hne, hgap, hname,
    hgap'⟩ := h
  have hlead : ∀ guard : Char, guard.toNat < 128 → Text.isNamePart guard = false →
      isBlank guard = false → guard ∉ modifier ++ (word ++ gap) := by
    intro guard hascii hpart hblank
    have halpha := isAlpha_of_not_isNamePart hascii hpart
    rw [List.mem_append, List.mem_append, not_or, not_or]
    exact ⟨IsModifier.not_mem hmodifier hascii halpha hblank,
      Text.not_mem_of_agrees (by decide) hword hascii halpha,
      Text.not_mem_of_forall hgap hblank⟩
  rcases hname with ⟨quoted, rfl⟩ | hname
  · refine ⟨modifier ++ (word ++ gap), '\x22', quoted ++ (gap' ++ '(' :: rest), by simp,
      Or.inr ⟨rfl, gap.getLast hne, ?_, hgap _ (List.getLast_mem hne)⟩, hlead⟩
    rw [← List.append_assoc, List.getLast?_append_of_ne_nil _ hne]
    exact List.getLast?_eq_some_getLast hne
  · refine ⟨modifier ++ (word ++ gap) ++ (name ++ gap'), '(', rest, by simp, Or.inl rfl, ?_⟩
    intro guard hascii hpart hblank hmem
    rcases List.mem_append.1 hmem with hmem | hmem
    · exact hlead guard hascii hpart hblank hmem
    rcases List.mem_append.1 hmem with hmem | hmem
    · exact Text.not_mem_of_forall hname hpart hmem
    · exact Text.not_mem_of_forall hgap' hblank hmem

end StartsProcedure

theorem not_startsProcedure_nil : ¬StartsProcedure [] := by
  intro h
  obtain ⟨word, mark, rest, htext, -⟩ := h.exists_blank
  simp at htext

theorem not_startsProcedure_cons {x : Char} (hascii : x.toNat < 128) (hx : x.isAlpha = false)
    (t : List Char) : ¬StartsProcedure (x :: t) := by
  intro h
  obtain ⟨word, mark, rest, htext, -, hne, hguard⟩ := h.exists_blank
  obtain ⟨y, word, rfl⟩ := List.exists_cons_of_ne_nil hne
  rw [List.cons_append, List.cons.injEq] at htext
  exact hguard x hascii hx (htext.1 ▸ List.mem_cons_self)

theorem quiet_procedure_of_marks {marks : List Char}
    (h : ∀ c ∈ marks, c.toNat < 128 ∧ c.isAlpha = false) (rest : List Char) :
    Quiet StartsProcedure marks rest :=
  .of_forall fun c hc t => not_startsProcedure_cons (h c hc).1 (h c hc).2 t

/-- A word in front of a parenthesis is no keyword of a procedure. -/
theorem quiet_procedure_of_word {word : List Char} (h : ∀ c ∈ word, isBlank c = false)
    (rest : List Char) : Quiet StartsProcedure (word ++ ['(']) rest := by
  refine .of_guard (isBlank · = true) ?_ (by decide) (by simpa using h)
  intro t ht
  obtain ⟨word, mark, rest', htext, hmark, -, hguard⟩ := ht.exists_blank
  exact ⟨word, mark, rest', htext, hmark, hguard _ (by decide) (by decide)⟩

theorem quiet_procedure_of_guard {guard : Char} (hascii : guard.toNat < 128)
    (hpart : Text.isNamePart guard = false) (hblank : isBlank guard = false)
    (hguard : guard ≠ '(' ∧ guard ≠ '\x22') {stretch : List Char}
    (h : '(' ∉ stretch ∧ '\x22' ∉ stretch) (rest : List Char) :
    Quiet StartsProcedure (stretch ++ [guard]) rest := by
  refine .of_guard (fun c => c = '(' ∨ c = '\x22') ?_ (not_or.2 hguard) ?_
  · intro t ht
    obtain ⟨lead, mark, rest', htext, hmark, hlead⟩ := ht.exists_mark
    exact ⟨lead, mark, rest', htext, hmark.imp_right And.left, hlead guard hascii hpart hblank⟩
  · rintro c hc (rfl | rfl)
    · exact h.1 hc
    · exact h.2 hc

/-- A quoted text is no procedure: its last character is no blank. -/
theorem quiet_procedure_of_tail {tail : List Char} (h : Text.PlainTail tail) (rest : List Char) :
    Quiet StartsProcedure (tail ++ ['\x22']) rest := by
  induction tail with
  | nil => exact quiet_procedure_of_marks (by decide) _
  | cons x tail ih =>
      refine ⟨?_, ih h.of_cons⟩
      intro hstarts
      obtain ⟨lead, mark, rest', htext, hmark, hlead⟩ := hstarts.exists_mark
      have hquote : '\x22' ∉ lead := hlead _ (by decide) (by decide) (by decide)
      replace htext : x :: tail ++ '\x22' :: rest = lead ++ mark :: rest' := by
        rw [← htext]
        simp
      rcases hmark with rfl | ⟨rfl, c, hc, hblank⟩
      · obtain ⟨-, hne, -⟩ := Text.append_marks_inj (h.not_mem (by decide)) hquote htext
        cases hne
      · obtain ⟨rfl, -⟩ := Text.append_mark_inj (h.not_mem (by decide)) hquote htext
        rw [Text.isBlank_of_isPlainPart (h.parts c (List.mem_of_mem_getLast? hc)) (h.last c hc)]
          at hblank
        cases hblank

theorem FieldDecl.quiet_procedure_print (d : FieldDecl) (rest : List Char) :
    Quiet StartsProcedure d.print rest := by
  have hprint : d.print = indent ++ ((d.keyword.letters ++ ['(']) ++ ((d.number.digits ++ [';'])
      ++ ([' ', '\x22'] ++ ((d.name.chars ++ ['\x22']) ++ ([';', ' '] ++ ((d.type.chars ++ [')'])
      ++ [' ', '\x7b', ' ', '\x7d', '\n'])))))) := by
    simp [print, FieldHead.core, quote]
  have hkeyword : ∀ c ∈ d.keyword.letters, isBlank c = false := fun c hc =>
    Text.isBlank_of_isAlpha (d.keyword.isAlpha (by decide) hc)
  rw [hprint]
  exact .append (quiet_procedure_of_marks (by decide) _) <|
    .append (quiet_procedure_of_word hkeyword _) <|
    .append (quiet_procedure_of_guard (by decide) (by decide) (by decide) (by decide)
      ⟨d.number.not_mem (by decide), d.number.not_mem (by decide)⟩ _) <|
    .append (quiet_procedure_of_marks (by decide) _) <|
    .append (quiet_procedure_of_tail d.name.tail _) <|
    .append (quiet_procedure_of_marks (by decide) _) <|
    .append (quiet_procedure_of_guard (by decide) (by decide) (by decide) (by decide)
      ⟨d.type.not_mem (by decide), d.type.not_mem (by decide)⟩ _) <|
    quiet_procedure_of_marks (by decide) _

/-- A body without an opening bracket has no attribute of an event. -/
theorem find?_eq_none {body : List Char} (h : '[' ∉ body) (name : List Char) :
    EventRole.find? body name = none := by
  have hno : ∀ role, (EventRole.attributePattern role name).occursIn body = false := by
    intro role
    apply occursIn_eq_false
    rintro front rest rfl
    apply matchAt_eq_none
    rintro stretch rest' rfl ⟨bracket, _, rfl, hbracket, -⟩
    rw [describes_char.1 hbracket] at h
    simp at h
  rw [EventRole.find?, hno, hno]
  rfl

/-- The one match in the line of a printed procedure. -/
theorem ProcedureDecl.finds_print (d : ProcedureDecl) (body front rest : List Char) :
    ∃ m, Finds Procedure.pattern front d.print rest [m]
      ∧ Procedure.ofMatch body m = d.withRole (EventRole.find? body d.name.chars) := by
  obtain ⟨m, hm, hstop, hmodifier, hname, hparameters, hreturns⟩ := d.matchAt_core
    (front ++ indent) (['\n'] ++ rest) (not_isWord_last_indent front)
  have hne : d.core ≠ [] := by simp [core]
  exact ⟨m, Finds.single_of_quiet startsProcedure_of_describes
    (quiet_procedure_of_marks (by decide) _) (quiet_procedure_of_marks (by decide) _) hne hm hstop,
    d.ofMatch_core hmodifier hname hparameters hreturns⟩

/-- The procedures of a printed body are read back. -/
theorem scan_procedures (fields : List FieldDecl) (procedures : List ProcedureDecl) :
    Procedure.scan ('\n' :: (fields.flatMap FieldDecl.print
      ++ procedures.flatMap ProcedureDecl.print)) = procedures.map ProcedureDecl.procedure := by
  have hbracket : '[' ∉ '\n' :: (fields.flatMap FieldDecl.print
      ++ procedures.flatMap ProcedureDecl.print) := by
    rw [List.mem_cons, not_or]
    exact ⟨by decide, not_mem_members (by decide) (by decide) fields procedures⟩
  have hfields : ∀ rest, Quiet StartsProcedure (['\n'] ++ fields.flatMap FieldDecl.print) rest :=
    fun _ => (quiet_procedure_of_marks (by decide) _).append
      (.flatMap (fun d rest => d.quiet_procedure_print rest) fields)
  have hread (d : ProcedureDecl) (front rest : List Char) :
      ∃ m, Finds Procedure.pattern front d.print rest [m] ∧ Procedure.ofMatch ('\n' ::
        (fields.flatMap FieldDecl.print ++ procedures.flatMap ProcedureDecl.print)) m
          = d.procedure := by
    obtain ⟨m, hm, hprocedure⟩ := d.finds_print _ front rest
    rw [find?_eq_none hbracket] at hprocedure
    exact ⟨m, hm, hprocedure⟩
  have hall := forall₂_all startsProcedure_of_describes hread procedures
    (['\n'] ++ fields.flatMap FieldDecl.print) [] hfields trivial not_startsProcedure_nil
  rw [List.append_nil, List.append_assoc, List.singleton_append] at hall
  rw [← List.forall₂_eq_eq_eq, Procedure.scan, List.forall₂_map_left_iff,
    List.forall₂_map_right_iff]
  exact hall

end ExtensionAtlas.Source
