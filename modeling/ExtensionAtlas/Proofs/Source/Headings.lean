import ExtensionAtlas.Proofs.Model.Vocabulary
import ExtensionAtlas.Proofs.Pattern.Scan
import ExtensionAtlas.Proofs.Source.PrintedLines
import ExtensionAtlas.Proofs.Source.Tokens
import ExtensionAtlas.Source.Header

/-! Printed headings are read back. A match starts at the start of a line with a keyword of its sort
and a space or tab, so none starts in a heading of the other sort, in a member or at a brace. -/

namespace ExtensionAtlas.Source

open Pattern
open Text (Numeral Plain Spelling isBlank)
open Header (Part)

theorem keyword_ne_nil : ∀ kind : ObjectKind, kind.keyword.toList ≠ [] := by
  intro kind
  cases kind <;> decide

/-- A text starts with blanks, the keyword of one of some kinds, and a space or tab. -/
def StartsObject (kinds : List ObjectKind) (text : List Char) : Prop :=
  ∃ gap, ∃ kind ∈ kinds, ∃ word mark rest, text = gap ++ (word ++ mark :: rest)
    ∧ (∀ c ∈ gap, isBlank c = true) ∧ Text.Agrees kind.keyword.toList word
    ∧ mark.isAlpha = false

theorem startsObject_of_describes {kinds : List ObjectKind} {more : List (Pattern Part)}
    {front stretch rest : List Char}
    (h : (inOrder (Header.opening kinds ++ more)).Describes front stretch rest) :
    AtLineStart front ∧ StartsObject kinds (stretch ++ rest) := by
  obtain ⟨_, v, rfl, hopening, -⟩ := describes_inOrder_append.1 h
  obtain ⟨_, _, rfl, ⟨rfl, hstart⟩, gap, _, rfl, hgap, word, _, rfl, hword, space, w, rfl, hspace,
    -⟩ := hopening
  obtain ⟨p, hp, hword⟩ := describes_oneOf.1 hword
  obtain ⟨kind, hkind, rfl⟩ := List.mem_map.1 hp
  obtain ⟨hne, hspace⟩ := describes_someMost.1 hspace
  obtain ⟨mark, space, rfl⟩ := List.exists_cons_of_ne_nil hne
  refine ⟨?_, gap, kind, hkind, word, mark, space ++ (w ++ (v ++ rest)), by simp, hgap,
    describes_letters.1 hword, ?_⟩
  · intro y hy
    rw [Cursor.atLineStart, Cursor.between, Option.mem_def.1 hy] at hstart
    simpa using hstart
  · have hmark := hspace mark List.mem_cons_self
    rw [Bool.or_eq_true, beq_iff_eq, beq_iff_eq] at hmark
    rcases hmark with rfl | rfl <;> decide

/-- No object starts with a mark. -/
theorem not_startsObject_of_mark (kinds : List ObjectKind) {x : Char} (hascii : x.toNat < 128)
    (halpha : x.isAlpha = false) (hblank : isBlank x = false) (t : List Char) :
    ¬StartsObject kinds (x :: t) := by
  rintro ⟨gap, kind, -, word, mark, rest, htext, hgap, hword, -⟩
  cases gap with
  | nil =>
      exact Text.cons_ne_append_of_agrees (small_keyword kind) (keyword_ne_nil kind) hword hascii
        halpha _ _ htext
  | cons y gap =>
      rw [List.cons_append, List.cons.injEq] at htext
      rw [htext.1, hgap y List.mem_cons_self] at hblank
      cases hblank

/-- A line that starts with another word starts no object. -/
theorem not_startsObject_of_word {kinds : List ObjectKind} (lead : List Char)
    (hlead : ∀ c ∈ lead, c = ' ') {keyword : String} (hsmall : Text.Small keyword.toList)
    (hne : keyword.toList ≠ []) (hother : ∀ kind ∈ kinds, kind.keyword.toList ≠ keyword.toList)
    (s : Spelling keyword) {mark : Char} (hascii : mark.toNat < 128) (hmark : mark.isAlpha = false)
    (t : List Char) : ¬StartsObject kinds (lead ++ (s.letters ++ mark :: t)) := by
  rintro ⟨gap, kind, hkind, word, mark', rest, htext, hgap, hword, hmark'⟩
  induction lead generalizing gap with
  | nil =>
      obtain ⟨x, letters, hletters⟩ := List.exists_cons_of_ne_nil (s.ne_nil hne)
      have hx : x.isAlpha = true := s.isAlpha hsmall (hletters ▸ List.mem_cons_self)
      have hnil : gap = [] :=
        Text.eq_nil_of_blanks hgap hx (htext.symm.trans (by rw [hletters]; rfl))
      rw [hnil] at htext
      exact hother kind hkind (Text.word_inj (small_keyword kind) hword hmark' hsmall
        s.spells hascii hmark htext.symm).1
  | cons x lead ih =>
      obtain ⟨hx, hlead'⟩ := List.forall_mem_cons.1 hlead
      cases gap with
      | nil =>
          rw [hx] at htext
          exact Text.cons_ne_append_of_agrees (small_keyword kind) (keyword_ne_nil kind) hword
            (by decide) (by decide) _ _ htext
      | cons y gap =>
          rw [List.cons_append, List.cons_append, List.cons.injEq] at htext
          exact ih hlead' gap htext.2 (List.forall_mem_cons.1 hgap).2

/-! The match of a heading. -/

section

variable {β : Type} {front rest : List Char} {captures : Captures Part}
  {k : Cursor → Captures Part → Option β} {good : β → Prop}

/-- The start of a heading up to the name. -/
theorem run_opening {kinds : List ObjectKind} (d : ObjectDecl) (hkind : d.kind ∈ kinds)
    (hfront : AtLineStart front)
    (hk : ∀ keyword number name : Stretch, keyword.chars = d.keyword.letters →
      number.chars = d.number.digits → name.chars = d.name.chars →
      ∃ r ∈ k (.between (front ++ d.opening) rest)
        ((.name, name) :: (.number, number) :: (.keyword, keyword) :: captures), good r) :
    ∃ r ∈ (inOrder (Header.opening kinds)).run (.between front (d.opening ++ rest)) captures k,
      good r := by
  have htext : d.opening ++ rest = d.keyword.letters ++ ' ' :: (d.number.digits ++ ' ' ::
      (quote d.name ++ rest)) := by
    simp [ObjectDecl.opening]
  have hwords : ∀ w ∈ kinds.map ObjectKind.keyword, Text.Small w.toList := by
    intro w hw
    obtain ⟨kind, -, rfl⟩ := List.mem_map.1 hw
    exact small_keyword kind
  have hspace : ∀ x ∈ (d.number.digits ++ ' ' :: (quote d.name ++ rest)).head?,
      (x == ' ' || x == '\t') = false := by
    intro x hx
    rw [List.head?_append_of_ne_nil _ d.number.ne_nil] at hx
    have hblank := d.number.not_blank x (List.mem_of_mem_head? hx)
    rw [Bool.or_eq_false_iff, beq_eq_false_iff_ne, beq_eq_false_iff_ne]
    constructor <;> rintro rfl <;> cases hblank
  rw [htext, Header.opening, run_cons, run_lineStart hfront, run_cons]
  apply run_blanks_nil (noBlank_spelling (small_keyword d.kind) (keyword_ne_nil d.kind) _ _)
  rw [run_cons, Header.keyword, run_capture]
  have hkinds : kinds.map (fun kind => word (σ := Part) kind.keyword)
      = (kinds.map ObjectKind.keyword).map word := by
    rw [List.map_map]
    rfl
  rw [hkinds]
  apply run_keyword hwords (List.mem_map_of_mem hkind) d.keyword (by decide) (by decide)
  · intro front text captures hsome
    obtain ⟨x, rest, htext, hx⟩ := exists_head_of_someMost hsome
    refine ⟨x, rest, htext, ?_⟩
    rw [Bool.or_eq_true, beq_iff_eq, beq_iff_eq] at hx
    rcases hx with rfl | rfl <;> decide
  rw [run_cons]
  apply run_someMost (u := [' ']) (by decide) (by decide) hspace
  rw [run_cons, run_capture]
  apply run_digits _ (by rintro y ⟨⟩; decide)
  rw [run_cons]
  apply run_someBlanks_space (.cons (by decide) _)
  rw [run_cons]
  apply run_name
  intro name hname
  have hopening : front ++ d.keyword.letters ++ [' '] ++ d.number.digits ++ [' '] ++ quote d.name
      = front ++ d.opening := by
    simp [ObjectDecl.opening]
  rw [run_nil, hopening]
  exact hk _ _ name (Stretch.chars_between _ _ _) (Stretch.chars_between _ _ _) hname

/-- The clause behind `extends`. -/
theorem run_extending (e : ExtendsClause)
    (hk : ∀ base : Stretch, base.chars = e.target.chars →
      ∃ r ∈ k (.between (front ++ e.print) rest) ((.base, base) :: captures), good r) :
    ∃ r ∈ Header.extending.run (.between front (e.print ++ rest)) captures k, good r := by
  have hsmall : Text.Small "extends".toList := by decide
  have htext : e.print ++ rest = ' ' :: (e.keyword.letters ++ ' ' :: (quote e.target ++ rest)) := by
    simp [ExtendsClause.print]
  rw [htext, Header.extending, run_cons]
  apply run_someBlanks_space (noBlank_spelling hsmall (by decide) _ _)
  rw [run_cons, run_word hsmall, run_cons]
  apply run_someBlanks_space (.cons (by decide) _)
  rw [run_cons]
  apply run_name
  intro base hbase
  rw [run_nil]
  simpa [ExtendsClause.print] using hk base hbase

/-- A clause is not read where its keyword and a blank do not stand. -/
theorem run_clause_eq_none {keyword : String} {more : List (Pattern Part)} {x : Char}
    (hrest : NoBlank rest)
    (hother : ∀ word mark t, rest = word ++ mark :: t → Text.Agrees keyword.toList word →
      isBlank mark = true → False) :
    (inOrder (.someBlanks :: .word keyword :: .someBlanks :: more)).run
      (.between front (x :: rest)) captures k = none := by
  apply run_eq_none
  rintro stretch rest' _ htext ⟨gap, _, rfl, hgap, word, _, rfl, hword, gap', w, rfl, hgap', -⟩
  obtain ⟨hne, hblank⟩ := describes_someMost.1 hgap
  obtain ⟨hne', hblank'⟩ := describes_someMost.1 hgap'
  obtain ⟨y, gap, rfl⟩ := List.exists_cons_of_ne_nil hne
  obtain ⟨mark, gap', rfl⟩ := List.exists_cons_of_ne_nil hne'
  simp only [List.cons_append, List.append_assoc, List.cons.injEq] at htext
  cases gap with
  | nil =>
      exact (hother word mark _ htext.2 (describes_letters.1 hword)
        (hblank' mark List.mem_cons_self)).elim
  | cons z gap =>
      have hz := hrest z (by rw [htext.2]; rfl)
      rw [hblank z (by simp)] at hz
      cases hz

/-- The brace behind a heading starts no clause. -/
theorem not_clause_of_brace {keyword : String} (hsmall : Text.Small keyword.toList)
    (hne : keyword.toList ≠ []) (t : List Char) : ∀ word mark t', '\x7b' :: t = word ++ mark :: t' →
      Text.Agrees keyword.toList word → isBlank mark = true → False := by
  rintro word mark t' htext hword -
  exact Text.cons_ne_append_of_agrees hsmall hne hword (by decide) (by decide) _ _ htext

theorem run_brace (hk : ∃ r ∈ k (.between (front ++ ['\n', '\x7b']) rest) captures, good r) :
    ∃ r ∈ (inOrder Header.brace).run (.between front ('\n' :: '\x7b' :: rest)) captures k,
      good r := by
  rw [Header.brace, run_cons]
  apply run_most (u := ['\n']) (by decide) (by rintro x ⟨⟩; decide)
  rw [run_cons, run_char, run_nil]
  simpa using hk

/-- The names of interfaces start and end with a name. -/
theorem ImplementsClause.trimmed_names (i : ImplementsClause) :
    Text.Trimmed i.names ∧ i.names ≠ [] := by
  obtain ⟨-, first, others⟩ := i
  rw [names]
  induction others generalizing first with
  | nil =>
      rw [List.map_singleton, List.intercalate_singleton]
      exact ⟨first.trimmed, first.ne_nil⟩
  | cons second others ih =>
      obtain ⟨htrimmed, hne⟩ := ih second
      rw [List.map_cons, List.map_cons, List.intercalate_cons_cons, ← List.map_cons,
        List.append_assoc]
      exact ⟨first.trimmed.surround first.ne_nil htrimmed hne _, by simp [first.ne_nil]⟩

/-- The clause behind `implements` and the brace that ends it. -/
theorem run_implementing (i : ImplementsClause)
    (hk : ∃ r ∈ k (.between (front ++ (i.print ++ ['\n', '\x7b'])) rest) captures, good r) :
    ∃ r ∈ (inOrder (Pattern.optional Header.implementing :: Header.brace)).run
      (.between front (i.print ++ '\n' :: '\x7b' :: rest)) captures k, good r := by
  have hsmall : Text.Small "implements".toList := by decide
  obtain ⟨htrimmed, hne⟩ := i.trimmed_names
  have hprint : i.print = ' ' :: (i.keyword.letters ++ ' ' :: i.names) := rfl
  rw [hprint] at hk ⊢
  have hpart : ∀ c ∈ i.names, (c != '\x7b') = true :=
    Text.forall_bne_iff.2 (i.inline_names.not_mem (by decide))
  rw [run_cons]
  apply run_either_left
  rw [List.cons_append, List.append_assoc, List.cons_append, Header.implementing, run_cons]
  apply run_someBlanks_space (noBlank_spelling hsmall (by decide) _ _)
  rw [run_cons, run_word hsmall, run_cons]
  apply run_someBlanks_space (NoBlank.append htrimmed.head hne _)
  rw [run_cons]
  apply run_fewest hpart
  · -- in front of the brace the names are not all blank
    intro v w hsplit hw
    rw [run_nil]
    apply run_eq_none
    rintro stretch rest' _ hrest ⟨gap, _, rfl, hgap, _, _, rfl, hbrace, rfl⟩
    rw [describes_char.1 hbrace] at hrest
    have hnames : '\x7b' ∉ w ++ ['\n'] := by
      have hwinline : '\x7b' ∉ w := fun hmem =>
        i.inline_names.not_mem (by decide) (hsplit ▸ List.mem_append_right v hmem)
      simp [hwinline]
    have hgap' : '\x7b' ∉ gap := Text.not_mem_of_forall hgap (by decide)
    obtain ⟨rfl, -⟩ := Text.append_mark_inj hnames hgap' (by simpa using hrest)
    have hlast := htrimmed.last (w.getLast hw) (by
      rw [hsplit, List.getLast?_append_of_ne_nil _ hw]
      exact List.getLast?_eq_some_getLast hw)
    rw [hgap _ (List.mem_append_left _ (List.getLast_mem hw))] at hlast
    cases hlast
  rw [run_nil]
  apply run_brace
  simpa using hk

/-- The clauses of an object that stands on its own, up to the brace. -/
theorem run_clauses (base : Option ExtendsClause) (interfaces : Option ImplementsClause)
    (hk : ∀ stretch : Option Stretch, stretch.map Stretch.chars = base.map (·.target.chars) →
      ∃ r ∈ k (.between (front ++ (base.elim [] ExtendsClause.print
          ++ (interfaces.elim [] ImplementsClause.print ++ ['\n', '\x7b']))) rest)
        (stretch.elim captures fun s => (.base, s) :: captures), good r) :
    ∃ r ∈ (inOrder (Pattern.optional Header.extending :: Pattern.optional Header.implementing
        :: Header.brace)).run
      (.between front (base.elim [] ExtendsClause.print
        ++ (interfaces.elim [] ImplementsClause.print ++ '\n' :: '\x7b' :: rest))) captures k,
      good r := by
  have himplements : Text.Small "implements".toList := by decide
  have hnone : ∀ {keyword : String} {more : List (Pattern Part)} {front : List Char}
      {captures : Captures Part} {k : Cursor → Captures Part → Option β},
      Text.Small keyword.toList → keyword.toList ≠ [] →
      (inOrder (.someBlanks :: .word keyword :: .someBlanks :: more)).run
        (.between front ('\n' :: '\x7b' :: rest)) captures k = none :=
    fun hsmall hne => run_clause_eq_none (.cons (by decide) _) (not_clause_of_brace hsmall hne rest)
  -- the second clause, behind whatever the first one has captured
  have hsecond : ∀ (front : List Char) (captures : Captures Part),
      (∃ r ∈ k (.between (front ++ (interfaces.elim [] ImplementsClause.print ++ ['\n', '\x7b']))
        rest) captures, good r) →
      ∃ r ∈ (inOrder (Pattern.optional Header.implementing :: Header.brace)).run
        (.between front (interfaces.elim [] ImplementsClause.print ++ '\n' :: '\x7b' :: rest))
        captures k, good r := by
    intro front captures hk
    cases interfaces with
    | none =>
        have hno : Header.implementing.run (.between front ('\n' :: '\x7b' :: rest)) captures
            (fun c captures => (inOrder Header.brace).run c captures k) = none :=
          hnone himplements (by decide)
        rw [run_cons, Pattern.optional]
        change ∃ r ∈ Pattern.run _ (.between front ('\n' :: '\x7b' :: rest)) _ _, good r
        rw [run_either_right hno]
        exact run_brace hk
    | some i => exact run_implementing i hk
  rw [run_cons]
  cases base with
  | none =>
      have hextends : Header.extending.run (.between front
          (interfaces.elim [] ImplementsClause.print ++ '\n' :: '\x7b' :: rest)) captures
          (fun c captures =>
            (inOrder (Pattern.optional Header.implementing :: Header.brace)).run c captures k)
          = none := by
        cases interfaces with
        | none => exact hnone (by decide) (by decide)
        | some i =>
            have hprint : i.print ++ '\n' :: '\x7b' :: rest = ' ' :: (i.keyword.letters ++ ' ' ::
                (i.names ++ '\n' :: '\x7b' :: rest)) := by
              simp [ImplementsClause.print]
            rw [Option.elim, hprint]
            refine run_clause_eq_none (noBlank_spelling himplements (by decide) i.keyword _) ?_
            intro word mark t htext hword hmark
            obtain ⟨heq, -⟩ := Text.word_inj (by decide) hword (Text.isAlpha_of_isBlank hmark)
              himplements i.keyword.spells (by decide) (by decide) htext.symm
            exact absurd heq (by decide)
      rw [Pattern.optional]
      change ∃ r ∈ Pattern.run _ (.between front (interfaces.elim [] ImplementsClause.print
        ++ '\n' :: '\x7b' :: rest)) _ _, good r
      rw [run_either_right hextends]
      exact hsecond front captures (hk none rfl)
  | some e =>
      apply run_either_left
      apply run_extending
      intro stretch hstretch
      apply hsecond
      simpa using hk (some stretch) (congrArg some hstretch)

end

/-- The pattern for objects that extend another one, or for those that stand on their own. -/
def headingPattern : (isExtension : Bool) → Pattern Part
  | false => Header.basePattern
  | true => Header.extendingPattern

def headingKinds : (isExtension : Bool) → List ObjectKind
  | false => ObjectKind.base
  | true => ObjectKind.extending

theorem mem_headingKinds {kind : ObjectKind} {isExtension : Bool} :
    kind ∈ headingKinds isExtension ↔ kind.isExtension = isExtension := by
  cases kind <;> cases isExtension <;> decide

theorem describes_headingPattern {isExtension : Bool} {front stretch rest : List Char}
    (h : (headingPattern isExtension).Describes front stretch rest) :
    AtLineStart front ∧ StartsObject (headingKinds isExtension) (stretch ++ rest) := by
  cases isExtension with
  | false =>
      rw [headingPattern, Header.basePattern, List.append_assoc] at h
      exact startsObject_of_describes h
  | true =>
      rw [headingPattern, Header.extendingPattern, List.append_assoc] at h
      exact startsObject_of_describes h

namespace ObjectDecl

variable (d : ObjectDecl)

theorem matchAt_heading (front rest : List Char) (hfront : AtLineStart front) :
    ∃ m ∈ (headingPattern d.kind.isExtension).matchAt (.between front (d.heading ++ rest)),
      m.stop = .between (front ++ d.heading) rest ∧ m.text .keyword = d.keyword.letters
      ∧ m.text .number = d.number.digits ∧ m.text .name = d.name.chars
      ∧ m.text? .base = d.base.map (·.target.chars) := by
  have hkind : d.kind ∈ headingKinds d.kind.isExtension := mem_headingKinds.2 rfl
  have htext : d.heading ++ rest = d.opening ++ (d.base.elim [] ExtendsClause.print
      ++ (d.interfaces.elim [] ImplementsClause.print ++ '\n' :: '\x7b' :: rest)) := by
    simp [heading]
  have hstop : front ++ d.opening ++ (d.base.elim [] ExtendsClause.print
      ++ (d.interfaces.elim [] ImplementsClause.print ++ ['\n', '\x7b'])) = front ++ d.heading :=
    List.append_assoc ..
  rw [htext, matchAt]
  cases hextension : d.kind.isExtension with
  | false =>
      rw [hextension] at hkind
      rw [headingPattern, Header.basePattern, List.append_assoc, run_inOrder_append]
      apply run_opening d hkind hfront
      intro keyword number name hkeyword hnumber hname
      apply run_clauses
      intro base hbase
      refine ⟨_, rfl, congrArg (Cursor.between · rest) hstop, ?_, ?_, ?_, ?_⟩
      · rw [← hkeyword]
        cases base <;> rfl
      · rw [← hnumber]
        cases base <;> rfl
      · rw [← hname]
        cases base <;> rfl
      · rw [← hbase]
        cases base <;> rfl
  | true =>
      rw [hextension] at hkind
      obtain ⟨e, he⟩ := Option.isSome_iff_exists.1 (d.extends_some hextension)
      rw [d.implements_none hextension, he] at hstop ⊢
      rw [headingPattern, Header.extendingPattern, List.append_assoc, run_inOrder_append]
      apply run_opening d hkind hfront
      intro keyword number name hkeyword hnumber hname
      rw [List.singleton_append, run_cons]
      apply run_extending
      intro base hbase
      apply run_brace
      refine ⟨_, rfl, ?_, hkeyword, hnumber, hname, congrArg some hbase⟩
      rw [← hstop]
      simp

theorem ofMatch_heading {front rest : List Char} {m : Match Part}
    (hstop : m.stop = .between (front ++ d.heading) rest)
    (hkeyword : m.text .keyword = d.keyword.letters) (hnumber : m.text .number = d.number.digits)
    (hname : m.text .name = d.name.chars) (hbase : m.text? .base = d.base.map (·.target.chars)) :
    Header.ofMatch m = .ok (d.header front) := by
  have hnames : (d.base.map (·.target.chars)).map Header.nameOf = d.base.map (·.target.text) := by
    cases d.base with
    | none => rfl
    | some e => exact congrArg (some ∘ String.ofList) e.target.strip_chars
  rw [Header.ofMatch, hkeyword, d.keyword.lower_letters (small_keyword d.kind),
    String.ofList_toList]
  simp only [ObjectKind.ofKeyword?_keyword, hnumber, d.number.readNumeral_digits, hname, hbase,
    hnames, hstop, Header.nameOf, d.name.strip_chars]
  rfl

end ObjectDecl

end ExtensionAtlas.Source
