import ExtensionAtlas.Proofs.Source.Tokens
import ExtensionAtlas.Proofs.Text.Occurrence
import ExtensionAtlas.Source.Formula
import ExtensionAtlas.Text.Name

/-! How names are written: as they are if they are identifiers, and between double quotes if they
are other text on one line. What identifiers are made of, and whether there may be nothing between
the quotes, is a matter of the form: formulas have one, and the rest of a source text another. A
name is read to its end, which is the closing quote or the place where an identifier does not go
on. -/

namespace ExtensionAtlas.Source

open Pattern

/-- A form of names: the characters that identifiers start with, those that they go on with, and
whether a name in quotes may be empty. -/
structure NameForm where
  starts : Char → Bool
  inside : Char → Bool
  mayBeEmpty : Bool
  no_quote : starts '\x22' = false
  not_blank : ∀ {c : Char}, starts c = true → Text.isBlank c = false

namespace NameForm

variable (form : NameForm)

def IsIdentifier (text : List Char) : Prop :=
  ∃ c rest, text = c :: rest ∧ form.starts c = true ∧ ∀ d ∈ rest, form.inside d = true

/-- How a name is written. -/
inductive Writes : (written name : List Char) → Prop where
  | bare {name : List Char} (identifier : form.IsIdentifier name) : Writes name name
  | quoted {name : List Char} (no_quote : '\x22' ∉ name) (no_feed : '\n' ∉ name)
      (fits : form.mayBeEmpty = true ∨ name ≠ []) : Writes ('\x22' :: (name ++ ['\x22'])) name

/-- What is written does not go on in the rest of a text. -/
def Ends (written rest : List Char) : Prop :=
  form.IsIdentifier written → ∀ c ∈ rest.head?, form.inside c = false

/-- What may stand between the quotes of a name. -/
def quotable {σ : Type} : Pattern σ :=
  if form.mayBeEmpty then .most Text.isQuotable else .someMost Text.isQuotable

/-- A name, captured without the quotes that it may have. -/
def pattern {σ : Type} (slot : σ) : Pattern σ :=
  .either (.inOrder [.char '\x22', .capture slot form.quotable, .char '\x22'])
    (.capture slot (.both (.one form.starts) (.most form.inside)))

variable {form}

theorem forall_isQuotable_iff {text : List Char} :
    (∀ c ∈ text, Text.isQuotable c = true) ↔ '\x22' ∉ text ∧ '\n' ∉ text := by
  simp only [Text.isQuotable, Bool.and_eq_true, forall_and, Text.forall_bne_iff]

/-- An identifier is not written with quotes. -/
theorem IsIdentifier.head_ne {text : List Char} (h : form.IsIdentifier text) :
    ∀ c ∈ text.head?, c ≠ '\x22' := by
  obtain ⟨c, rest, rfl, hc, -⟩ := h
  rintro _ ⟨⟩ rfl
  rw [form.no_quote] at hc
  cases hc

/-- A name in quotes has ended. -/
theorem ends_quoted (text rest : List Char) : form.Ends ('\x22' :: text) rest :=
  fun h => absurd rfl (h.head_ne '\x22' rfl)

/-- What is written starts with a quote or with a character that starts an identifier. -/
theorem Writes.exists_head {written name : List Char} (h : form.Writes written name) :
    ∃ c tail, written = c :: tail ∧ (c = '\x22' ∨ form.starts c = true) := by
  cases h with
  | quoted hquote hfeed hfits => exact ⟨_, _, rfl, .inl rfl⟩
  | bare hidentifier =>
      obtain ⟨c, tail, rfl, hc, -⟩ := hidentifier
      exact ⟨c, tail, rfl, .inr hc⟩

theorem Writes.noBlank {written name : List Char} (h : form.Writes written name)
    (rest : List Char) : NoBlank (written ++ rest) := by
  obtain ⟨c, tail, rfl, rfl | hc⟩ := h.exists_head
  · exact .cons (by decide) _
  · exact .cons (form.not_blank hc) _

section

variable {σ β : Type} {slot : σ} {front rest written name : List Char}

theorem describes_quotable_iff : (form.quotable : Pattern σ).Describes front name rest ↔
    (form.mayBeEmpty = true ∨ name ≠ []) ∧ '\x22' ∉ name ∧ '\n' ∉ name := by
  rw [quotable, ← forall_isQuotable_iff]
  split
  · next hempty =>
    exact ⟨fun h => ⟨.inl hempty, h⟩, fun h => h.2⟩
  · next hempty =>
    rw [describes_someMost]
    simp [hempty]

theorem describes_pattern_iff :
    (form.pattern slot).Describes front written rest ↔ ∃ name, form.Writes written name := by
  constructor
  · rintro (⟨_, _, rfl, hopen, name, _, rfl, hname, _, _, rfl, hclose, rfl⟩ |
      ⟨_, tail, rfl, ⟨c, rfl, hc⟩, htail⟩)
    · obtain rfl := describes_char.1 hopen
      obtain rfl := describes_char.1 hclose
      obtain ⟨hfits, hquote, hfeed⟩ := describes_quotable_iff.1 hname
      exact ⟨name, .quoted hquote hfeed hfits⟩
    · exact ⟨_, .bare ⟨c, tail, rfl, hc, htail⟩⟩
  · rintro ⟨name, ⟨c, tail, rfl, hc, htail⟩ | ⟨hquote, hfeed, hfits⟩⟩
    · exact .inr ⟨[c], tail, rfl, ⟨c, rfl, hc⟩, htail⟩
    · exact .inl ⟨['\x22'], _, rfl, describes_char.2 rfl, name, ['\x22'], rfl,
        describes_quotable_iff.2 ⟨hfits, hquote, hfeed⟩, ['\x22'], [], rfl,
        describes_char.2 rfl, rfl⟩

/-- A name goes as far as it can. -/
theorem Writes.exists_ends (h : form.Writes written name) (rest : List Char) :
    ∃ written' name' rest', written ++ rest = written' ++ rest' ∧ form.Writes written' name' ∧
      form.Ends written' rest' := by
  cases h with
  | quoted hquote hfeed hfits =>
      exact ⟨_, name, rest, rfl, .quoted hquote hfeed hfits, ends_quoted _ _⟩
  | bare hidentifier =>
      obtain ⟨c, tail, rfl, hc, htail⟩ := hidentifier
      refine ⟨c :: tail ++ rest.takeWhile form.inside, _, rest.dropWhile form.inside, ?_,
        .bare ⟨c, tail ++ rest.takeWhile form.inside, rfl, hc, ?_⟩, fun _ d hd => ?_⟩
      · rw [List.append_assoc, List.takeWhile_append_dropWhile]
      · exact List.forall_mem_append.2 ⟨htail, fun d hd => List.mem_takeWhile_imp hd⟩
      · have hhead := List.head?_dropWhile_not form.inside rest
        rwa [Option.mem_def.1 hd] at hhead

variable {captures : Captures σ} {k : Cursor → Captures σ → Option β} {good : β → Prop}

theorem run_quotable (hfits : form.mayBeEmpty = true ∨ name ≠ []) (hquote : '\x22' ∉ name)
    (hfeed : '\n' ∉ name)
    (hk : ∃ r ∈ k (.between (front ++ name) ('\x22' :: rest)) captures, good r) :
    ∃ r ∈ form.quotable.run (.between front (name ++ '\x22' :: rest)) captures k, good r := by
  have hquotable := forall_isQuotable_iff.2 ⟨hquote, hfeed⟩
  have hstop : ∀ x ∈ ('\x22' :: rest).head?, Text.isQuotable x = false := by
    rintro x ⟨⟩
    decide
  rw [quotable]
  split
  · exact run_most hquotable hstop hk
  · next hempty => exact run_someMost (hfits.resolve_left hempty) hquotable hstop hk

/-- A name is captured as far as it goes. -/
theorem run_pattern (hwrites : form.Writes written name) (hends : form.Ends written rest)
    (hk : ∀ stretch : Stretch, stretch.chars = name →
      ∃ r ∈ k (.between (front ++ written) rest) ((slot, stretch) :: captures), good r) :
    ∃ r ∈ (form.pattern slot).run (.between front (written ++ rest)) captures k, good r := by
  cases hwrites with
  | quoted hquote hfeed hfits =>
      have htext : '\x22' :: (name ++ ['\x22']) ++ rest = '\x22' :: (name ++ '\x22' :: rest) := by
        simp
      have hfront : front ++ ['\x22'] ++ name ++ ['\x22'] =
          front ++ '\x22' :: (name ++ ['\x22']) := by
        simp
      apply run_either_left
      rw [htext, run_cons, run_char, run_cons, run_capture]
      apply run_quotable hfits hquote hfeed
      rw [run_cons, run_char, run_nil, hfront]
      exact hk _ (Stretch.chars_between _ _ _)
  | bare hidentifier =>
      have hhead := hidentifier.head_ne
      obtain ⟨c, tail, rfl, hc, htail⟩ := hidentifier
      have hno : (inOrder [char '\x22', .capture slot form.quotable, char '\x22']).run
          (.between front (c :: tail ++ rest)) captures k = none := by
        refine run_eq_none fun stretch rest' _ htext hd => ?_
        obtain ⟨_, _, rfl, hopen, -⟩ := hd
        obtain rfl := describes_char.1 hopen
        exact absurd (List.cons.inj htext).1 (hhead c rfl)
      rw [pattern, run_either_right hno, run_capture]
      change ∃ r ∈ (one form.starts).run (.between front (c :: (tail ++ rest))) captures
        (fun d captures => (most form.inside).run d captures _), good r
      rw [run_one hc]
      apply run_most htail (hends ⟨c, tail, rfl, hc, htail⟩)
      rw [List.append_assoc, List.singleton_append]
      exact hk _ (Stretch.chars_between front (c :: tail) rest)

end

end NameForm

/-- The names in formulas. -/
def formulaNames : NameForm where
  starts := Formula.isNameStart
  inside := Formula.isNamePart
  mayBeEmpty := true
  no_quote := by decide
  not_blank := isBlank_of_accepts (by decide)

theorem formulaName_eq_pattern (slot : Formula.Part) :
    Formula.name slot = formulaNames.pattern slot := rfl

/-- The names in other places of a source text. -/
def sourceNames : NameForm where
  starts := Text.isNameStart
  inside := Text.isNamePart
  mayBeEmpty := false
  no_quote := by decide
  not_blank := isBlank_of_accepts (by decide +kernel)

theorem name_eq_pattern {σ : Type} (slot : σ) : Pattern.name slot = sourceNames.pattern slot := rfl

end ExtensionAtlas.Source
