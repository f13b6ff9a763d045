import ExtensionAtlas.Proofs.Pattern.Captures
import ExtensionAtlas.Proofs.Source.Braces
import ExtensionAtlas.Proofs.Source.Headings
import ExtensionAtlas.Proofs.Source.ProcedureRoles
import ExtensionAtlas.Proofs.Text.OddLetters
import ExtensionAtlas.Proofs.Traversal
import ExtensionAtlas.Source.File

/-! Which source texts can be parsed. A text cannot if a keyword is written with a letter beyond
ASCII, which is recognised all the same, or if the number of an object or a field has too many
digits. Nothing else stops the parser. -/

namespace ExtensionAtlas.Source

open Pattern

section Headings

open Header (Part)

/-- What the headings of some kinds capture. -/
def headingParts (kinds : List ObjectKind) : List (Part × Pattern Part) := [
  (.keyword, oneOf (kinds.map fun kind => .word kind.keyword)),
  (.number, someMost Text.isDigit),
  (.name, someMost Text.isQuotable),
  (.name, .both (.one Text.isNameStart) (.most Text.isNamePart)),
  (.base, someMost Text.isQuotable),
  (.base, .both (.one Text.isNameStart) (.most Text.isNamePart))]

theorem parts_headingPattern (isExtension : Bool) :
    (headingPattern isExtension).parts = headingParts (headingKinds isExtension) := by
  have hbare : (Pattern.both (.one Text.isNameStart) (.most Text.isNamePart) :
      Pattern Part).parts = [] := rfl
  cases isExtension <;>
    simp [headingPattern, Header.basePattern, Header.extendingPattern, Header.opening,
      Header.keyword, Header.extending, Header.implementing, Header.brace, name, quotedName,
      hbare, headingParts, headingKinds]

theorem always_headingPattern (isExtension : Bool) :
    (headingPattern isExtension).Always .keyword ∧ (headingPattern isExtension).Always .number := by
  cases isExtension <;>
    simp [headingPattern, Header.basePattern, Header.extendingPattern, Header.opening,
      Header.keyword, always_inOrder, Always]

theorem k_notMem_keyword (kind : ObjectKind) : 'k' ∉ kind.keyword.toList := by
  cases kind <;> decide

/-- All headings that are found in a source text. -/
def headings (source : List Char) : List (Match Part) :=
  Header.basePattern.all source ++ Header.extendingPattern.all source

variable {source : List Char} {m : Match Part}

theorem exists_mem_all_of_mem_headings (h : m ∈ headings source) :
    ∃ isExtension, m ∈ (headingPattern isExtension).all source :=
  (List.mem_append.1 h).elim (fun h => ⟨false, h⟩) fun h => ⟨true, h⟩

/-- The keyword of a heading stands in the text and spells the keyword of a kind of its sort. -/
theorem keyword_of_mem_all {isExtension : Bool} (h : m ∈ (headingPattern isExtension).all source) :
    m.text .keyword <:+: source ∧ ∃ kind ∈ headingKinds isExtension,
      Text.Agrees kind.keyword.toList (m.text .keyword) := by
  obtain ⟨u, v, hsource, hd⟩ := describes_text_of_mem_all (always_headingPattern isExtension).1
    (fun part hpart => by simpa [parts_headingPattern, headingParts] using hpart) h
  obtain ⟨p, hp, hword⟩ := describes_oneOf.1 hd
  obtain ⟨kind, hkind, rfl⟩ := List.mem_map.1 hp
  exact ⟨⟨u, v, hsource.symm⟩, kind, hkind, describes_letters.1 hword⟩

theorem keyword_of_mem_headings (h : m ∈ headings source) : m.text .keyword <:+: source ∧
    ∃ kind : ObjectKind, Text.Agrees kind.keyword.toList (m.text .keyword) := by
  obtain ⟨isExtension, hm⟩ := exists_mem_all_of_mem_headings h
  obtain ⟨hsource, kind, -, hspells⟩ := keyword_of_mem_all hm
  exact ⟨hsource, kind, hspells⟩

/-- The number of a heading stands in the text and is made of digits. -/
theorem number_of_mem_headings (h : m ∈ headings source) : m.text .number <:+: source ∧
    ∀ c ∈ m.text .number, Text.isDigit c = true := by
  obtain ⟨isExtension, hm⟩ := exists_mem_all_of_mem_headings h
  obtain ⟨u, v, hsource, hd⟩ := describes_text_of_mem_all (always_headingPattern isExtension).2
    (fun part hpart => by simpa [parts_headingPattern, headingParts] using hpart) hm
  exact ⟨⟨u, v, hsource.symm⟩, (describes_someMost.1 hd).2⟩

/-- Beyond ASCII, a keyword can only be written with the letters that are taken for Latin ones. -/
theorem mem_oddLetters_of_mem_keyword (h : m ∈ headings source) {c : Char}
    (hc : c ∈ m.text .keyword) (hbeyond : 128 ≤ c.toNat) : c ∈ Text.oddLetters := by
  obtain ⟨-, kind, hspells⟩ := keyword_of_mem_headings h
  obtain ⟨wanted, hwanted, hagrees⟩ := exists_left_of_mem hspells hc
  have hk : wanted ≠ 'k' := fun heq => k_notMem_keyword kind (heq ▸ hwanted)
  exact Text.mem_oddLetters_of_agrees (small_keyword kind wanted hwanted) hk hbeyond hagrees

/-- A keyword of ASCII letters is that of the kind that it spells. -/
theorem ofKeyword?_lower {kind : ObjectKind} {text : List Char}
    (hascii : ∀ c ∈ text, c.toNat < 128) (hspells : Text.Agrees kind.keyword.toList text) :
    ObjectKind.ofKeyword? (String.ofList (Text.lower text)) = some kind := by
  rw [Text.lower_of_ascii hascii, Text.map_toLower_of_agrees (small_keyword kind) hascii hspells,
    String.ofList_toList, ObjectKind.ofKeyword?_keyword]

/-- The keyword of a heading is lowered to that of a kind exactly if it is ASCII. -/
theorem exists_ofKeyword?_iff (h : m ∈ headings source) :
    (∃ kind, ObjectKind.ofKeyword? (String.ofList (Text.lower (m.text .keyword))) = some kind) ↔
      ∀ c ∈ m.text .keyword, c.toNat < 128 := by
  obtain ⟨-, kind, hspells⟩ := keyword_of_mem_headings h
  constructor
  · rintro ⟨found, hfound⟩ c hc
    by_contra hbeyond
    have hlowered : found.keyword.toList = Text.lower (m.text .keyword) := by
      have hsame := List.find?_some hfound
      rw [beq_iff_eq] at hsame
      rw [hsame, String.toList_ofList]
    obtain ⟨d, hd, hd'⟩ :=
      Text.exists_mem_lower hc (mem_oddLetters_of_mem_keyword h hc (Nat.not_lt.1 hbeyond))
    have hsmall := Text.toNat_lt_of_isLower (small_keyword found d (hlowered ▸ hd))
    omega
  · intro hascii
    exact ⟨kind, ofKeyword?_lower hascii hspells⟩

theorem exists_readNumeral_iff {digits : List Char} :
    (∃ number, Text.readNumeral digits = .ok number) ↔ digits.length ≤ Text.numeralLimit := by
  rw [Text.readNumeral]
  by_cases hlong : digits.length > Text.numeralLimit
  · simp [hlong]
  · simp [hlong, Nat.not_lt.1 hlong]

/-- A row of digits of any script writes a number with no more digits. -/
theorem numeralValue_lt {digits : List Char} (h : ∀ c ∈ digits, Text.isDigit c = true) :
    Text.numeralValue digits < 10 ^ digits.length := by
  have hdigit (c : Char) (hc : Text.isDigit c = true) : Text.digitValue c < 10 := by
    rw [Text.isDigit] at hc
    rw [Text.digitValue]
    split at hc
    · next hascii =>
        simp only [Char.isDigit, Bool.and_eq_true, decide_eq_true_eq, UInt32.le_iff_toNat_le] at hc
        have hlast : c.toNat ≤ 57 := hc.2
        rw [if_pos hascii]
        omega
    · next hbeyond =>
        rw [if_neg hbeyond]
        exact Nat.mod_lt _ (by decide)
  have hfold (digits : List Char) (h : ∀ c ∈ digits, Text.isDigit c = true) (value : Nat) :
      digits.foldl (fun value c => value * 10 + Text.digitValue c) value <
        (value + 1) * 10 ^ digits.length := by
    induction digits generalizing value with
    | nil => simp
    | cons c digits ih =>
        rw [List.forall_mem_cons] at h
        calc digits.foldl _ (value * 10 + Text.digitValue c)
            < (value * 10 + Text.digitValue c + 1) * 10 ^ digits.length := ih h.2 _
          _ ≤ ((value + 1) * 10) * 10 ^ digits.length :=
            Nat.mul_le_mul_right _ (by have := hdigit c h.1; omega)
          _ = (value + 1) * 10 ^ (c :: digits).length := by
            rw [List.length_cons, Nat.pow_succ]
            ring
  simpa [Text.numeralValue] using hfold digits h 0

/-- A number that was read from a numeral can be written again. -/
theorem isWritable_of_readNumeral {digits : List Char} (h : ∀ c ∈ digits, Text.isDigit c = true)
    {number : Nat} (hread : Text.readNumeral digits = .ok number) : Text.IsWritable number := by
  have hshort := exists_readNumeral_iff.1 ⟨number, hread⟩
  rw [Text.readNumeral, if_neg (Nat.not_lt.2 hshort)] at hread
  cases hread
  refine Nat.toDigits_length 10 _ _ (by decide) ?_
  exact (numeralValue_lt h).trans_le (Nat.pow_le_pow_right (by decide) hshort)

/-- What is read from a heading: its keyword has to be that of a kind, and its number a numeral. -/
theorem ofMatch_eq_ok_iff {header : Header} : Header.ofMatch m = .ok header ↔ ∃ kind id,
    ObjectKind.ofKeyword? (String.ofList (Text.lower (m.text .keyword))) = some kind ∧
    Text.readNumeral (m.text .number) = .ok id ∧
    header = ⟨kind, id, Header.nameOf (m.text .name), (m.text? .base).map Header.nameOf,
      m.stop.offset⟩ := by
  rw [Header.ofMatch]
  cases ObjectKind.ofKeyword? (String.ofList (Text.lower (m.text .keyword))) with
  | none => simp
  | some kind => cases Text.readNumeral (m.text .number) <;> simp [eq_comm]

/-- A heading can be read exactly if its keyword is ASCII and its number is not too long. -/
theorem exists_ofMatch_iff (h : m ∈ headings source) : (∃ header, Header.ofMatch m = .ok header) ↔
    (∀ c ∈ m.text .keyword, c.toNat < 128) ∧ (m.text .number).length ≤ Text.numeralLimit := by
  rw [← exists_ofKeyword?_iff h, ← exists_readNumeral_iff]
  simp only [ofMatch_eq_ok_iff]
  constructor
  · rintro ⟨header, kind, id, hkind, hid, -⟩
    exact ⟨⟨kind, hkind⟩, id, hid⟩
  · rintro ⟨⟨kind, hkind⟩, id, hid⟩
    exact ⟨_, kind, id, hkind, hid, rfl⟩

theorem bodyStart_ofMatch {header : Header} (h : Header.ofMatch m = .ok header) :
    header.bodyStart = m.stop.offset := by
  obtain ⟨kind, id, -, -, rfl⟩ := ofMatch_eq_ok_iff.1 h
  rfl

end Headings

section Fields

/-- The number of a field stands in the body and is made of digits. -/
theorem number_of_mem_fields {body : List Char} {f : Match Field.Part}
    (h : f ∈ Field.pattern.all body) :
    f.text .number <:+: body ∧ ∀ c ∈ f.text .number, Text.isDigit c = true := by
  have hbare : (Pattern.someFewest Field.isBareName : Pattern Field.Part).parts = [] := rfl
  have htype : (Pattern.someFewest Field.isTypePart : Pattern Field.Part).parts = [] := rfl
  have halways : Field.pattern.Always .number := by
    simp [Field.pattern, Field.opening, always_inOrder, Always]
  have hone (part : Pattern Field.Part) (hpart : (.number, part) ∈ Field.pattern.parts) :
      part = someMost Text.isDigit := by
    simpa [Field.pattern, Field.opening, quotedName, hbare, htype] using hpart
  obtain ⟨u, v, hbody, hd⟩ := describes_text_of_mem_all halways hone h
  exact ⟨⟨u, v, hbody.symm⟩, (describes_someMost.1 hd).2⟩

/-- A field can be read exactly if its number is not too long. -/
theorem exists_fieldOfMatch_iff {body : List Char} {f : Match Field.Part} :
    (∃ field, Field.ofMatch body f = .ok field) ↔
      (f.text .number).length ≤ Text.numeralLimit := by
  rw [← exists_readNumeral_iff, Field.ofMatch]
  cases Text.readNumeral (f.text .number) <;> simp

/-- An object can be read exactly if the numbers of its fields are not too long. -/
theorem exists_ofBody_iff {header : Header} {body : List Char} :
    (∃ o, Object.ofBody header body = .ok o) ↔
      ∀ f ∈ Field.pattern.all body, (f.text .number).length ≤ Text.numeralLimit := by
  have hfields : (∃ o, Object.ofBody header body = .ok o) ↔
      ∃ fields, Field.scan body = .ok fields := by
    rw [Object.ofBody]
    cases Field.scan body <;> simp
  rw [hfields, Field.scan, exists_mapM_eq_ok_iff]
  exact forall₂_congr fun f _ => exists_fieldOfMatch_iff

end Fields

/-- A source text whose headings have keywords of ASCII letters, and whose objects and fields have
numbers that are not too long. -/
structure Legible (source : List Char) : Prop where
  keyword_ascii : ∀ m ∈ headings source, ∀ c ∈ m.text .keyword, c.toNat < 128
  number_short : ∀ m ∈ headings source, (m.text .number).length ≤ Text.numeralLimit
  field_short : ∀ m ∈ headings source, ∀ f ∈ Field.pattern.all (body source m.stop.offset),
    (f.text .number).length ≤ Text.numeralLimit

/-- The objects of a source text can be read exactly if it is legible. -/
theorem exists_scan_iff {source : List Char} :
    (∃ objects, Object.scan source = .ok objects) ↔ Legible source := by
  have hheaders : (∃ headers, Header.scan source = .ok headers) ↔ ∀ m ∈ headings source,
      (∀ c ∈ m.text .keyword, c.toNat < 128) ∧
        (m.text .number).length ≤ Text.numeralLimit := by
    rw [Header.scan, exists_mapM_eq_ok_iff]
    exact forall₂_congr fun m hm => exists_ofMatch_iff hm
  have hscan : (∃ objects, Object.scan source = .ok objects) ↔
      ∃ headers, Header.scan source = .ok headers ∧ ∀ header ∈ headers,
        ∃ o, Object.ofBody header (body source header.bodyStart) = .ok o := by
    rw [Object.scan]
    cases Header.scan source with
    | error fault => simp
    | ok headers => simp [exists_mapM_eq_ok_iff]
  rw [hscan]
  constructor
  · rintro ⟨headers, hread, hbodies⟩
    have hall := hheaders.1 ⟨headers, hread⟩
    refine ⟨fun m hm => (hall m hm).1, fun m hm => (hall m hm).2, fun m hm => ?_⟩
    obtain ⟨header, hheader, hmatch⟩ := exists_right_of_mem (mapM_eq_ok_iff.1 hread) hm
    rw [← bodyStart_ofMatch hmatch]
    exact exists_ofBody_iff.1 (hbodies header hheader)
  · intro h
    obtain ⟨headers, hread⟩ := hheaders.2 fun m hm => ⟨h.keyword_ascii m hm, h.number_short m hm⟩
    refine ⟨headers, hread, fun header hheader => ?_⟩
    obtain ⟨m, hm, hmatch⟩ := exists_of_mem_mapM hread hheader
    rw [bodyStart_ofMatch hmatch]
    exact exists_ofBody_iff.2 (h.field_short m hm)

/-- A source text can be parsed exactly if it is legible. -/
theorem exists_ofSource_iff {source path : String} :
    (∃ e, Extension.ofSource source path = .ok e) ↔ Legible source.toList := by
  rw [← exists_scan_iff, Extension.ofSource]
  cases Object.scan source.toList <;> simp

/-- A text without the letters that are taken for Latin ones, and without rows of digits that are
too long to be read. -/
structure Ordinary (text : List Char) : Prop where
  odd_notMem : ∀ c ∈ Text.oddLetters, c ∉ text
  short : ∀ digits, digits <:+: text → (∀ c ∈ digits, Text.isDigit c = true) →
    digits.length ≤ Text.numeralLimit

theorem body_isInfix (source : List Char) (start : Nat) : body source start <:+: source :=
  (takeBody_isPrefix 0 _).isInfix.trans (List.drop_suffix start source).isInfix

/-- An ordinary text is legible. -/
theorem Ordinary.legible {source : List Char} (h : Ordinary source) : Legible source where
  keyword_ascii m hm c hc := by
    by_contra hbeyond
    refine h.odd_notMem c (mem_oddLetters_of_mem_keyword hm hc (Nat.not_lt.1 hbeyond)) ?_
    exact (keyword_of_mem_headings hm).1.subset hc
  number_short m hm :=
    have ⟨hpart, hdigits⟩ := number_of_mem_headings hm
    h.short _ hpart hdigits
  field_short m hm f hf :=
    have ⟨hpart, hdigits⟩ := number_of_mem_fields hf
    h.short _ (hpart.trans (body_isInfix source _)) hdigits

/-- An object is read from each heading of a source text and from the body behind it. -/
theorem forall₂_of_scan {source : List Char} {objects : List Object}
    (h : Object.scan source = .ok objects) :
    List.Forall₂ (fun m o => ∃ header, Header.ofMatch m = .ok header ∧
      Object.ofBody header (body source header.bodyStart) = .ok o) (headings source) objects := by
  obtain ⟨headers, hheaders, hbodies⟩ := Object.scan_eq_ok_iff.1 h
  exact forall₂_of_mapM_mapM hheaders hbodies

/-- Objects that were read from a source text have numbers that can be written. -/
theorem isWritable_of_ofSource {source path : String} {e : Extension}
    (h : Extension.ofSource source path = .ok e) {o : Object} (ho : o ∈ e.objects) :
    Text.IsWritable o.id := by
  obtain ⟨objects, hscan, rfl⟩ := Extension.ofSource_eq_ok_iff.1 h
  obtain ⟨m, hm, header, hheader, hbody⟩ := exists_left_of_mem (forall₂_of_scan hscan) ho
  obtain ⟨kind, id, -, hid, rfl⟩ := ofMatch_eq_ok_iff.1 hheader
  rw [Object.ofBody] at hbody
  split at hbody <;> cases hbody
  exact isWritable_of_readNumeral (number_of_mem_headings hm).2 hid

/-- Whatever else an ordinary text holds, it can be parsed, and every heading in it gives an object.
A Kelvin sign does no harm, since no keyword has a k. -/
theorem exists_ofSource_of_ordinary {source : String} (h : Ordinary source.toList) (path : String) :
    ∃ e, Extension.ofSource source path = .ok e ∧ e.path = path ∧ e.source = source ∧
      e.objects.length = (headings source.toList).length := by
  obtain ⟨objects, hscan⟩ := exists_scan_iff.2 h.legible
  rw [Extension.ofSource, hscan]
  exact ⟨_, rfl, rfl, rfl, (forall₂_of_scan hscan).length_eq.symm⟩

/-- A text of declarations without names, ends and fitting parts, one of them inside another. -/
def brokenSource : String :=
  "table 1 \x7b\n" ++ "page 99999999999999999999 P \x7b field(; ; ) field(7; F; FlowField(\n" ++
    "field(8; \x22a\x22; FlowField) CalcFormula = (\x22.;\n" ++
    "tableextension 3 \x22 \x22 extends K\u212a \x7b procedure (;) procedure p(: ;): \x22\n"

theorem exists_ofSource_brokenSource : Ordinary brokenSource.toList ∧
    ∃ e, Extension.ofSource brokenSource "" = .ok e ∧ e.path = "" ∧ e.source = brokenSource ∧
      e.objects.length = (headings brokenSource.toList).length := by
  have hordinary : Ordinary brokenSource.toList := by
    have htext : (∀ c ∈ Text.oddLetters, c ∉ brokenSource.toList) ∧
        brokenSource.toList.length ≤ Text.numeralLimit := by
      decide +kernel
    exact ⟨htext.1, fun digits hdigits _ => hdigits.length_le.trans htext.2⟩
  exact ⟨hordinary, exists_ofSource_of_ordinary hordinary ""⟩

end ExtensionAtlas.Source
