import ExtensionAtlas.Proofs.Source.HeadingEnds

/-! The order and the shape of headers. Headers of objects that stand on their own come first, those
of extending objects second, and those of one sort follow the text. Each has a brace of its own sort
in front of its body, and the names in it stand on one line, without quotes and blanks around
them. -/

namespace ExtensionAtlas.Source

open Pattern

/-- Whether the character in front of an offset is an opening brace. -/
def Opens (source : List Char) (start : Nat) : Prop :=
  ∃ front rest, source = front ++ '\x7b' :: rest ∧ start = front.length + 1

theorem exists_brace_of_describes {isExtension : Bool} {front stretch rest : List Char}
    (h : (headingPattern isExtension).Describes front stretch rest) :
    ∃ text, stretch = text ++ ['\x7b'] := by
  cases isExtension with
  | false =>
      obtain ⟨-, opening, base, interfaces, gap, rfl, -⟩ := parts_of_describes_base h
      exact ⟨opening ++ (base ++ (interfaces ++ gap)), by simp⟩
  | true =>
      obtain ⟨-, opening, base, gap, rfl, -⟩ := parts_of_describes_extending h
      exact ⟨opening ++ (base ++ gap), by simp⟩

theorem opens_of_mem_all {isExtension : Bool} {source : List Char} {m : Match Header.Part}
    (h : m ∈ (headingPattern isExtension).all source) : Opens source m.stop.offset := by
  obtain ⟨front, _, rfl, hm⟩ := exists_matchAt_of_mem_all h
  obtain ⟨stretch, rest, rfl, hd, hstop⟩ := exists_stop_of_matchAt hm
  obtain ⟨text, rfl⟩ := exists_brace_of_describes hd
  exact ⟨front ++ text, rest, by simp, by rw [hstop]; simp [Nat.add_assoc]⟩

theorem kind_ofMatch {m : Match Header.Part} {header : Header} (h : Header.ofMatch m = .ok header) :
    ObjectKind.ofKeyword? (String.ofList (Text.lower (m.text .keyword))) = some header.kind := by
  obtain ⟨kind, id, hkind, -, rfl⟩ := ofMatch_eq_ok_iff.1 h
  exact hkind

/-- The headers of one sort are of kinds of that sort, and each has a brace of its own. -/
theorem headers_of_sort {isExtension : Bool} {source : List Char} {headers : List Header}
    (h : ((headingPattern isExtension).all source).mapM Header.ofMatch = .ok headers) :
    (∀ header ∈ headers, header.kind.isExtension = isExtension ∧ Opens source header.bodyStart) ∧
      headers.Pairwise (·.bodyStart < ·.bodyStart) := by
  constructor
  · intro header hheader
    obtain ⟨m, hm, hmatch⟩ := exists_of_mem_mapM h hheader
    refine ⟨?_, bodyStart_ofMatch hmatch ▸ opens_of_mem_all hm⟩
    have hheading : m ∈ headings source := by
      cases isExtension with
      | false => exact List.mem_append_left _ hm
      | true => exact List.mem_append_right _ hm
    obtain ⟨hascii, -⟩ := (exists_ofMatch_iff hheading).1 ⟨header, hmatch⟩
    obtain ⟨-, kind, hkind, hspells⟩ := keyword_of_mem_all hm
    have hsame := kind_ofMatch hmatch
    rw [ofKeyword?_lower hascii hspells] at hsame
    rw [← Option.some.inj hsame]
    exact mem_headingKinds.1 hkind
  · have hstarts : headers.map Header.bodyStart =
        ((headingPattern isExtension).all source).map (·.stop.offset) :=
      map_eq_of_mapM (fun _ _ => bodyStart_ofMatch) h
    have hne {front rest : List Char} : ¬(headingPattern isExtension).Describes front [] rest := by
      intro hd
      obtain ⟨text, htext⟩ := exists_brace_of_describes hd
      simp at htext
    rw [← List.pairwise_map, hstarts, List.pairwise_map]
    exact pairwise_all hne source

theorem exists_append_of_scan {source : List Char} {headers : List Header}
    (h : Header.scan source = .ok headers) : ∃ bases extending,
      ((headingPattern false).all source).mapM Header.ofMatch = .ok bases ∧
      ((headingPattern true).all source).mapM Header.ofMatch = .ok extending ∧
      headers = bases ++ extending := by
  rw [Header.scan, List.mapM_append] at h
  cases hbases : (Header.basePattern.all source).mapM Header.ofMatch with
  | error fault =>
      rw [hbases] at h
      cases h
  | ok bases =>
      cases hextending : (Header.extendingPattern.all source).mapM Header.ofMatch with
      | error fault =>
          rw [hbases, hextending] at h
          cases h
      | ok extending =>
          rw [hbases, hextending] at h
          exact ⟨bases, extending, hbases, hextending, (Except.ok.inj h).symm⟩

/-! The names in a header. -/

/-- A name on one line, without quotes and without blanks around it. -/
structure Clean (name : String) : Prop where
  feed_notMem : '\n' ∉ name.toList
  quote_notMem : '\x22' ∉ name.toList
  trimmed : Text.Trimmed name.toList

theorem clean_nameOf {text : List Char} (h : ∀ c ∈ text, Text.isQuotable c = true) :
    Clean (Header.nameOf text) := by
  have hstripped : ∀ c ∈ Text.strip text, Text.isQuotable c = true :=
    fun c hc => h c (Text.mem_of_mem_strip hc)
  refine ⟨?_, ?_, ?_⟩ <;> rw [Header.nameOf, String.toList_ofList]
  · exact Text.not_mem_of_forall hstripped (by decide)
  · exact Text.not_mem_of_forall hstripped (by decide)
  · exact Text.trimmed_strip text

theorem isQuotable_of_isNamePart {c : Char} (h : Text.isNamePart c = true) :
    Text.isQuotable c = true := by
  rw [Text.isQuotable, Bool.and_eq_true, bne_iff_ne, bne_iff_ne]
  constructor <;> rintro rfl <;> exact absurd h (by decide)

/-- What a heading captures as a name can stand between quotes. -/
theorem isQuotable_of_text? {isExtension : Bool} {source captured : List Char}
    {m : Match Header.Part} (hm : m ∈ (headingPattern isExtension).all source) {slot : Header.Part}
    (hslot : slot = .name ∨ slot = .base) (h : m.text? slot = some captured) :
    ∀ c ∈ captured, Text.isQuotable c = true := by
  obtain ⟨part, u, v, hpart, -, hd⟩ := exists_part_of_text? hm h
  rw [parts_headingPattern] at hpart
  have hparts : part = someMost Text.isQuotable ∨
      part = .both (.one Text.isNameStart) (.most Text.isNamePart) := by
    rcases hslot with rfl | rfl <;> simpa [headingParts] using hpart
  rcases hparts with rfl | rfl
  · exact (describes_someMost.1 hd).2
  · obtain ⟨_, rest, rfl, ⟨first, rfl, hfirst⟩, hrest⟩ := hd
    refine List.forall_mem_cons.2 ⟨isQuotable_of_isNamePart ?_, fun c hc => ?_⟩
    · rw [Text.isNamePart, hfirst, Bool.true_or]
    · exact isQuotable_of_isNamePart (hrest c hc)

/-- The names of a header are clean, and one of an extending object names what it extends. -/
theorem names_ofMatch {isExtension : Bool} {source : List Char} {m : Match Header.Part}
    {header : Header} (hm : m ∈ (headingPattern isExtension).all source)
    (h : Header.ofMatch m = .ok header) : Clean header.name ∧ (∀ base ∈ header.base, Clean base) ∧
      (isExtension = true → header.base.isSome = true) := by
  obtain ⟨kind, id, -, -, rfl⟩ := ofMatch_eq_ok_iff.1 h
  refine ⟨clean_nameOf ?_, ?_, ?_⟩
  · rw [Match.text]
    cases hname : m.text? .name with
    | none => simp
    | some name => exact isQuotable_of_text? hm (.inl rfl) hname
  · intro base hbase
    obtain ⟨captured, hcaptured, rfl⟩ := Option.map_eq_some_iff.1 hbase
    exact clean_nameOf (isQuotable_of_text? hm (.inr rfl) hcaptured)
  · rintro rfl
    have hname : (name Header.Part.base).Always .base :=
      ⟨always_inOrder.2 ⟨capture .base (someMost Text.isQuotable), by simp, .inl rfl⟩, .inl rfl⟩
    have halways : (headingPattern true).Always .base :=
      always_inOrder.2 ⟨Header.extending, by simp, always_inOrder.2 ⟨_, by simp, hname⟩⟩
    obtain ⟨captured, hcaptured⟩ := exists_text?_of_always halways hm
    simp [hcaptured]

/-- The headers of a source text are some of objects that stand on their own and, behind them, some
of extending objects, both in the order of the text. -/
theorem ordered_of_scan {source : List Char} {headers : List Header}
    (h : Header.scan source = .ok headers) :
    (∃ bases extending, headers = bases ++ extending ∧
      (∀ header ∈ bases, header.kind.isExtension = false) ∧
      (∀ header ∈ extending, header.kind.isExtension = true ∧ header.base.isSome = true) ∧
      bases.Pairwise (·.bodyStart < ·.bodyStart) ∧
      extending.Pairwise (·.bodyStart < ·.bodyStart)) ∧
    ∀ header ∈ headers, Opens source header.bodyStart ∧ Clean header.name ∧
      ∀ base ∈ header.base, Clean base := by
  obtain ⟨bases, extending, hbases, hextending, rfl⟩ := exists_append_of_scan h
  obtain ⟨hbase, hbaseStarts⟩ := headers_of_sort hbases
  obtain ⟨hextends, hextendingStarts⟩ := headers_of_sort hextending
  have hnames {isExtension : Bool} {headers : List Header}
      (h : ((headingPattern isExtension).all source).mapM Header.ofMatch = .ok headers) :
      ∀ header ∈ headers, Clean header.name ∧ (∀ base ∈ header.base, Clean base) ∧
        (isExtension = true → header.base.isSome = true) := by
    intro header hheader
    obtain ⟨m, hm, hmatch⟩ := exists_of_mem_mapM h hheader
    exact names_ofMatch hm hmatch
  refine ⟨⟨bases, extending, rfl, fun header hheader => (hbase header hheader).1,
    fun header hheader => ⟨(hextends header hheader).1, ?_⟩, hbaseStarts, hextendingStarts⟩, ?_⟩
  · exact (hnames hextending header hheader).2.2 rfl
  · intro header hheader
    rcases List.mem_append.1 hheader with hheader | hheader
    · obtain ⟨hname, hbaseName, -⟩ := hnames hbases header hheader
      exact ⟨(hbase header hheader).2, hname, hbaseName⟩
    · obtain ⟨hname, hbaseName, -⟩ := hnames hextending header hheader
      exact ⟨(hextends header hheader).2, hname, hbaseName⟩

/-- A text with headers of both sorts in turn, and with blanks in names. -/
def mixedSource : List Char :=
  ("tableextension 2 \x22 A B \x22 extends C \x7b \x7d\n" ++ "table 7 D \x7b \x7d\n" ++
    "  PageExtension 9 E extends \x22 F \x22\n\x7b \x7d\n" ++
    "page 8 \x22\x09\x22 extends G\x7b").toList

def mixedHeaders : List Header := [
  ⟨.table, 7, "D", none, 50⟩,
  ⟨.page, 8, "", some "G", 112⟩,
  ⟨.tableExtension, 2, "A B", some "C", 36⟩,
  ⟨.pageExtension, 9, "E", some "F", 88⟩]

theorem ordered_of_scan_mixed : Header.scan mixedSource = .ok mixedHeaders ∧
    (∃ bases extending, mixedHeaders = bases ++ extending ∧
      (∀ header ∈ bases, header.kind.isExtension = false) ∧
      (∀ header ∈ extending, header.kind.isExtension = true ∧ header.base.isSome = true) ∧
      bases.Pairwise (·.bodyStart < ·.bodyStart) ∧
      extending.Pairwise (·.bodyStart < ·.bodyStart)) ∧
    ∀ header ∈ mixedHeaders, Opens mixedSource header.bodyStart ∧ Clean header.name ∧
      ∀ base ∈ header.base, Clean base := by
  have hscan : Header.scan mixedSource = .ok mixedHeaders := by decide +kernel
  exact ⟨hscan, ordered_of_scan hscan⟩

end ExtensionAtlas.Source
