import ExtensionAtlas.Proofs.Model.Occurrences
import ExtensionAtlas.Proofs.Pattern.LeftToRight
import ExtensionAtlas.Proofs.Source.HeadingEnds
import ExtensionAtlas.Proofs.Source.WrittenNames
import ExtensionAtlas.Source.Dependency

/-! What a source text depends on. Its imports and the tables of its record variables are read from
left to right, each behind the end of the one before. All imports are listed, and behind them the
tables that are not among them, each where it is first named. -/

namespace ExtensionAtlas.Source

open Pattern
open Text (isBlank)

/-- An import starts behind `front`. It goes up to the next semicolon. -/
inductive Imports (front : List Char) : (text : List Char) → String → (behind : List Char) → Prop
  | intro {word body behind : List Char} {blank : Char}
      (alone : ∀ c ∈ front.getLast?, Text.isWord c = false)
      (agrees : Text.Agrees "using".toList word) (is_blank : isBlank blank = true)
      (ne_nil : body ≠ []) (ends : ';' ∉ body) :
      Imports front (word ++ blank :: (body ++ ';' :: behind)) (String.ofList (Text.strip body))
        behind

/-- The types of record variables. -/
def recordTypes : List String := ["Record", "RecRef", "Rec"]

/-- The type of a record variable starts behind `front`, with the name of a table, which ends as
names end. -/
inductive Records (front : List Char) : (text : List Char) → String → (behind : List Char) → Prop
  | intro {word gap written name behind : List Char} {keyword : String}
      (alone : ∀ c ∈ front.getLast?, Text.isWord c = false) (keyword_mem : keyword ∈ recordTypes)
      (agrees : Text.Agrees keyword.toList word) (is_gap : Gap gap)
      (writes : sourceNames.Writes written name) (ends : sourceNames.Ends written behind) :
      Records front (word ++ (gap ++ (written ++ behind))) (String.ofList (Text.strip name)) behind

/-- What a match names. -/
def named (m : Match Unit) : String := String.ofList (Text.strip (m.text ()))

/-- A row without blanks is known from a text that goes on with a blank. -/
theorem solid_cons_inj {token token' rest rest' : List Char} {blank blank' : Char}
    (htoken : Solid token) (htoken' : Solid token') (hblank : isBlank blank = true)
    (hblank' : isBlank blank' = true) (heq : token ++ blank :: rest = token' ++ blank' :: rest') :
    token = token' ∧ rest = rest' := by
  obtain ⟨htokens, -, hrests⟩ := Text.append_marks_inj (htoken.not_mem hblank')
    (htoken'.not_mem hblank) heq
  exact ⟨htokens, hrests⟩

/-! Imports. -/

theorem solid_of_agrees_using {word : List Char} (h : Text.Agrees "using".toList word) :
    Solid word :=
  solid_of_agrees (by decide) (by decide) h

theorem Imports.unique {front text behind behind' : List Char} {name name' : String}
    (h : Imports front text name behind) (h' : Imports front text name' behind') :
    name = name' ∧ behind = behind' := by
  generalize htext : text = text' at h'
  obtain ⟨-, hword, hblank, -, hends⟩ := h
  obtain ⟨-, hword', hblank', -, hends'⟩ := h'
  obtain ⟨-, hbodies⟩ := solid_cons_inj (solid_of_agrees_using hword)
    (solid_of_agrees_using hword') hblank hblank' htext
  obtain ⟨rfl, rfl⟩ := Text.append_mark_inj hends hends' hbodies
  exact ⟨rfl, rfl⟩

theorem offers_importPattern {front text behind : List Char} {name : String}
    (h : Imports front text name behind) : Dependency.importPattern.Offers front text := by
  obtain ⟨halone, hword, hblank, hne, hends⟩ := h
  obtain ⟨x, rest, hhead, hx⟩ :=
    Text.exists_head_of_agrees (by decide) (by decide) (by decide) hword
  refine offers_cons.2 ⟨[], _, rfl, ⟨rfl, ?_⟩, offers_cons.2 ⟨_, _, rfl, describes_letters.2 hword,
    offers_cons.2 ⟨[_], _, rfl, describes_someMost.2 ⟨List.cons_ne_nil _ _, by simpa⟩, ?_⟩⟩⟩
  · rw [hhead]
    exact atWordEdge_between halone hx
  · exact offers_cons.2 ⟨_, _, rfl, describes_someMost.2 ⟨hne, Text.forall_bne_iff.2 hends⟩,
      [';'], _, rfl, [';'], [], rfl, describes_char.2 rfl, rfl⟩

/-- The blanks behind the first one may or may not be captured, which trimming does not see. -/
theorem reads_importPattern {front stretch rest : List Char} {captures : Captures Unit}
    (h : Dependency.importPattern.Reads front stretch rest captures) :
    ∃ captured, captures = [((), captured)] ∧ stretch ≠ [] ∧
      Imports front (stretch ++ rest) (String.ofList (Text.strip captured.chars)) rest := by
  obtain ⟨_, _, _, _, rfl, rfl, ⟨⟨rfl, hedge⟩, rfl⟩, h⟩ := h
  obtain ⟨word, _, _, _, rfl, rfl, hword, h⟩ := h
  obtain ⟨gap, _, _, _, rfl, rfl, hgap, h⟩ := h
  obtain ⟨captured, _, _, _, rfl, rfl, ⟨_, rfl, hcaptured⟩, h⟩ := h
  obtain ⟨_, _, _, _, rfl, rfl, ⟨hsemicolon, rfl⟩, ⟨rfl, rfl⟩⟩ := h
  obtain rfl := describes_char.1 hsemicolon
  obtain rfl := hword.captures_eq_nil (parts_word _)
  obtain rfl := hgap.captures_eq_nil parts_someBlanks
  obtain rfl := hcaptured.captures_eq_nil (parts_someMost _)
  have hagrees : Text.Agrees "using".toList word := describes_letters.1 hword.describes
  obtain ⟨x, tail, rfl, hx⟩ :=
    Text.exists_head_of_agrees (by decide) (by decide) (by decide) hagrees
  have halone := not_isWord_last_of_atWordEdge hx hedge
  obtain ⟨hne, hends⟩ := describes_someMost.1 hcaptured.describes
  obtain ⟨hgap_ne, hblanks⟩ := describes_someMost.1 hgap.describes
  obtain ⟨blank, others, rfl⟩ := List.exists_cons_of_ne_nil hgap_ne
  obtain ⟨hblank, hothers⟩ := List.forall_mem_cons.1 hblanks
  have hbody : ';' ∉ others ++ captured := by
    simp [Text.not_mem_of_forall hothers (by decide : isBlank ';' = false),
      Text.forall_bne_iff.1 hends]
  have himports :
      Imports front (x :: tail ++ blank :: (others ++ captured ++ ';' :: rest)) _ rest :=
    .intro halone hagrees hblank (List.append_ne_nil_of_right_ne_nil others hne) hbody
  rw [Text.strip_append_of_blanks hothers] at himports
  refine ⟨_, rfl, List.cons_ne_nil _ _, ?_⟩
  simpa [Stretch.chars] using himports

theorem imports_of_matchAt {front text : List Char} {m : Match Unit}
    (h : Dependency.importPattern.matchAt (.between front text) = some m) :
    ∃ taken behind, text = taken ++ behind ∧ taken ≠ [] ∧ Imports front text (named m) behind ∧
      m.stop = .between (front ++ taken) behind := by
  obtain ⟨taken, behind, own, rfl, hreads, hm⟩ := reads_of_run h
  obtain ⟨captured, rfl, hne, himports⟩ := reads_importPattern hreads
  obtain rfl := Option.some.inj hm
  exact ⟨taken, behind, rfl, hne, himports, rfl⟩

theorem recognizes_importPattern : Dependency.importPattern.Recognizes named Imports where
  found h := by
    obtain ⟨stretch, rest, htext, hd⟩ := offers_importPattern h
    obtain ⟨m, hm⟩ := exists_matchAt hd
    rw [← htext] at hm
    obtain ⟨taken, behind, htext', hne, himports, hstop⟩ := imports_of_matchAt hm
    obtain ⟨rfl, rfl⟩ := himports.unique h
    exact ⟨m, hm, rfl, taken, htext', hne, hstop⟩
  offered h := by
    obtain ⟨stretch, rest, rfl, hd⟩ := h
    obtain ⟨m, hm⟩ := exists_matchAt hd
    obtain ⟨_, behind, -, -, himports, -⟩ := imports_of_matchAt hm
    exact ⟨_, behind, himports⟩

/-! Record variables. -/

theorem small_recordType : ∀ keyword ∈ recordTypes,
    Text.Small (keyword.toList.map Char.toLower) ∧ 'k' ∉ keyword.toList.map Char.toLower ∧
      keyword.toList.map Char.toLower ≠ [] ∧ ∀ c ∈ keyword.toList, c.toNat < 128 := by
  decide

section

variable {keyword : String} {word : List Char} (hkeyword : keyword ∈ recordTypes)
  (h : Text.Agrees keyword.toList word)

include hkeyword h

theorem solid_of_agrees_recordType : Solid word := by
  obtain ⟨hsmall, hk, -, hascii⟩ := small_recordType keyword hkeyword
  exact solid_of_agrees hsmall hk ((Text.agrees_map_toLower_iff hascii).2 h)

theorem exists_head_of_agrees_recordType :
    ∃ x rest, word = x :: rest ∧ Text.isWord x = true := by
  obtain ⟨hsmall, hk, hne, hascii⟩ := small_recordType keyword hkeyword
  exact Text.exists_head_of_agrees hsmall hk hne ((Text.agrees_map_toLower_iff hascii).2 h)

end

/-- What stands behind the type of a record variable. -/
def tableName : List (Pattern Unit) := [.someBlanks, .name ()]

theorem recordPattern_eq : Dependency.recordPattern =
    .inOrder (.wordEdge :: .oneOf (recordTypes.map .word) :: tableName) := rfl

/-- A type is followed by a blank, so it is known from the text which one it is. -/
theorem agrees_of_run_word {β : Type} {keyword : String} {front word gap rest : List Char}
    {captures : Captures Unit} {k : Cursor → Captures Unit → Option β}
    (hkeyword : keyword ∈ recordTypes) (hword : Solid word) (hgap : Gap gap)
    (h : (Pattern.word keyword).run (.between front (word ++ (gap ++ rest))) captures
      (fun c captures => (inOrder tableName).run c captures k) ≠ none) :
    Text.Agrees keyword.toList word := by
  obtain ⟨result, hresult⟩ := Option.ne_none_iff_exists'.1 h
  obtain ⟨word', rest', own, htext, hreads, hrun⟩ := reads_of_run (p := letters _) hresult
  have hword' : Text.Agrees keyword.toList word' := describes_letters.1 hreads.describes
  have hsome : (inOrder tableName).run (.between (front ++ word') rest') (own ++ captures) k ≠
      none := by
    rw [hrun]
    exact Option.some_ne_none _
  obtain ⟨blank, rest', rfl, hblank⟩ := exists_head_of_someMost hsome
  obtain ⟨hne, hblanks⟩ := hgap
  obtain ⟨blank', gap, rfl⟩ := List.exists_cons_of_ne_nil hne
  obtain ⟨rfl, -⟩ := solid_cons_inj hword (solid_of_agrees_recordType hkeyword hword')
    (hblanks blank' List.mem_cons_self) hblank htext
  exact hword'

/-- A record variable is read to the end of the name of its table. -/
theorem exists_matchAt_of_records {front text behind : List Char} {name : String}
    (h : Records front text name behind) :
    ∃ m ∈ Dependency.recordPattern.matchAt (.between front text), named m = name ∧
      ∃ taken, text = taken ++ behind ∧ taken ≠ [] ∧ m.stop = .between (front ++ taken) behind := by
  obtain @⟨word, gap, written, name, behind, keyword, halone, hkeyword, hagrees, hgap, hwrites,
    hends⟩ := h
  have hword : Solid word := solid_of_agrees_recordType hkeyword hagrees
  obtain ⟨x, tail, rfl, hx⟩ := exists_head_of_agrees_recordType hkeyword hagrees
  rw [matchAt, recordPattern_eq, run_cons, List.cons_append, run_wordEdge halone hx, run_cons,
    ← List.cons_append]
  -- every type that is read here is followed by the same name
  have hgood {keyword : String} (hagrees : Text.Agrees keyword.toList (x :: tail)) :
      ∃ m ∈ (Pattern.word keyword).run
          (.between front (x :: tail ++ (gap ++ (written ++ behind)))) []
          (fun c captures => (inOrder tableName).run c captures fun stop captures =>
            some ⟨.between front (x :: tail ++ (gap ++ (written ++ behind))), stop, captures⟩),
        named m = String.ofList (Text.strip name) ∧
          ∃ taken, x :: tail ++ (gap ++ (written ++ behind)) = taken ++ behind ∧ taken ≠ [] ∧
            m.stop = .between (front ++ taken) behind := by
    rw [Pattern.word, run_letters hagrees, tableName, run_cons]
    apply run_someMost hgap.1 hgap.2 (hwrites.noBlank behind)
    rw [run_cons, name_eq_pattern]
    apply NameForm.run_pattern hwrites hends
    intro stretch hstretch
    rw [run_nil]
    refine ⟨_, rfl, ?_, x :: tail ++ (gap ++ written), by simp, List.cons_ne_nil _ _, by simp⟩
    exact congrArg (fun text => String.ofList (Text.strip text)) hstretch
  apply run_oneOf
  · intro p hp
    obtain ⟨keyword', hkeyword', rfl⟩ := List.mem_map.1 hp
    by_cases hagrees' : Text.Agrees keyword'.toList (x :: tail)
    · exact .inr (hgood hagrees')
    · refine .inl (by_contra fun hsome => hagrees' ?_)
      exact agrees_of_run_word hkeyword' hword hgap hsome
  · exact ⟨_, List.mem_map_of_mem hkeyword, hgood hagrees⟩

/-- A pattern for names may stop within one, but where it does the whole name is there too. -/
theorem exists_records_of_offers {front text : List Char}
    (h : Dependency.recordPattern.Offers front text) :
    ∃ name behind, Records front text name behind := by
  obtain ⟨_, rest, rfl, _, _, rfl, ⟨rfl, hedge⟩, word, _, rfl, hword, gap, _, rfl, hgap, written, _,
    rfl, hwritten, rfl⟩ := h
  obtain ⟨p, hp, hword⟩ := describes_oneOf.1 hword
  obtain ⟨keyword, hkeyword, rfl⟩ := List.mem_map.1 (show p ∈ recordTypes.map .word from hp)
  have hagrees : Text.Agrees keyword.toList word := describes_letters.1 hword
  obtain ⟨x, tail, rfl, hx⟩ := exists_head_of_agrees_recordType hkeyword hagrees
  have halone := not_isWord_last_of_atWordEdge hx hedge
  rw [name_eq_pattern] at hwritten
  obtain ⟨_, hwrites⟩ := NameForm.describes_pattern_iff.1 hwritten
  obtain ⟨longest, name, behind, heq, hwrites', hends⟩ := hwrites.exists_ends rest
  have hrecords : Records front (x :: tail ++ (gap ++ (longest ++ behind))) _ behind :=
    .intro halone hkeyword hagrees (describes_someMost.1 hgap) hwrites' hends
  rw [← heq] at hrecords
  exact ⟨_, behind, by simpa using hrecords⟩

theorem recognizes_recordPattern : Dependency.recordPattern.Recognizes named Records where
  found := exists_matchAt_of_records
  offered := exists_records_of_offers

/-! The lists. -/

theorem foldl_addNew (names listed : List String) : names.foldl Dependency.addNew listed =
    listed ++ (firstOccurrences names).filter fun name => name ≠ "" ∧ name ∉ listed := by
  induction names generalizing listed with
  | nil => simp [firstOccurrences]
  | cons name names ih =>
      rw [List.foldl_cons, ih, firstOccurrences]
      by_cases hskip : name = "" ∨ name ∈ listed
      · have hstep : Dependency.addNew listed name = listed := by
          simpa [Dependency.addNew] using hskip.resolve_left
        have hout : ¬(name ≠ "" ∧ name ∉ listed) := fun h => hskip.elim h.1 h.2
        rw [hstep, List.filter_cons_of_neg (by simpa using hout), List.filter_filter]
        congr 1
        refine List.filter_congr fun x _ => ?_
        by_cases hx : x = name
        · simp [hx, hout]
        · simp [hx]
      · obtain ⟨hne, hnew⟩ := not_or.1 hskip
        have hstep : Dependency.addNew listed name = listed ++ [name] := by
          simp [Dependency.addNew, hne, hnew]
        rw [hstep, List.filter_cons_of_pos (by simp [hne, hnew]), List.filter_filter,
          List.append_assoc, List.singleton_append]
        congr 2
        refine List.filter_congr fun x _ => ?_
        by_cases hx : x = name <;> simp [hx]

/-- What a source text depends on. -/
inductive IsDependencies (source : List Char) : List String → Prop
  | intro {imports tables own : List String} (imports_in : LeftToRight Imports [] source imports)
      (tables_in : LeftToRight Records [] source tables)
      (own_of : ListsOnce (fun name => name ≠ "" ∧ name ∉ imports) tables own) :
      IsDependencies source (imports ++ own)

theorem scan_eq_iff {source : List Char} {dependencies : List String} :
    Dependency.scan source = dependencies ↔ IsDependencies source dependencies := by
  rw [Dependency.scan, foldl_addNew]
  constructor
  · rintro rfl
    exact .intro (recognizes_importPattern.map_all_eq_iff.1 rfl)
      (recognizes_recordPattern.map_all_eq_iff.1 rfl) (filter_firstOccurrences_eq_iff.1 rfl)
  · rintro ⟨himports, htables, hown⟩
    obtain rfl := recognizes_importPattern.map_all_eq_iff.2 himports
    obtain rfl := recognizes_recordPattern.map_all_eq_iff.2 htables
    obtain rfl := filter_firstOccurrences_eq_iff.2 hown
    rfl

/-- **Dependencies.** A source text depends on all that it imports, in order, and then on each other
table that its record variables name, where it is first named. Several extensions depend on what
any of them depends on, each once and where it is first listed; more extensions add what was not
listed yet. -/
theorem dependencies_in_order :
    (∀ source dependencies, Dependency.scan source = dependencies ↔
      IsDependencies source dependencies) ∧
    (∀ extensions dependencies, mergeDependencies extensions = dependencies ↔
      ListsOnce (fun _ => True) (extensions.flatMap (·.dependencies)) dependencies) ∧
    ∀ xs ys, mergeDependencies (xs ++ ys) = mergeDependencies xs ++
      (mergeDependencies ys).filter (!(mergeDependencies xs).contains ·) := by
  exact ⟨fun _ _ => scan_eq_iff, fun _ _ => mergeDependencies_eq_iff, mergeDependencies_append⟩

/-- Imports are repeated and may be blank; tables are neither. -/
example : Dependency.scan ("using  ; using Sales;\nusing Sales;\n" ++
    "a: Record Sales; b: Record \x22Sales Line\x22; c: rec \x22Sales Line \x22").toList =
      ["", "Sales", "Sales", "Sales Line"] := by decide +kernel

end ExtensionAtlas.Source
