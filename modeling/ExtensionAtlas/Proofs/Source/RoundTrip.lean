import ExtensionAtlas.Proofs.Source.Headings
import ExtensionAtlas.Proofs.Source.ProcedureLines
import ExtensionAtlas.Source.File

/-! Reading a source text undoes printing. Headings are found at the starts of printed objects and
nowhere else, each body holds the members of its object, and the members are read back. -/

namespace ExtensionAtlas.Source

open Pattern

section

variable {isExtension : Bool} {front rest : List Char}

/-- No heading starts on a line that starts no object. -/
theorem finds_nil_of_not_startsObject {line : List Char} (hline : '\n' ∉ line)
    (h : ¬StartsObject (headingKinds isExtension) (line ++ '\n' :: rest)) :
    Finds (headingPattern isExtension) front (line ++ ['\n']) rest [] :=
  finds_nil_of_line (fun hd => (describes_headingPattern hd).1) hline
    (matchAt_eq_none fun _ _ htext hd => h (htext ▸ (describes_headingPattern hd).2))

/-- No heading starts at the end of a text. -/
theorem matchAt_heading_nil : (headingPattern isExtension).matchAt (.between front []) = none := by
  apply matchAt_eq_none
  intro stretch rest htext hd
  obtain ⟨gap, kind, -, word, mark, rest', heq, -⟩ := (describes_headingPattern hd).2
  rw [← htext] at heq
  simp at heq

/-- The words that a line of a body can start with. -/
def memberWords : List String := ["field", "procedure"] ++ EventRole.modifiers

theorem keyword_ne_of_mem : ∀ keyword ∈ memberWords, ∀ kind ∈ headingKinds isExtension,
    kind.keyword.toList ≠ keyword.toList := by
  cases isExtension <;> decide

theorem FieldDecl.finds_heading (d : FieldDecl) :
    Finds (headingPattern isExtension) front d.print rest [] := by
  have hprint : d.print = (indent ++ d.core ++ [' ', '\x7b', ' ', '\x7d']) ++ ['\n'] := by
    simp [print]
  have hfeed : '\n' ∉ indent ++ d.core ++ [' ', '\x7b', ' ', '\x7d'] := by
    have hcore : '\n' ∉ d.core := d.inline_core.not_mem (by decide)
    simp [indent, hcore]
  rw [hprint]
  apply finds_nil_of_not_startsObject hfeed
  rw [FieldHead.core]
  simp only [List.append_assoc, List.cons_append]
  exact not_startsObject_of_word indent (by decide) (by decide) (by decide)
    (keyword_ne_of_mem _ (by decide)) d.keyword (by decide) (by decide) _

theorem ProcedureDecl.finds_heading (d : ProcedureDecl) :
    Finds (headingPattern isExtension) front d.print rest [] := by
  have hprint : d.print = (indent ++ d.core) ++ ['\n'] := by
    simp [print]
  have hfeed : '\n' ∉ indent ++ d.core := by
    have hcore : '\n' ∉ d.core := d.inline_core.not_mem (by decide)
    simp [indent, hcore]
  rw [hprint]
  apply finds_nil_of_not_startsObject hfeed
  rw [core]
  cases d.modifier with
  | none =>
      simp only [Option.elim, List.nil_append, List.append_assoc, List.cons_append]
      exact not_startsObject_of_word indent (by decide) (by decide) (by decide)
        (keyword_ne_of_mem _ (by decide)) d.keyword (by decide) (by decide) _
  | some m =>
      have hmem : m.keyword ∈ memberWords := List.mem_append_right _ m.keyword_mem_modifiers
      simp only [Option.elim, List.append_assoc, List.cons_append, List.nil_append,
        Modifier.letters]
      exact not_startsObject_of_word indent (by decide) m.small_keyword m.keyword_ne_nil
        (keyword_ne_of_mem _ hmem) m.spelling (by decide) (by decide) _

theorem finds_heading_flatMap {ι : Type} {text : ι → List Char}
    (h : ∀ i front rest, Finds (headingPattern isExtension) front (text i) rest [])
    (items : List ι) : Finds (headingPattern isExtension) front (items.flatMap text) rest [] := by
  induction items generalizing front with
  | nil => exact .nil
  | cons i items ih => exact (h i _ _).append ih

namespace ObjectDecl

variable (d : ObjectDecl)

/-- No heading starts behind the opening brace of an object if none starts in its members. -/
theorem finds_behind_heading {members : List Char}
    (h : ∀ front rest, Finds (headingPattern isExtension) front members rest [])
    (front rest : List Char) : Finds (headingPattern isExtension) (front ++ ['\x7b'])
      ('\n' :: (members ++ ['\x7d', '\n'])) rest [] := by
  have hfeed : Finds (headingPattern isExtension) (front ++ ['\x7b']) ['\n']
      (members ++ ['\x7d', '\n'] ++ rest) [] := by
    refine .cons (matchAt_eq_none fun _ _ _ hd => ?_) .nil
    have hline := (describes_headingPattern hd).1 '\x7b' (by
      rw [List.getLast?_concat, Option.mem_some_iff])
    cases hline
  have hclose : ∀ front, Finds (headingPattern isExtension) front ['\x7d', '\n'] rest [] :=
    fun front => finds_nil_of_not_startsObject (by decide : '\n' ∉ ['\x7d'])
      (not_startsObject_of_mark _ (by decide) (by decide) (by decide) _)
  exact hfeed.append ((h _ _).append (hclose _))

theorem finds_members (front rest : List Char) :
    Finds (headingPattern isExtension) front d.members rest [] :=
  (finds_heading_flatMap (fun d _ _ => FieldDecl.finds_heading d) _).append
    (finds_heading_flatMap (fun d _ _ => ProcedureDecl.finds_heading d) _)

/-- The one match of the pattern for an object. -/
theorem finds_around_own {members : List Char}
    (h : ∀ front rest, Finds (headingPattern d.kind.isExtension) front members rest [])
    (hfront : AtLineStart front) :
    ∃ m, Finds (headingPattern d.kind.isExtension) front (d.around members) rest [m]
      ∧ Header.ofMatch m = .ok (d.header front) := by
  obtain ⟨m, hm, hstop, hkeyword, hnumber, hname, hbase⟩ := d.matchAt_heading front
    ('\n' :: (members ++ ['\x7d', '\n']) ++ rest) hfront
  have hne : d.heading ≠ [] := by simp [heading]
  have hmembers := finds_behind_heading h (front ++ (d.declaration ++ ['\n'])) rest
  have hheading : front ++ (d.declaration ++ ['\n']) ++ ['\x7b'] = front ++ d.heading := by
    simp [heading_eq]
  rw [hheading] at hmembers
  exact ⟨m, (Finds.single hne hm hstop).append hmembers,
    d.ofMatch_heading hstop hkeyword hnumber hname hbase⟩

/-- The pattern for objects of the other sort has no match. -/
theorem finds_around_other (hkind : d.kind.isExtension ≠ isExtension) {members : List Char}
    (h : ∀ front rest, Finds (headingPattern isExtension) front members rest []) :
    Finds (headingPattern isExtension) front (d.around members) rest [] := by
  have hother : ∀ kind ∈ headingKinds isExtension, kind.keyword.toList ≠ d.kind.keyword.toList := by
    intro kind hmem heq
    rw [ObjectKind.keyword_injective (String.toList_inj.1 heq)] at hmem
    exact hkind (mem_headingKinds.1 hmem)
  have hdeclaration : ∀ rest,
      Finds (headingPattern isExtension) front (d.declaration ++ ['\n']) rest [] := by
    intro rest
    apply finds_nil_of_not_startsObject (d.inline_declaration.not_mem (by decide))
    rw [declaration, opening]
    simp only [List.append_assoc, List.cons_append]
    exact not_startsObject_of_word [] (by decide) (small_keyword d.kind)
      (keyword_ne_nil d.kind) hother d.keyword (by decide) (by decide) _
  have hbrace : Finds (headingPattern isExtension) (front ++ (d.declaration ++ ['\n']))
      ('\x7b' :: '\n' :: (members ++ ['\x7d', '\n'])) rest [] := by
    refine .cons (matchAt_eq_none fun _ _ htext hd => ?_) (finds_behind_heading h ..)
    exact not_startsObject_of_mark _ (by decide) (by decide) (by decide) _
      (htext ▸ (describes_headingPattern hd).2)
  have haround : d.around members = d.declaration ++ ['\n']
      ++ '\x7b' :: '\n' :: (members ++ ['\x7d', '\n']) := by
    simp [around, heading_eq]
  rw [haround]
  exact (hdeclaration _).append hbrace

/-- A match is for an object if its heading and the body behind it are those of the object. -/
def IsMatch (source : List Char) (m : Match Header.Part) (d : ObjectDecl) : Prop :=
  ∃ header, Header.ofMatch m = .ok header
    ∧ Object.ofBody header (body source header.bodyStart) = .ok d.object

theorem finds_print_own (hfront : AtLineStart front) :
    ∃ m, Finds (headingPattern d.kind.isExtension) front d.print rest [m]
      ∧ IsMatch (front ++ (d.print ++ rest)) m d := by
  obtain ⟨m, hm, hheader⟩ : ∃ m, Finds (headingPattern d.kind.isExtension) front d.print rest [m]
      ∧ Header.ofMatch m = .ok (d.header front) := d.finds_around_own d.finds_members hfront
  refine ⟨m, hm, d.header front, hheader, ?_⟩
  have hbody : body (front ++ (d.print ++ rest)) (d.header front).bodyStart = '\n' :: d.members :=
    d.body_around d.balanced_members front rest
  simp only [Object.ofBody, hbody, members, scan_fields, scan_procedures]
  rfl

theorem finds_print_other (h : d.kind.isExtension ≠ isExtension) :
    Finds (headingPattern isExtension) front d.print rest [] :=
  d.finds_around_other h d.finds_members

/-- A line starts behind a printed object. -/
theorem atLineStart_print : AtLineStart (front ++ d.print) := by
  have hprint : d.print = d.heading ++ '\n' :: (d.members ++ ['\x7d']) ++ ['\n'] := by
    simp [print]
  rw [hprint, ← List.append_assoc]
  intro y hy
  rw [List.getLast?_concat, Option.mem_some_iff] at hy
  exact hy.symm

end ObjectDecl

end

/-- The pattern of each sort finds the printed objects of that sort, in order. -/
theorem exists_matches (isExtension : Bool) (objects : List ObjectDecl) :
    List.Forall₂ (ObjectDecl.IsMatch (print objects))
      ((headingPattern isExtension).all (print objects))
      (objects.filter (·.kind.isExtension == isExtension)) := by
  obtain ⟨found, hfound, hmatches⟩ : ∃ found,
      Finds (headingPattern isExtension) [] (objects.flatMap ObjectDecl.print) [] found
      ∧ List.Forall₂ (ObjectDecl.IsMatch (print objects)) found
        (objects.flatMap fun d => if d.kind.isExtension == isExtension then [d] else []) :=
    finds_flatMap _ (fun front rest => AtLineStart front ∧ front ++ rest = print objects)
      (by
        rintro d front rest ⟨hfront, hsource⟩
        by_cases h : d.kind.isExtension = isExtension
        · obtain ⟨m, hm, hmatch⟩ := d.finds_print_own hfront
          rw [hsource] at hmatch
          subst h
          exact ⟨[m], hm, by simpa using hmatch⟩
        · exact ⟨[], d.finds_print_other h, by simp [h]⟩)
      (by
        rintro d front rest ⟨-, hsource⟩
        exact ⟨d.atLineStart_print, by rwa [List.append_assoc]⟩)
      objects ⟨by simp [AtLineStart], by rw [List.append_nil]; rfl⟩
  have hall : (headingPattern isExtension).all (print objects) = found :=
    all_eq_of_finds hfound matchAt_heading_nil
  have hfilter : objects.flatMap (fun d => if d.kind.isExtension == isExtension then [d] else [])
      = objects.filter (·.kind.isExtension == isExtension) := by
    rw [← List.filterMap_eq_filter, List.filterMap_eq_flatMap_toList]
    refine List.flatMap_congr fun d _ => ?_
    by_cases h : d.kind.isExtension = isExtension <;> simp [h, Option.guard]
  rw [hall, ← hfilter]
  exact hmatches

/-- Objects are read from the matches that are for them. -/
theorem mapM_of_matches {source : List Char} {found : List (Match Header.Part)}
    {objects : List ObjectDecl} (h : List.Forall₂ (ObjectDecl.IsMatch source) found objects) :
    ∃ headers, found.mapM Header.ofMatch = .ok headers
      ∧ headers.mapM (fun header => Object.ofBody header (body source header.bodyStart))
        = .ok (objects.map ObjectDecl.object) := by
  induction h with
  | nil => exact ⟨[], rfl, rfl⟩
  | cons hm _ ih =>
      obtain ⟨header, hheader, hobject⟩ := hm
      obtain ⟨headers, hheaders, hobjects⟩ := ih
      refine ⟨header :: headers, ?_, ?_⟩
      · rw [List.mapM_cons, hheader, hheaders]
        rfl
      · rw [List.mapM_cons, hobject, hobjects]
        rfl

/-- Reading the printed text of any objects gives the objects that stand on their own, in order, and
behind them those that extend another one, in order. -/
theorem scan_print (objects : List ObjectDecl) :
    Object.scan (print objects)
      = .ok ((objects.filter (!·.kind.isExtension) ++ objects.filter (·.kind.isExtension)).map
          ObjectDecl.object) := by
  have hbase := exists_matches false objects
  have hextending := exists_matches true objects
  have hfalse : (fun d : ObjectDecl => d.kind.isExtension == false)
      = fun d => !d.kind.isExtension := by
    funext d
    cases d.kind.isExtension <;> rfl
  have htrue : (fun d : ObjectDecl => d.kind.isExtension == true)
      = fun d => d.kind.isExtension := by
    funext d
    cases d.kind.isExtension <;> rfl
  rw [hfalse] at hbase
  rw [htrue] at hextending
  obtain ⟨headers, hheaders, hobjects⟩ := mapM_of_matches (List.rel_append hbase hextending)
  have hscan : Header.scan (print objects) = .ok headers := hheaders
  rw [Object.scan, hscan]
  exact hobjects

example : String.ofList (print [⟨.table, ⟨"Table".toList, by decide⟩,
    ⟨['5', '0'], by decide, by decide, by decide⟩,
    ⟨"Item".toList, by decide, by decide, by decide, by decide⟩, none, none,
    [⟨⟨⟨"field".toList, by decide⟩, ⟨['1'], by decide, by decide, by decide⟩,
      ⟨"No.".toList, by decide, by decide, by decide, by decide⟩,
      ⟨"Code".toList, by decide, by decide, by decide, by decide⟩⟩, by decide⟩],
    [], by decide, by decide⟩])
      = "Table 50 \x22Item\x22\n\x7b\n    field(1; \x22No.\x22; Code) \x7b \x7d\n\x7d\n" := by
  decide

end ExtensionAtlas.Source
