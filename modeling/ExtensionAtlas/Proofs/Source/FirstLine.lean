import ExtensionAtlas.Proofs.Pattern.Placement
import ExtensionAtlas.Proofs.Source.HeaderOrder
import ExtensionAtlas.Proofs.Source.RoundTrip

/-! The first line of a source text. A declaration is found by its keyword at the start of a line,
with nothing but blanks in front of it. A first line without a keyword at its start might as well
not be there: the objects of the text are those of the lines behind it. Blank lines in front of a
keyword belong to its heading, which is the same heading without them. -/

namespace ExtensionAtlas

/-- The same header when a text of some length stands in front. -/
def Header.behind (length : Nat) (header : Header) : Header :=
  { header with bodyStart := header.bodyStart + length }

namespace Source

open Pattern
open Header (Part)
open Text (isBlank)

def firstLine (text : List Char) : List Char := text.takeWhile (· != '\n')

/-- The lines behind the first one. -/
def behindLine (text : List Char) : List Char := (text.dropWhile (· != '\n')).tail

/-- The first line of a text starts with the keyword of an object. -/
def OpensObject (text : List Char) : Prop := StartsObject ObjectKind.all (firstLine text ++ ['\n'])

theorem newline_notMem_firstLine (text : List Char) : '\n' ∉ firstLine text := by
  intro hmem
  simpa using List.mem_takeWhile_imp hmem

/-- A text is its first line and what stands behind it. -/
theorem eq_firstLine (text : List Char) :
    text = firstLine text ∧ behindLine text = [] ∨
      text = firstLine text ++ '\n' :: behindLine text := by
  have hsplit : firstLine text ++ text.dropWhile (· != '\n') = text :=
    List.takeWhile_append_dropWhile
  cases hdrop : text.dropWhile (· != '\n') with
  | nil =>
      rw [hdrop, List.append_nil] at hsplit
      exact .inl ⟨hsplit.symm, by rw [behindLine, hdrop]; rfl⟩
  | cons x rest =>
      have hx : ¬(x != '\n') = true := by
        have hhead := List.head?_dropWhile_not (· != '\n') text
        rw [hdrop] at hhead
        simpa using hhead
      obtain rfl : x = '\n' := by simpa using hx
      rw [hdrop] at hsplit
      exact .inr (by rw [behindLine, hdrop, List.tail_cons, hsplit])

/-! Headings at the first line. -/

section

variable {isExtension : Bool} {line rest : List Char}

theorem StartsObject.mono {kinds kinds' : List ObjectKind} {text : List Char}
    (hkinds : ∀ kind ∈ kinds, kind ∈ kinds') (h : StartsObject kinds text) :
    StartsObject kinds' text := by
  obtain ⟨gap, kind, hkind, h⟩ := h
  exact ⟨gap, kind, hkinds kind hkind, h⟩

theorem StartsObject.append {kinds : List ObjectKind} {text : List Char}
    (h : StartsObject kinds text) (more : List Char) : StartsObject kinds (text ++ more) := by
  obtain ⟨gap, kind, hkind, word, mark, rest, rfl, h⟩ := h
  exact ⟨gap, kind, hkind, word, mark, rest ++ more, by simp, h⟩

theorem newline_notMem_of_agrees {kind : ObjectKind} {word : List Char}
    (h : Text.Agrees kind.keyword.toList word) : '\n' ∉ word :=
  (solid_of_agrees (small_keyword kind) (k_notMem_keyword kind) h).not_mem (by decide)

/-- An object starts on the first line, or behind nothing but blanks on it. -/
theorem startsObject_or_blank {kinds : List ObjectKind} (hline : '\n' ∉ line)
    (h : StartsObject kinds (line ++ '\n' :: rest)) :
    StartsObject kinds (line ++ ['\n']) ∨ ∀ c ∈ line, isBlank c = true := by
  obtain ⟨gap, kind, hkind, word, mark, behind, htext, hgap, hword, hmark⟩ := h
  by_cases hfeed : '\n' ∈ gap
  · obtain ⟨lead, gap', rfl, hlead⟩ := List.eq_append_cons_of_mem hfeed
    rw [List.append_assoc, List.cons_append] at htext
    obtain ⟨rfl, -⟩ := Text.append_mark_inj hline hlead htext
    exact .inr (List.forall_mem_append.1 hgap).1
  · have hfront : '\n' ∉ gap ++ word := by
      rw [List.mem_append, not_or]
      exact ⟨hfeed, newline_notMem_of_agrees hword⟩
    rw [← List.append_assoc] at htext
    obtain ⟨tail, rfl, htail⟩ := Text.exists_of_mark_notMem hfront htext
    refine .inl ⟨gap, kind, hkind, word, mark, ?_⟩
    cases tail with
    | nil => exact ⟨[], by simp [(List.cons.inj htail).1], hgap, hword, hmark⟩
    | cons x tail => exact ⟨tail ++ ['\n'], by simp [(List.cons.inj htail).1], hgap, hword, hmark⟩

/-- A heading starts with a line, blanks and a keyword. -/
theorem exists_headingPattern (isExtension : Bool) : ∃ more, headingPattern isExtension =
    inOrder (.lineStart :: .blanks :: Header.keyword (headingKinds isExtension) :: more) := by
  cases isExtension <;> exact ⟨_, rfl⟩

/-- A heading behind blank lines starts with them as well. -/
theorem run_heading_behind_blanks {β : Type} {captures : Captures Part}
    {k : Cursor → Captures Part → Option β} {front : List Char}
    (hfront : ∀ c ∈ front, isBlank c = true) (hstart : AtLineStart front) (rest : List Char) :
    (headingPattern isExtension).run (.between [] (front ++ rest)) captures k =
      (headingPattern isExtension).run (.between front rest) captures k := by
  obtain ⟨more, hpattern⟩ := exists_headingPattern isExtension
  rw [hpattern, run_cons, run_cons, run_lineStart (by rintro y ⟨⟩), run_lineStart hstart, run_cons,
    run_cons]
  refine runMost_append (fun front x rest hx => ?_) hfront [] rest
  apply run_eq_none
  rintro stretch rest' _ htext ⟨word, behind, rfl, hword, -⟩
  obtain ⟨p, hp, hword⟩ := describes_oneOf.1 hword
  obtain ⟨kind, -, rfl⟩ := List.mem_map.1 hp
  have hagrees := describes_letters.1 hword
  cases word with
  | nil => exact absurd (List.forall₂_nil_right_iff.1 hagrees) (keyword_ne_nil kind)
  | cons y word =>
      have hy := solid_of_agrees (small_keyword kind) (k_notMem_keyword kind) hagrees y
        List.mem_cons_self
      rw [List.cons_append, List.cons_append, List.cons.injEq] at htext
      rw [← htext.1, hx] at hy
      cases hy

/-- A match is another one moved some way on: it has captured the same and ends as much later. -/
def MovedBy (length : Nat) (m m' : Match Part) : Prop :=
  m.captures = m'.captures ∧ m.stop.offset = m'.stop.offset + length

/-- Behind whole lines the headings are those of the text alone. -/
theorem forall₂_allBehind {front : List Char} (hlast : front.getLast? = some '\n')
    (rest : List Char) :
    List.Forall₂ (MovedBy front.length) ((headingPattern isExtension).allBehind front rest)
      ((headingPattern isExtension).all rest) := by
  rw [allBehind_eq_map hlast (overlooks_newline _), List.forall₂_map_left_iff]
  exact List.forall₂_same.2 fun m _ => ⟨rfl, rfl⟩

/-- The first match behind blank lines is the one that starts with them. -/
theorem exists_matchAt_behind_blanks {front : List Char}
    (hfront : ∀ c ∈ front, isBlank c = true) (hstart : AtLineStart front) {m : Match Part}
    (hm : (headingPattern isExtension).matchAt (.between [] (front ++ rest)) = some m) :
    ∃ m', (headingPattern isExtension).matchAt (.between front rest) = some m' ∧
      m.captures = m'.captures ∧ m.stop = m'.stop := by
  rw [matchAt, run_heading_behind_blanks hfront hstart, run_eq_findSome?] at hm
  rw [matchAt, run_eq_findSome?]
  cases hends : (headingPattern isExtension).ends (.between front rest) [] with
  | nil =>
      rw [hends] at hm
      cases hm
  | cons e es =>
      rw [hends] at hm
      rw [← Option.some.inj hm]
      exact ⟨_, rfl, rfl, rfl⟩

/-- With blank lines in front or without, a search goes on behind the same first heading. -/
theorem exists_all_eq_cons {front : List Char} (hfront : ∀ c ∈ front, isBlank c = true)
    (hstart : AtLineStart front) {m : Match Part}
    (hm : (headingPattern isExtension).matchAt (.between [] (front ++ rest)) = some m) :
    ∃ m' others, (headingPattern isExtension).all (front ++ rest) = m :: others ∧
      (headingPattern isExtension).allBehind front rest = m' :: others ∧
      m.captures = m'.captures ∧ m.stop = m'.stop := by
  obtain ⟨m', hm', hcaptures, hstop⟩ := exists_matchAt_behind_blanks hfront hstart hm
  obtain ⟨stretch, behind, rfl, hd, hstop'⟩ := exists_stop_of_matchAt hm'
  have hne : stretch ≠ [] := by
    rintro rfl
    obtain ⟨text, hnil⟩ := exists_brace_of_describes hd
    simp at hnil
  have hmoved : Finds (headingPattern isExtension) front stretch behind [m'] :=
    Finds.single hne hm' hstop'
  have hwhole : Finds (headingPattern isExtension) [] (front ++ stretch) behind [m] := by
    refine Finds.single (by simp [hne]) ?_ (hstop.trans hstop')
    rwa [List.append_assoc]
  rw [Finds, List.append_assoc] at hwhole
  exact ⟨m', _, hwhole, hmoved, hcaptures, hstop⟩

/-- A first line that starts no object leaves the headings behind it as they are. -/
theorem forall₂_all_line (hline : '\n' ∉ line)
    (h : ¬StartsObject (headingKinds isExtension) (line ++ ['\n'])) (rest : List Char) :
    List.Forall₂ (MovedBy (line.length + 1))
      ((headingPattern isExtension).all (line ++ '\n' :: rest))
      ((headingPattern isExtension).all rest) := by
  have hlast : (line ++ ['\n']).getLast? = some '\n' := List.getLast?_concat
  have hbehind := @forall₂_allBehind isExtension _ hlast rest
  rw [List.length_append, List.length_singleton] at hbehind
  cases hhere : (headingPattern isExtension).matchAt (.between [] (line ++ '\n' :: rest)) with
  | none =>
      have hfinds : Finds (headingPattern isExtension) [] (line ++ ['\n']) rest [] :=
        finds_nil_of_line (fun hd => (describes_headingPattern hd).1) hline hhere
      rw [Finds, List.append_assoc] at hfinds
      have hall : (headingPattern isExtension).all (line ++ '\n' :: rest) =
          (headingPattern isExtension).allBehind (line ++ ['\n']) rest := hfinds
      rw [hall]
      exact hbehind
  | some m =>
      obtain ⟨stretch, rest', hcut, hd, -⟩ := exists_stop_of_matchAt hhere
      have hobject := (describes_headingPattern hd).2
      rw [← hcut] at hobject
      have hblank : ∀ c ∈ line ++ ['\n'], isBlank c = true :=
        List.forall_mem_append.2 ⟨(startsObject_or_blank hline hobject).resolve_left h, by decide⟩
      have htext : line ++ '\n' :: rest = line ++ ['\n'] ++ rest := by simp
      rw [htext] at hhere ⊢
      obtain ⟨m', others, hall, hmoved, hcaptures, hstop⟩ := exists_all_eq_cons hblank
        (fun y hy => Option.some.inj (hy.symm.trans hlast)) hhere
      rw [hmoved, List.forall₂_cons_left_iff] at hbehind
      obtain ⟨first, firsts, ⟨hfirst, hoffset⟩, hothers, heq⟩ := hbehind
      rw [hall, heq]
      exact .cons ⟨hcaptures.trans hfirst, hstop ▸ hoffset⟩ hothers

/-- A text of one line that starts no object has no headings. -/
theorem all_eq_nil_of_line (hline : '\n' ∉ line)
    (h : ¬StartsObject (headingKinds isExtension) (line ++ ['\n'])) :
    (headingPattern isExtension).all line = [] := by
  refine List.eq_nil_iff_forall_not_mem.2 fun m hm => ?_
  obtain ⟨front, rest, rfl, hmatch⟩ := exists_matchAt_of_mem_all hm
  obtain ⟨stretch, rest, rfl, hd, -⟩ := exists_stop_of_matchAt hmatch
  obtain ⟨hstart, hobject⟩ := describes_headingPattern hd
  cases hlast : front.getLast? with
  | none =>
      rw [List.getLast?_eq_none_iff.1 hlast, List.nil_append] at h
      exact h (hobject.append _)
  | some y =>
      obtain rfl := hstart y hlast
      exact hline (List.mem_append_left _ (List.mem_of_getLast? hlast))

/-- A first line that starts no object might as well not be there. -/
theorem forall₂_all_behindLine {text : List Char} (h : ¬OpensObject text) :
    List.Forall₂ (MovedBy (text.length - (behindLine text).length))
      ((headingPattern isExtension).all text)
      ((headingPattern isExtension).all (behindLine text)) := by
  have hline := newline_notMem_firstLine text
  have hkinds : ¬StartsObject (headingKinds isExtension) (firstLine text ++ ['\n']) := by
    refine mt (StartsObject.mono fun kind hkind => ?_) h
    cases isExtension with
    | false => exact List.mem_append_left _ hkind
    | true => exact List.mem_append_right _ hkind
  rcases eq_firstLine text with ⟨htext, hbehind⟩ | htext
  · have hnil : (headingPattern isExtension).all [] = [] :=
      all_eq_of_finds .nil matchAt_heading_nil
    rw [← htext] at hline hkinds
    rw [hbehind, hnil, all_eq_nil_of_line hline hkinds]
    exact .nil
  · have hlength : text.length - (behindLine text).length = (firstLine text).length + 1 := by
      have htext' := congrArg List.length htext
      rw [List.length_append, List.length_cons] at htext'
      omega
    have hall := forall₂_all_line hline hkinds (behindLine text)
    rwa [← htext, ← hlength] at hall

end

/-! The objects behind the first line. -/

theorem ofMatch_of_movedBy {length : Nat} {m m' : Match Part} (h : MovedBy length m m') :
    Header.ofMatch m = (Header.ofMatch m').map (Header.behind length) := by
  obtain ⟨hcaptures, hstop⟩ := h
  simp only [Header.ofMatch, Match.text, Match.text?, hcaptures, hstop]
  split
  · rfl
  · split <;> rfl

theorem headerScan_behindLine {text : List Char} (h : ¬OpensObject text) :
    Header.scan text = (Header.scan (behindLine text)).map
      (List.map (Header.behind (text.length - (behindLine text).length))) := by
  refine mapM_eq_map_of_forall₂ (List.Forall₂.imp (fun m m' => ofMatch_of_movedBy) ?_)
  exact List.rel_append (@forall₂_all_behindLine false text h) (@forall₂_all_behindLine true text h)

theorem body_behindLine (text : List Char) (start : Nat) :
    body text (start + (text.length - (behindLine text).length)) =
      body (behindLine text) start := by
  have hsuffix : behindLine text <:+ text :=
    (List.tail_suffix _).trans (List.dropWhile_suffix _)
  rw [body, body, Nat.add_comm, ← List.drop_drop, ← List.suffix_iff_eq_drop.1 hsuffix]

/-- The objects of a text whose first line starts none are those of the lines behind it. -/
theorem scan_behindLine {text : List Char} (h : ¬OpensObject text) :
    Object.scan text = Object.scan (behindLine text) := by
  rw [Object.scan, Object.scan, headerScan_behindLine h]
  cases Header.scan (behindLine text) with
  | error fault => rfl
  | ok headers =>
      change (headers.map _).mapM _ = headers.mapM _
      rw [List.mapM_map]
      congr 1
      funext header
      exact congrArg (Object.ofBody header) (body_behindLine text header.bodyStart)

end Source

end ExtensionAtlas
