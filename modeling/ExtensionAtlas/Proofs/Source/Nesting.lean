import ExtensionAtlas.Proofs.Source.HeaderOrder
import Mathlib.Order.Interval.Finset.Nat

/-! How the bodies of a source text lie to one another. The search for headings and the one for
closing braces know nothing of each other, so a heading in a body is found as well, and its block
lies in the body around it. Blocks never overlap in part. Headings of one sort have braces of their
own; one of each sort can share a brace, since a list of interfaces runs on to the next brace, over
line ends and other headings. -/

namespace ExtensionAtlas.Source

open Pattern

/-! A body that runs past a brace has the body behind it inside. -/

/-- From further in, the same text and more is taken. -/
theorem takeBody_isPrefix_add (depth more : Nat) (text : List Char) :
    takeBody depth text <+: takeBody (depth + more) text := by
  induction text generalizing depth with
  | nil => exact List.nil_prefix
  | cons c rest ih =>
      rw [takeBody_cons, takeBody_cons]
      split
      · rw [Nat.add_right_comm]
        exact List.cons_prefix_cons.2 ⟨rfl, ih _⟩
      · split
        · cases depth with
          | zero => exact List.nil_prefix
          | succ depth =>
              rw [Nat.add_right_comm]
              exact List.cons_prefix_cons.2 ⟨rfl, ih _⟩
        · exact List.cons_prefix_cons.2 ⟨rfl, ih _⟩

/-- The search for a closing brace ends in a stretch of text or goes on behind it. -/
theorem takeBody_append (depth : Nat) (stretch rest : List Char) :
    (takeBody depth (stretch ++ rest)).length ≤ stretch.length ∨
      ∃ depth', takeBody depth (stretch ++ rest) = stretch ++ takeBody depth' rest := by
  induction stretch generalizing depth with
  | nil => exact .inr ⟨depth, rfl⟩
  | cons c stretch ih =>
      have hnext (depth : Nat) : (c :: takeBody depth (stretch ++ rest)).length ≤
          (c :: stretch).length ∨ ∃ depth', c :: takeBody depth (stretch ++ rest) =
            c :: stretch ++ takeBody depth' rest :=
        (ih depth).imp Nat.succ_le_succ fun ⟨depth', h⟩ => ⟨depth', congrArg (c :: ·) h⟩
      rw [List.cons_append, takeBody_cons]
      split
      · exact hnext _
      · split
        · cases depth with
          | zero => exact .inl (Nat.zero_le _)
          | succ depth => exact hnext _
        · exact hnext _

/-- The positions of the body that starts at an offset. -/
def inside (source : List Char) (start : Nat) : Finset Nat :=
  Finset.Ico start (start + (body source start).length)

/-- The positions of a body and of the brace in front of it. -/
def block (source : List Char) (start : Nat) : Finset Nat :=
  Finset.Ico (start - 1) (start + (body source start).length)

theorem Opens.apart_or_nested_of_lt {source : List Char} {start start' : Nat}
    (h : Opens source start) (h' : Opens source start') (hlt : start < start') :
    Disjoint (block source start) (block source start') ∨
      block source start' ⊆ inside source start := by
  obtain ⟨front, rest, rfl, rfl⟩ := h
  obtain ⟨front', rest', hsource, rfl⟩ := h'
  obtain ⟨stretch, rfl, rfl⟩ : ∃ stretch, front' = front ++ '\x7b' :: stretch ∧
      rest = stretch ++ '\x7b' :: rest' := by
    rcases List.append_eq_append_iff.1 hsource with ⟨t, rfl, hrest⟩ | ⟨t, rfl, -⟩
    · cases t with
      | nil => simp at hlt
      | cons c t =>
          obtain rfl := (List.cons.inj hrest).1
          exact ⟨t, rfl, (List.cons.inj hrest).2⟩
    · simp at hlt
  rw [block, block, inside, body_of_brace, hsource, body_of_brace]
  rcases takeBody_append 0 stretch ('\x7b' :: rest') with hclosed | ⟨depth, hopen⟩
  · left
    rw [Finset.disjoint_left]
    intro position hposition hposition'
    simp only [Finset.mem_Ico, List.length_append, List.length_cons] at hposition hposition'
    omega
  · right
    have hinner : (takeBody 0 rest').length ≤ (takeBody (depth + 1) rest').length := by
      have hprefix := takeBody_isPrefix_add 0 (depth + 1) rest'
      rw [Nat.zero_add] at hprefix
      exact hprefix.length_le
    have hbrace : takeBody depth ('\x7b' :: rest') = '\x7b' :: takeBody (depth + 1) rest' :=
      takeBody_cons ..
    rw [hopen, hbrace]
    refine Finset.Ico_subset_Ico ?_ ?_ <;>
      simp only [List.length_append, List.length_cons] <;> omega

/-- Blocks with different braces lie apart, or one of them in the body of the other. -/
theorem Opens.apart_or_nested {source : List Char} {start start' : Nat} (h : Opens source start)
    (h' : Opens source start') : start = start' ∨
      Disjoint (block source start) (block source start') ∨
      block source start' ⊆ inside source start ∨ block source start ⊆ inside source start' := by
  rcases Nat.lt_trichotomy start start' with hlt | heq | hlt
  · exact .inr ((h.apart_or_nested_of_lt h' hlt).imp_right .inl)
  · exact .inl heq
  · exact .inr ((h'.apart_or_nested_of_lt h hlt).imp (·.symm) .inr)

theorem apart_or_nested_of_sort {isExtension : Bool} {source : List Char} {headers : List Header}
    (h : ((headingPattern isExtension).all source).mapM Header.ofMatch = .ok headers) :
    headers.Pairwise fun a b => a.kind.isExtension = b.kind.isExtension ∧
      a.bodyStart < b.bodyStart ∧ (Disjoint (block source a.bodyStart) (block source b.bodyStart) ∨
        block source b.bodyStart ⊆ inside source a.bodyStart) := by
  obtain ⟨hkinds, hstarts⟩ := headers_of_sort h
  refine hstarts.imp_of_mem fun ha hb hlt => ⟨?_, hlt, ?_⟩
  · rw [(hkinds _ ha).1, (hkinds _ hb).1]
  · exact (hkinds _ ha).2.apart_or_nested_of_lt (hkinds _ hb).2 hlt

theorem listsInterfaces_of_bodyStart_eq {source : List Char} {bases extending : List Header}
    (hbases : ((headingPattern false).all source).mapM Header.ofMatch = .ok bases)
    (hextending : ((headingPattern true).all source).mapM Header.ofMatch = .ok extending)
    {a b : Header} (ha : a ∈ bases) (hb : b ∈ extending) (heq : a.bodyStart = b.bodyStart) :
    ListsInterfaces source a.bodyStart := by
  obtain ⟨m, hm, hmatch⟩ := exists_of_mem_mapM hbases ha
  obtain ⟨m', hm', hmatch'⟩ := exists_of_mem_mapM hextending hb
  rw [bodyStart_ofMatch hmatch, bodyStart_ofMatch hmatch'] at heq
  rw [bodyStart_ofMatch hmatch]
  exact listsInterfaces_of_stop_eq hm hm' heq

/-- Headers of objects that stand on their own come first, and those of one sort follow the text.
Of the blocks of two headers neither reaches over an end of the other: they lie apart, or one of
them lies in the body of the other, or they are one block, and interfaces are listed up to its
brace. -/
theorem pairwise_of_scan {source : List Char} {headers : List Header}
    (h : Header.scan source = .ok headers) : headers.Pairwise fun a b =>
      (a.kind.isExtension = true → b.kind.isExtension = true) ∧
      (a.kind.isExtension = b.kind.isExtension → a.bodyStart < b.bodyStart) ∧
      (a.bodyStart = b.bodyStart ∧ ListsInterfaces source a.bodyStart ∨
        Disjoint (block source a.bodyStart) (block source b.bodyStart) ∨
        block source b.bodyStart ⊆ inside source a.bodyStart ∨
        block source a.bodyStart ⊆ inside source b.bodyStart) := by
  obtain ⟨bases, extending, hbases, hextending, rfl⟩ := exists_append_of_scan h
  refine List.pairwise_append.2 ⟨?_, ?_, ?_⟩
  · exact (apart_or_nested_of_sort hbases).imp fun ⟨hsort, hlt, hapart⟩ =>
      ⟨fun ha => hsort ▸ ha, fun _ => hlt, .inr (hapart.imp_right .inl)⟩
  · exact (apart_or_nested_of_sort hextending).imp fun ⟨hsort, hlt, hapart⟩ =>
      ⟨fun ha => hsort ▸ ha, fun _ => hlt, .inr (hapart.imp_right .inl)⟩
  · intro a ha b hb
    obtain ⟨hbase, hopens⟩ := (headers_of_sort hbases).1 a ha
    obtain ⟨hextends, hopens'⟩ := (headers_of_sort hextending).1 b hb
    refine ⟨fun _ => hextends, fun hsorts => ?_, ?_⟩
    · rw [hbase, hextends] at hsorts
      cases hsorts
    · exact (hopens.apart_or_nested hopens').imp_left fun heq =>
        ⟨heq, listsInterfaces_of_bodyStart_eq hbases hextending ha hb heq⟩

/-- A text with a heading in the body of another object. -/
def nestedSource : List Char :=
  ("table 1 A \x7b\n" ++ "table 2 B \x7b\n" ++ "    field(1; F; Integer) \x7b \x7d\n" ++
    "\x7d\n" ++ "\x7d\n").toList

theorem scan_nestedSource : Header.scan nestedSource =
    .ok [⟨.table, 1, "A", none, 11⟩, ⟨.table, 2, "B", none, 23⟩] := by
  decide +kernel

theorem block_subset_inside_nestedSource :
    Header.scan nestedSource =
        .ok [⟨.table, 1, "A", none, 11⟩, ⟨.table, 2, "B", none, 23⟩] ∧
      block nestedSource 23 ⊆ inside nestedSource 11 := by
  have hpair := List.rel_of_pairwise_cons (pairwise_of_scan scan_nestedSource)
    (List.mem_singleton_self _)
  rcases hpair.2.2 with ⟨heq, -⟩ | hapart | hnested | hnested
  · cases heq
  · exact absurd hapart (by decide +kernel)
  · exact ⟨scan_nestedSource, hnested⟩
  · exact absurd hnested (by decide +kernel)

/-- A text in which the interfaces of an object run over the end of a line up to the brace of the
next one. -/
def sharingSource : List Char :=
  ("codeunit 1 A implements X\n" ++ "tableextension 2 B extends C \x7b\n" ++
    "    field(1; F; Integer) \x7b \x7d\n" ++ "\x7d\n").toList

theorem scan_sharingSource : Header.scan sharingSource =
    .ok [⟨.codeunit, 1, "A", none, 56⟩, ⟨.tableExtension, 2, "B", some "C", 56⟩] := by
  decide +kernel

/-- Two headers can have one brace, and then the field behind it is counted twice. Bodies with
braces of their own can overlap as well. -/
theorem scan_overlapping :
    (∃ a b, Header.scan sharingSource = .ok [a, b] ∧ a.bodyStart = b.bodyStart ∧
      (Object.scan sharingSource).map (·.map fun o => (o.name, o.fields.map (·.name))) =
        .ok [("A", ["F"]), ("B", ["F"])]) ∧
    ∃ a b, Header.scan nestedSource = .ok [a, b] ∧ a.bodyStart ≠ b.bodyStart ∧
      ¬Disjoint (inside nestedSource a.bodyStart) (inside nestedSource b.bodyStart) ∧
      (Object.scan nestedSource).map (·.map fun o => (o.name, o.fields.map (·.name))) =
        .ok [("A", ["F"]), ("B", ["F"])] := by
  constructor
  · refine ⟨_, _, scan_sharingSource, rfl, ?_⟩
    rw [Object.scan, scan_sharingSource]
    decide +kernel
  · refine ⟨_, _, scan_nestedSource, by decide, by decide +kernel, ?_⟩
    rw [Object.scan, scan_nestedSource]
    decide +kernel

end ExtensionAtlas.Source
