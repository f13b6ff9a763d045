import ExtensionAtlas.Proofs.Pattern.Language
import ExtensionAtlas.Proofs.Text.Occurrence

/-! What a search finds, stretch by stretch. A stretch of text is described by the matches that
start in it, seen together with the text on both sides; stretches one behind the other put their
matches together. A stretch in which no match can start is passed over. -/

namespace ExtensionAtlas.Pattern

variable {σ : Type} {p : Pattern σ} {front rest : List Char}

/-- The matches from a place on that lies behind the last match. -/
def allBehind (p : Pattern σ) (front rest : List Char) : List (Match σ) :=
  p.allFrom front.getLast? front.length 0 rest

/-- The matches `found` start in `stretch`, and the last of them ends in it. -/
def Finds (p : Pattern σ) (front stretch rest : List Char) (found : List (Match σ)) : Prop :=
  p.allBehind front (stretch ++ rest) = found ++ p.allBehind (front ++ stretch) rest

theorem matchAt_start {text : List Char} {m : Match σ}
    (h : p.matchAt (.between front text) = some m) : m.start = .between front text := by
  obtain ⟨_, _, _, _, _, hm⟩ := describes_of_run h
  rw [← Option.some.inj hm]

/-- A match ends behind a stretch that its pattern describes. -/
theorem exists_stop_of_matchAt {text : List Char} {m : Match σ}
    (h : p.matchAt (.between front text) = some m) : ∃ stretch rest, text = stretch ++ rest ∧
      p.Describes front stretch rest ∧ m.stop = .between (front ++ stretch) rest := by
  obtain ⟨stretch, rest, _, htext, hd, hm⟩ := describes_of_run h
  refine ⟨stretch, rest, htext, hd, ?_⟩
  rw [← Option.some.inj hm]

/-- Every match of a search starts somewhere in the text. -/
theorem exists_matchAt_of_mem_allFrom {m : Match σ} {skip : Nat}
    (h : m ∈ p.allFrom front.getLast? front.length skip rest) :
    ∃ u v, front ++ rest = u ++ v ∧ p.matchAt (.between u v) = some m := by
  induction rest generalizing front skip with
  | nil =>
      cases skip with
      | zero => exact ⟨front, [], rfl, by simpa [allFrom, Cursor.between] using h⟩
      | succ skip => exact absurd h List.not_mem_nil
  | cons x rest ih =>
      have hnext {skip : Nat} (h : m ∈ p.allFrom (some x) (front.length + 1) skip rest) :
          ∃ u v, front ++ x :: rest = u ++ v ∧ p.matchAt (.between u v) = some m := by
        have hrest := @ih (front ++ [x]) skip (by
          rwa [List.getLast?_concat, List.length_append, List.length_singleton])
        rwa [List.append_assoc, List.singleton_append] at hrest
      cases skip with
      | succ skip => exact hnext h
      | zero =>
          rw [allFrom] at h
          cases hhere : p.matchAt ⟨front.getLast?, x :: rest, front.length⟩ with
          | none =>
              rw [hhere] at h
              exact hnext h
          | some found =>
              rw [hhere] at h
              rcases List.mem_cons.1 h with rfl | h
              · exact ⟨front, x :: rest, rfl, hhere⟩
              · exact hnext h

theorem exists_matchAt_of_mem_all {text : List Char} {m : Match σ} (h : m ∈ p.all text) :
    ∃ front rest, text = front ++ rest ∧ p.matchAt (.between front rest) = some m :=
  @exists_matchAt_of_mem_allFrom σ p [] text m 0 h

/-- Matches of a pattern that describes no empty stretch end one behind the other. -/
theorem pairwise_allFrom (hne : ∀ {front rest}, ¬p.Describes front [] rest) (skip : Nat) :
    (∀ m ∈ p.allFrom front.getLast? front.length skip rest,
        front.length + skip < m.stop.offset) ∧
      (p.allFrom front.getLast? front.length skip rest).Pairwise
        (·.stop.offset < ·.stop.offset) := by
  have hlater {front text : List Char} {m : Match σ}
      (h : p.matchAt (.between front text) = some m) : front.length < m.stop.offset := by
    obtain ⟨stretch, rest, -, hd, hstop⟩ := exists_stop_of_matchAt h
    have hlength : 0 < stretch.length := List.length_pos_iff.2 fun hnil => hne (hnil ▸ hd)
    rw [hstop, Cursor.offset_between, List.length_append]
    omega
  induction rest generalizing front skip with
  | nil =>
      cases skip with
      | succ skip => exact ⟨fun _ hm => absurd hm List.not_mem_nil, .nil⟩
      | zero =>
          rw [allFrom]
          cases hhere : p.matchAt ⟨front.getLast?, [], front.length⟩ with
          | none => exact ⟨fun _ hm => absurd hm List.not_mem_nil, .nil⟩
          | some m => exact ⟨by simpa using hlater hhere, List.pairwise_singleton _ _⟩
  | cons x rest ih =>
      have hnext (skip : Nat) :
          (∀ m ∈ p.allFrom (some x) (front.length + 1) skip rest,
              front.length + 1 + skip < m.stop.offset) ∧
            (p.allFrom (some x) (front.length + 1) skip rest).Pairwise
              (·.stop.offset < ·.stop.offset) := by
        have hrest := @ih (front ++ [x]) skip
        rwa [List.getLast?_concat, List.length_append, List.length_singleton] at hrest
      cases skip with
      | succ skip =>
          obtain ⟨hstops, hpairs⟩ := hnext skip
          refine ⟨fun m hm => ?_, hpairs⟩
          have hstop := hstops m hm
          omega
      | zero =>
          rw [allFrom]
          cases hhere : p.matchAt ⟨front.getLast?, x :: rest, front.length⟩ with
          | none =>
              obtain ⟨hstops, hpairs⟩ := hnext 0
              refine ⟨fun m hm => ?_, hpairs⟩
              have hstop := hstops m hm
              omega
          | some m =>
              obtain ⟨hstops, hpairs⟩ := hnext (m.length - 1)
              have hstart : m.start.offset = front.length := by
                rw [matchAt_start hhere, Cursor.offset_between]
              have hstop : front.length < m.stop.offset := hlater hhere
              have hbehind : ∀ m' ∈ p.allFrom (some x) (front.length + 1) (m.length - 1) rest,
                  m.stop.offset < m'.stop.offset := by
                intro m' hm'
                have hstop' := hstops m' hm'
                rw [Match.length] at hstop'
                omega
              refine ⟨List.forall_mem_cons.2 ⟨hstop, fun m' hm' => ?_⟩,
                List.pairwise_cons.2 ⟨hbehind, hpairs⟩⟩
              exact hstop.trans (hbehind m' hm')

theorem pairwise_all (hne : ∀ {front rest}, ¬p.Describes front [] rest) (text : List Char) :
    (p.all text).Pairwise (·.stop.offset < ·.stop.offset) :=
  (@pairwise_allFrom σ p [] text hne 0).2

theorem allFrom_length (u : List Char) :
    p.allFrom front.getLast? front.length u.length (u ++ rest) = p.allBehind (front ++ u) rest := by
  induction u generalizing front with
  | nil => rw [List.append_nil]; rfl
  | cons x u ih =>
      calc p.allFrom front.getLast? front.length (x :: u).length (x :: u ++ rest)
          = p.allFrom (some x) (front.length + 1) u.length (u ++ rest) := rfl
        _ = p.allFrom (front ++ [x]).getLast? (front ++ [x]).length u.length (u ++ rest) := by
            rw [List.getLast?_concat, List.length_append, List.length_singleton]
        _ = p.allBehind (front ++ x :: u) rest := by
            rw [ih, List.append_assoc, List.singleton_append]

theorem Finds.nil : Finds p front [] rest [] := by
  rw [Finds, List.append_nil]
  rfl

theorem Finds.append {s t : List Char} {found found' : List (Match σ)}
    (hs : Finds p front s (t ++ rest) found) (ht : Finds p (front ++ s) t rest found') :
    Finds p front (s ++ t) rest (found ++ found') := by
  rw [Finds, List.append_assoc, hs, ht, List.append_assoc, List.append_assoc]

/-- A match covers its stretch. -/
theorem Finds.single {u : List Char} {m : Match σ} (hne : u ≠ [])
    (hm : p.matchAt (.between front (u ++ rest)) = some m)
    (hstop : m.stop = .between (front ++ u) rest) : Finds p front u rest [m] := by
  obtain ⟨x, u, rfl⟩ := List.exists_cons_of_ne_nil hne
  have hlength : m.length - 1 = u.length := by
    calc m.length - 1
        = (front ++ x :: u).length - front.length - 1 := by
          rw [Match.length, hstop, matchAt_start hm]; rfl
      _ = u.length := by rw [List.length_append, List.length_cons]; omega
  have hhere : p.matchAt ⟨front.getLast?, x :: (u ++ rest), front.length⟩ = some m := hm
  rw [Finds, List.cons_append, allBehind, allFrom, hhere]
  change m :: p.allFrom (some x) (front.length + 1) (m.length - 1) (u ++ rest) = _
  rw [hlength]
  have htail := @allFrom_length σ p (front ++ [x]) rest u
  rw [List.getLast?_concat, List.length_append, List.length_singleton, List.append_assoc] at htail
  rw [htail]
  rfl

/-- Where no match starts, the search goes on with the next character. -/
theorem Finds.cons {x : Char} {t : List Char} {found : List (Match σ)}
    (hx : p.matchAt (.between front (x :: t ++ rest)) = none)
    (ht : Finds p (front ++ [x]) t rest found) : Finds p front (x :: t) rest found := by
  have hhere : p.matchAt ⟨front.getLast?, x :: (t ++ rest), front.length⟩ = none := hx
  rw [Finds, List.append_assoc, List.singleton_append] at ht
  rw [Finds, ← ht, allBehind, allBehind, List.getLast?_concat, List.length_append,
    List.length_singleton, List.cons_append, allFrom, hhere]

/-- A search over a whole text finds what starts in it, if no match fits behind its end. -/
theorem all_eq_of_finds {text : List Char} {found : List (Match σ)}
    (h : Finds p [] text [] found) (hend : p.matchAt (.between text []) = none) :
    p.all text = found := by
  rw [Finds, List.append_nil, List.nil_append] at h
  have htail : p.allBehind text [] = [] := by
    change (p.matchAt (.between text [])).toList = []
    rw [hend]
    rfl
  rw [htail, List.append_nil] at h
  exact h

/-- The first match is the first of all matches. -/
theorem firstFrom_eq_head? (p : Pattern σ) (before : Option Char) (offset : Nat)
    (rest : List Char) :
    p.firstFrom before offset rest = (p.allFrom before offset 0 rest).head? := by
  induction rest generalizing before offset with
  | nil =>
      rw [firstFrom, allFrom]
      cases p.matchAt ⟨before, [], offset⟩ <;> rfl
  | cons x rest ih =>
      rw [firstFrom, allFrom]
      cases p.matchAt ⟨before, x :: rest, offset⟩ with
      | none => exact ih (some x) (offset + 1)
      | some m => rfl

theorem first?_eq_head?_all (p : Pattern σ) (text : List Char) :
    p.first? text = (p.all text).head? :=
  firstFrom_eq_head? p none 0 text

/-- The first match behind a stretch in which none starts. -/
theorem first?_of_finds {m : Match σ} (hfront : Finds p [] front rest [])
    (hm : p.matchAt (.between front rest) = some m) : p.first? (front ++ rest) = some m := by
  rw [first?_eq_head?_all]
  have hall : p.all (front ++ rest) = p.allBehind front rest := hfront
  rw [hall, allBehind]
  cases rest with
  | nil =>
      change (p.matchAt (.between front [])).toList.head? = _
      rw [hm]
      rfl
  | cons x rest =>
      have hhere : p.matchAt ⟨front.getLast?, x :: rest, front.length⟩ = some m := hm
      rw [allFrom, hhere]
      rfl

/-- A pattern that matches nowhere in a text does not occur in it. -/
theorem occursIn_eq_false {text : List Char}
    (h : ∀ front rest, text = front ++ rest → p.matchAt (.between front rest) = none) :
    p.occursIn text = false := by
  suffices hfirst : ∀ rest front, text = front ++ rest →
      p.firstFrom front.getLast? front.length rest = none by
    rw [occursIn, first?]
    exact congrArg Option.isSome (hfirst text [] rfl)
  intro rest
  induction rest with
  | nil => exact fun front htext => h front [] htext
  | cons x rest ih =>
      intro front htext
      have hnext := ih (front ++ [x]) (by rw [htext, List.append_assoc, List.singleton_append])
      rw [List.getLast?_concat, List.length_append, List.length_singleton] at hnext
      have hhere : p.matchAt ⟨front.getLast?, x :: rest, front.length⟩ = none :=
        h front (x :: rest) htext
      rw [firstFrom, hhere, hnext]

/-- A search from a place on finds something if there is a match behind it. -/
theorem isSome_firstFrom {v : List Char} {m : Match σ}
    (hm : p.matchAt (.between (front ++ v) rest) = some m) :
    (p.firstFrom front.getLast? front.length (v ++ rest)).isSome = true := by
  induction v generalizing front with
  | nil =>
      rw [List.append_nil, Cursor.between] at hm
      cases rest <;> rw [List.nil_append, firstFrom, hm] <;> rfl
  | cons x v ih =>
      have hnext := @ih (front ++ [x]) (by rwa [List.append_assoc, List.singleton_append])
      rw [List.getLast?_concat, List.length_append, List.length_singleton] at hnext
      rw [List.cons_append, firstFrom]
      split
      · rfl
      · exact hnext

/-- A search finds nothing exactly if no place has a match. -/
theorem first?_eq_none_iff {text : List Char} : p.first? text = none ↔
    ∀ front rest, text = front ++ rest → p.matchAt (.between front rest) = none := by
  constructor
  · rintro hnone front rest rfl
    refine Option.eq_none_iff_forall_ne_some.2 fun m hm => ?_
    have hsome : (p.first? (front ++ rest)).isSome = true :=
      @isSome_firstFrom σ p [] rest front m hm
    rw [hnone] at hsome
    cases hsome
  · intro h
    rw [← Option.not_isSome_iff_eq_none, Bool.not_eq_true]
    exact occursIn_eq_false h

/-- What a search finds is the match at the first place that has one. -/
theorem exists_of_first?_eq_some {text : List Char} {m : Match σ} (h : p.first? text = some m) :
    ∃ front rest, text = front ++ rest ∧ p.matchAt (.between front rest) = some m ∧
      ∀ front' rest', text = front' ++ rest' → front'.length < front.length →
        p.matchAt (.between front' rest') = none := by
  suffices hfirst : ∀ rest front, text = front ++ rest →
      p.firstFrom front.getLast? front.length rest = some m →
      (∀ front' rest', text = front' ++ rest' → front'.length < front.length →
        p.matchAt (.between front' rest') = none) →
      ∃ front rest, text = front ++ rest ∧ p.matchAt (.between front rest) = some m ∧
        ∀ front' rest', text = front' ++ rest' → front'.length < front.length →
          p.matchAt (.between front' rest') = none from
    hfirst text [] rfl h fun _ _ _ hlt => absurd hlt (Nat.not_lt_zero _)
  intro rest
  induction rest with
  | nil => exact fun front htext hm hearlier => ⟨front, [], htext, hm, hearlier⟩
  | cons x rest ih =>
      intro front htext hm hearlier
      rw [firstFrom] at hm
      cases hhere : p.matchAt ⟨front.getLast?, x :: rest, front.length⟩ with
      | some found =>
          rw [hhere] at hm
          exact ⟨front, x :: rest, htext, hhere.trans hm, hearlier⟩
      | none =>
          rw [hhere] at hm
          refine ih (front ++ [x]) (by rw [htext, List.append_assoc, List.singleton_append]) ?_ ?_
          · rwa [List.getLast?_concat, List.length_append, List.length_singleton]
          · intro front' rest' htext' hlt
            rw [List.length_append, List.length_singleton] at hlt
            rcases Nat.lt_or_eq_of_le (Nat.le_of_lt_succ hlt) with hlt | heq
            · exact hearlier front' rest' htext' hlt
            · obtain ⟨rfl, rfl⟩ := List.append_inj (htext'.symm.trans htext) heq
              exact hhere

/-- A search finds exactly the match at the first place that has one. -/
theorem first?_eq_some_iff {text : List Char} {m : Match σ} : p.first? text = some m ↔
    ∃ front rest, text = front ++ rest ∧ p.matchAt (.between front rest) = some m ∧
      ∀ front' rest', text = front' ++ rest' → front'.length < front.length →
        p.matchAt (.between front' rest') = none := by
  refine ⟨exists_of_first?_eq_some, ?_⟩
  rintro ⟨front, rest, htext, hm, hearlier⟩
  obtain ⟨found, hfound⟩ : ∃ found, p.first? text = some found := by
    refine Option.ne_none_iff_exists'.1 fun hnone => ?_
    rw [first?_eq_none_iff.1 hnone front rest htext] at hm
    cases hm
  obtain ⟨front', rest', htext', hm', hearlier'⟩ := exists_of_first?_eq_some hfound
  have hlength : front.length = front'.length := by
    refine Nat.le_antisymm (Nat.le_of_not_lt fun hlt => ?_) (Nat.le_of_not_lt fun hlt => ?_)
    · rw [hearlier front' rest' htext' hlt] at hm'
      cases hm'
    · rw [hearlier' front rest htext hlt] at hm
      cases hm
  obtain ⟨rfl, rfl⟩ := List.append_inj (htext.symm.trans htext') hlength
  rw [hfound, ← hm', hm]

/-- A pattern occurs in a text exactly if it describes some stretch of it. -/
theorem occursIn_iff {text : List Char} : p.occursIn text = true ↔
    ∃ front stretch rest, text = front ++ (stretch ++ rest) ∧ p.Describes front stretch rest := by
  constructor
  · intro hoccurs
    by_contra hno
    rw [occursIn_eq_false] at hoccurs
    · cases hoccurs
    · rintro front rest rfl
      exact matchAt_eq_none fun stretch rest' htext hd =>
        hno ⟨front, stretch, rest', by rw [htext], hd⟩
  · rintro ⟨front, stretch, rest, rfl, hd⟩
    obtain ⟨m, hm⟩ := exists_matchAt hd
    exact @isSome_firstFrom σ p [] (stretch ++ rest) front m hm

/-- The matches of pieces one behind the other, when each piece has the matches of its own. -/
theorem finds_flatMap {ι κ : Type} {text : ι → List Char} (own : ι → List κ)
    (Holds : List Char → List Char → Prop) {IsFor : Match σ → κ → Prop}
    (hpiece : ∀ i front rest, Holds front (text i ++ rest) →
      ∃ found, Finds p front (text i) rest found ∧ List.Forall₂ IsFor found (own i))
    (hnext : ∀ i front rest, Holds front (text i ++ rest) → Holds (front ++ text i) rest)
    (items : List ι) (hstart : Holds front (items.flatMap text ++ rest)) :
    ∃ found, Finds p front (items.flatMap text) rest found
      ∧ List.Forall₂ IsFor found (items.flatMap own) := by
  induction items generalizing front with
  | nil => exact ⟨[], .nil, .nil⟩
  | cons i items ih =>
      rw [List.flatMap_cons, List.append_assoc] at hstart
      obtain ⟨found, hfound, hown⟩ := hpiece i front _ hstart
      obtain ⟨found', hfound', hown'⟩ := ih (hnext i front _ hstart)
      exact ⟨found ++ found', hfound.append hfound', List.rel_append hown hown'⟩

/-! Stretches without a match. -/

/-- None of the texts that start in a stretch begins in a given way. -/
def Quiet (opens : List Char → Prop) : (stretch rest : List Char) → Prop
  | [], _ => True
  | x :: t, rest => ¬opens (x :: t ++ rest) ∧ Quiet opens t rest

theorem Quiet.append {opens : List Char → Prop} {s t : List Char}
    (hs : Quiet opens s (t ++ rest)) (ht : Quiet opens t rest) : Quiet opens (s ++ t) rest := by
  induction s with
  | nil => exact ht
  | cons x s ih =>
      rw [Quiet, List.cons_append, ← List.append_assoc] at hs
      exact ⟨hs.1, ih hs.2⟩

theorem Quiet.flatMap {ι : Type} {opens : List Char → Prop} {text : ι → List Char}
    (h : ∀ i rest, Quiet opens (text i) rest) (items : List ι) :
    Quiet opens (items.flatMap text) rest := by
  induction items with
  | nil => trivial
  | cons i items ih => exact (h i _).append ih

theorem Quiet.of_forall {opens : List Char → Prop} {stretch : List Char}
    (h : ∀ x ∈ stretch, ∀ t, ¬opens (x :: t)) : Quiet opens stretch rest := by
  induction stretch with
  | nil => trivial
  | cons x t ih =>
      obtain ⟨hx, ht⟩ := List.forall_mem_cons.1 h
      exact ⟨hx _, ih ht⟩

/-- A stretch up to a guard is quiet if what opens a match runs up to some mark without the guard,
and the stretch has no such mark. -/
theorem Quiet.of_guard {opens : List Char → Prop} {guard : Char} (isMark : Char → Prop)
    (hopens : ∀ t, opens t →
      ∃ lead mark rest, t = lead ++ mark :: rest ∧ isMark mark ∧ guard ∉ lead)
    (hguard : ¬isMark guard) {stretch : List Char} (hstretch : ∀ c ∈ stretch, ¬isMark c) :
    Quiet opens (stretch ++ [guard]) rest := by
  have hhere : ∀ t : List Char, (∀ c ∈ t, ¬isMark c) → ¬opens (t ++ guard :: rest) := by
    intro t ht h
    obtain ⟨lead, mark, rest', heq, hmark, hlead⟩ := hopens _ h
    have hmem : mark ∉ t := fun hmem => ht mark hmem hmark
    obtain ⟨-, rfl, -⟩ := Text.append_marks_inj hmem hlead heq
    exact hguard hmark
  induction stretch with
  | nil => exact ⟨hhere [] (by simp), trivial⟩
  | cons x t ih =>
      refine ⟨?_, ih (List.forall_mem_cons.1 hstretch).2⟩
      have h := hhere (x :: t) hstretch
      rwa [← List.singleton_append (x := guard), ← List.append_assoc] at h

/-- A quiet stretch has no matches if every match begins in the given way. -/
theorem finds_nil_of_quiet {opens : List Char → Prop}
    (hopens : ∀ {front stretch rest}, p.Describes front stretch rest → opens (stretch ++ rest))
    {stretch : List Char} (h : Quiet opens stretch rest) : Finds p front stretch rest [] := by
  induction stretch generalizing front with
  | nil => exact .nil
  | cons x t ih =>
      refine .cons (matchAt_eq_none ?_) (ih h.2)
      intro stretch rest' htext hd
      exact h.1 (htext ▸ hopens hd)

section

variable {opens : List Char → Prop}
  (hopens : ∀ {front stretch rest}, p.Describes front stretch rest → opens (stretch ++ rest))

include hopens

/-- A match between quiet stretches is the only one there. -/
theorem Finds.single_of_quiet {lead core tail : List Char} {m : Match σ}
    (hlead : Quiet opens lead (core ++ (tail ++ rest))) (htail : Quiet opens tail rest)
    (hne : core ≠ []) (hm : p.matchAt (.between (front ++ lead) (core ++ (tail ++ rest))) = some m)
    (hstop : m.stop = .between (front ++ lead ++ core) (tail ++ rest)) :
    Finds p front (lead ++ (core ++ tail)) rest [m] := by
  have hfirst : Finds p front lead (core ++ tail ++ rest) [] := by
    rw [List.append_assoc]
    exact finds_nil_of_quiet hopens hlead
  exact hfirst.append ((Finds.single hne hm hstop).append (finds_nil_of_quiet hopens htail))

/-- The matches in a text of pieces with one match each, between quiet stretches. -/
theorem forall₂_all {ι : Type} {text : ι → List Char} {IsFor : Match σ → ι → Prop}
    (hpiece : ∀ i front rest, ∃ m, Finds p front (text i) rest [m] ∧ IsFor m i)
    (items : List ι) (lead tail : List Char) (hlead : ∀ rest, Quiet opens lead rest)
    (htail : Quiet opens tail []) (hnil : ¬opens []) :
    List.Forall₂ IsFor (p.all (lead ++ (items.flatMap text ++ tail))) items := by
  obtain ⟨found, hfound, hitems⟩ : ∃ found, Finds p lead (items.flatMap text) (tail ++ []) found
      ∧ List.Forall₂ IsFor found (items.flatMap ([·])) :=
    finds_flatMap ([·]) (fun _ _ => True)
      (fun i front rest _ =>
        have ⟨m, hm, hi⟩ := hpiece i front rest
        ⟨[m], hm, .cons hi .nil⟩)
      (fun _ _ _ _ => trivial) items trivial
  have hfirst : Finds p [] lead (items.flatMap text ++ tail ++ []) [] :=
    finds_nil_of_quiet hopens (hlead _)
  have hlast : Finds p (lead ++ items.flatMap text) tail [] [] := finds_nil_of_quiet hopens htail
  have hall := hfirst.append (hfound.append hlast)
  have hend : p.matchAt (.between (lead ++ (items.flatMap text ++ tail)) []) = none :=
    matchAt_eq_none fun _ _ htext hd => hnil (htext ▸ hopens hd)
  rw [all_eq_of_finds hall hend, List.nil_append, List.append_nil]
  rwa [List.flatMap_singleton'] at hitems

end

/-- A text is at the start of a line. -/
def AtLineStart (front : List Char) : Prop := ∀ y ∈ front.getLast?, y = '\n'

/-- A pattern that starts with a line has matches only at the starts of lines. -/
theorem finds_nil_of_line (hstart : ∀ {front stretch rest}, p.Describes front stretch rest →
      AtLineStart front) {line : List Char} (hline : '\n' ∉ line)
    (hhere : p.matchAt (.between front (line ++ '\n' :: rest)) = none) :
    Finds p front (line ++ ['\n']) rest [] := by
  induction line generalizing front with
  | nil => exact .cons hhere .nil
  | cons x line ih =>
      rw [List.mem_cons, not_or] at hline
      rw [List.cons_append]
      refine .cons ?_ (ih hline.2 (matchAt_eq_none ?_))
      · rwa [← List.cons_append, List.append_assoc]
      · intro stretch rest' _ hd
        have hx := hstart hd x (by rw [List.getLast?_concat, Option.mem_some_iff])
        exact hline.1 hx.symm

end ExtensionAtlas.Pattern
