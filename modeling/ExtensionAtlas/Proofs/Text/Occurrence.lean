import Mathlib.Data.List.Infix
import Mathlib.Data.List.TakeWhile
import ExtensionAtlas.Text.Search

/-! Where one text stands in another, and where a text is cut at a mark. -/

namespace ExtensionAtlas.Text

/-- A text is found in another exactly when it is a contiguous part of it. -/
theorem occursIn_iff_infix (part whole : List Char) :
    occursIn part whole = true ↔ part <:+: whole := by
  induction whole with
  | nil => simp [occursIn]
  | cons c rest ih =>
      rw [occursIn, Bool.or_eq_true, ih, List.infix_cons_iff, List.isPrefixOf_iff_prefix]

theorem mem_of_mem_intercalate {c : Char} {separator : List Char} {texts : List (List Char)}
    (h : c ∈ separator.intercalate texts) : c ∈ separator ∨ ∃ t ∈ texts, c ∈ t := by
  induction texts with
  | nil => exact absurd h List.not_mem_nil
  | cons t texts ih =>
      cases texts with
      | nil => exact .inr ⟨t, List.mem_cons_self, by rwa [List.intercalate_singleton] at h⟩
      | cons u us =>
          rw [List.intercalate_cons_cons, List.mem_append, List.mem_append] at h
          rcases h with (h | h) | h
          · exact .inr ⟨t, List.mem_cons_self, h⟩
          · exact .inl h
          · exact (ih h).imp_right fun ⟨s, hs, hc⟩ => ⟨s, List.mem_cons_of_mem t hs, hc⟩

theorem mem_intercalate_of_mem {c : Char} {separator : List Char} {texts : List (List Char)}
    {t : List Char} (ht : t ∈ texts) (h : c ∈ t) : c ∈ separator.intercalate texts := by
  induction texts with
  | nil => exact absurd ht List.not_mem_nil
  | cons u texts ih =>
      cases texts with
      | nil => rwa [List.intercalate_singleton, ← List.mem_singleton.1 ht]
      | cons v vs =>
          rw [List.intercalate_cons_cons, List.mem_append, List.mem_append]
          rcases List.mem_cons.1 ht with rfl | ht
          · exact .inl (.inl h)
          · exact .inr (ih ht)

/-- Two ways to cut a text at a mark agree if neither mark stands in front of the other cut. -/
theorem append_marks_inj {mark mark' : Char} {front front' back back' : List Char}
    (h : mark' ∉ front) (h' : mark ∉ front')
    (heq : front ++ mark :: back = front' ++ mark' :: back') :
    front = front' ∧ mark = mark' ∧ back = back' := by
  induction front generalizing front' with
  | nil =>
      cases front' with
      | nil => simpa using heq
      | cons d rest =>
          rw [List.nil_append, List.cons_append, List.cons.injEq] at heq
          exact absurd (heq.1 ▸ List.mem_cons_self) h'
  | cons c rest ih =>
      cases front' with
      | nil =>
          rw [List.nil_append, List.cons_append, List.cons.injEq] at heq
          exact absurd (heq.1 ▸ List.mem_cons_self) h
      | cons d rest' =>
          rw [List.cons_append, List.cons_append, List.cons.injEq] at heq
          rw [List.mem_cons, not_or] at h h'
          obtain ⟨hrest, hback⟩ := ih h.2 h'.2 heq.2
          exact ⟨by rw [heq.1, hrest], hback⟩

theorem append_mark_inj {mark : Char} {front front' back back' : List Char} (h : mark ∉ front)
    (h' : mark ∉ front') (heq : front ++ mark :: back = front' ++ mark :: back') :
    front = front' ∧ back = back' :=
  have ⟨hfront, _, hback⟩ := append_marks_inj h h' heq
  ⟨hfront, hback⟩

/-- Two ways to cut a text at a mark also agree if the mark stands in neither of the backs. -/
theorem append_mark_inj_right {mark : Char} {front front' back back' : List Char} (h : mark ∉ back)
    (h' : mark ∉ back') (heq : front ++ mark :: back = front' ++ mark :: back') :
    front = front' ∧ back = back' := by
  have hreversed : back.reverse ++ mark :: front.reverse =
      back'.reverse ++ mark :: front'.reverse := by
    simpa using congrArg List.reverse heq
  obtain ⟨hback, hfront⟩ := append_mark_inj (mt List.mem_reverse.1 h) (mt List.mem_reverse.1 h')
    hreversed
  exact ⟨List.reverse_injective hfront, List.reverse_injective hback⟩

/-- The shorter one of two starts of a text is a start of the longer one. -/
theorem exists_between {front back front' back' : List Char} (heq : front ++ back = front' ++ back')
    (hle : front.length ≤ front'.length) : ∃ middle, front' = front ++ middle ∧
      back = middle ++ back' := by
  rcases List.append_eq_append_iff.1 heq with ⟨middle, hfront, hback⟩ | ⟨middle, rfl, rfl⟩
  · exact ⟨middle, hfront, hback⟩
  · obtain rfl : middle = [] := by
      rw [List.length_append] at hle
      exact List.length_eq_zero_iff.1 (by omega)
    exact ⟨[], by rw [List.append_nil, List.append_nil], rfl⟩

/-- A mark that is not in front of a cut stands behind it. -/
theorem exists_of_mark_notMem {mark : Char} {line rest front back : List Char}
    (h : mark ∉ front) (heq : line ++ mark :: rest = front ++ back) :
    ∃ tail, line = front ++ tail ∧ back = tail ++ mark :: rest := by
  rcases List.append_eq_append_iff.1 heq with ⟨middle, hfront, hback⟩ | ⟨tail, hline, hback⟩
  · cases middle with
    | nil => exact ⟨[], by simpa using hfront.symm, hback.symm⟩
    | cons x middle =>
        rw [List.cons_append, List.cons.injEq] at hback
        rw [hfront, ← hback.1] at h
        exact absurd (by simp) h
  · exact ⟨tail, hline, hback⟩

/-- What a text starts with lies in front of a mark that it does not have. -/
theorem exists_of_append_eq_append_cons {mark : Char} {front back whole rest : List Char}
    (h : mark ∉ front) (heq : front ++ back = whole ++ mark :: rest) :
    ∃ middle, whole = front ++ middle ∧ back = middle ++ mark :: rest := by
  rcases List.append_eq_append_iff.1 heq with ⟨middle, hwhole, hback⟩ | ⟨middle, hfront, hrest⟩
  · exact ⟨middle, hwhole, hback⟩
  · cases middle with
    | nil => exact ⟨[], by simpa using hfront.symm, by simpa using hrest.symm⟩
    | cons c middle =>
        rw [List.cons_append, List.cons.injEq] at hrest
        refine absurd ?_ h
        rw [hfront, hrest.1]
        exact List.mem_append_right _ List.mem_cons_self

/-- A mark lies in front of what a text ends with if that does not have it. -/
theorem exists_of_append_cons_eq_append {mark : Char} {front back whole rest : List Char}
    (h : mark ∉ rest) (heq : front ++ mark :: back = whole ++ rest) :
    ∃ middle, whole = front ++ mark :: middle ∧ back = middle ++ rest := by
  rcases List.append_eq_append_iff.1 heq with ⟨middle, hwhole, hback⟩ | ⟨middle, -, hrest⟩
  · cases middle with
    | nil =>
        rw [List.nil_append] at hback
        exact absurd (hback ▸ List.mem_cons_self) h
    | cons c middle =>
        rw [List.cons_append, List.cons.injEq] at hback
        exact ⟨middle, hback.1 ▸ hwhole, hback.2⟩
  · rw [hrest] at h
    exact absurd (List.mem_append_right _ List.mem_cons_self) h

theorem splitAt_ne_nil (separator : Char) (text : List Char) : splitAt separator text ≠ [] := by
  cases text with
  | nil => exact List.cons_ne_nil [] []
  | cons c rest =>
      rw [splitAt]
      split
      · exact List.cons_ne_nil _ _
      · split <;> exact List.cons_ne_nil _ _

theorem splitAt_of_not_mem {separator : Char} {text : List Char} (h : separator ∉ text) :
    splitAt separator text = [text] := by
  induction text with
  | nil => rfl
  | cons c rest ih =>
      rw [List.mem_cons, not_or] at h
      rw [splitAt, ih h.2]
      exact if_neg (by simpa using Ne.symm h.1)

/-- A character ends the first piece if it is the separator, and otherwise belongs to it. -/
theorem exists_splitAt_cons (separator c : Char) (rest : List Char) :
    ∃ first pieces, splitAt separator rest = first :: pieces ∧ splitAt separator (c :: rest) =
      if c = separator then [] :: first :: pieces else (c :: first) :: pieces := by
  obtain ⟨first, pieces, hrest⟩ := List.exists_cons_of_ne_nil (splitAt_ne_nil separator rest)
  refine ⟨first, pieces, hrest, ?_⟩
  simp only [splitAt, hrest, beq_iff_eq]

/-- A separator parts the pieces in front of it from those behind it. -/
theorem splitAt_append (separator : Char) (front back : List Char) :
    splitAt separator (front ++ separator :: back) =
      splitAt separator front ++ splitAt separator back := by
  induction front with
  | nil =>
      obtain ⟨first, pieces, hback, hsplit⟩ := exists_splitAt_cons separator separator back
      rw [List.nil_append, hsplit, if_pos rfl, ← hback]
      rfl
  | cons c front ih =>
      obtain ⟨first, pieces, hfront, hsplit⟩ := exists_splitAt_cons separator c front
      obtain ⟨first', pieces', hrest, hsplit'⟩ :=
        exists_splitAt_cons separator c (front ++ separator :: back)
      rw [ih, hfront, List.cons_append, List.cons.injEq] at hrest
      obtain ⟨rfl, rfl⟩ := hrest
      rw [List.cons_append, hsplit, hsplit']
      by_cases hc : c = separator
      · rw [if_pos hc, if_pos hc]
        rfl
      · rw [if_neg hc, if_neg hc]
        rfl

/-- A text is split behind its first piece. -/
theorem splitAt_append_cons {separator : Char} {piece : List Char} (h : separator ∉ piece)
    (rest : List Char) :
    splitAt separator (piece ++ separator :: rest) = piece :: splitAt separator rest := by
  rw [splitAt_append, splitAt_of_not_mem h]
  rfl

/-- Pieces without the separator come apart again. -/
theorem splitAt_intercalate {separator : Char} {pieces : List (List Char)} (hne : pieces ≠ [])
    (h : ∀ piece ∈ pieces, separator ∉ piece) :
    splitAt separator ([separator].intercalate pieces) = pieces := by
  induction pieces with
  | nil => exact absurd rfl hne
  | cons piece pieces ih =>
      rw [List.forall_mem_cons] at h
      cases pieces with
      | nil => rw [List.intercalate_singleton, splitAt_of_not_mem h.1]
      | cons next rest =>
          rw [List.intercalate_cons_cons, List.append_assoc, List.singleton_append,
            splitAt_append_cons h.1, ih (List.cons_ne_nil _ _) h.2]

/-- The pieces of a text do not hold the separator. -/
theorem separator_notMem_of_mem_splitAt {separator : Char} {text piece : List Char}
    (h : piece ∈ splitAt separator text) : separator ∉ piece := by
  induction text generalizing piece with
  | nil => simp_all [splitAt]
  | cons c rest ih =>
      obtain ⟨first, pieces, hrest, hsplit⟩ := exists_splitAt_cons separator c rest
      rw [hrest] at ih
      rw [hsplit] at h
      split at h
      · rcases List.mem_cons.1 h with rfl | h
        · exact List.not_mem_nil
        · exact ih h
      · next hc =>
        rcases List.mem_cons.1 h with rfl | h
        · rw [List.mem_cons, not_or]
          exact ⟨Ne.symm hc, ih List.mem_cons_self⟩
        · exact ih (List.mem_cons_of_mem _ h)

/-- The other characters of a text are those of its pieces. -/
theorem exists_mem_splitAt_iff {separator c : Char} (h : c ≠ separator) {text : List Char} :
    (∃ piece ∈ splitAt separator text, c ∈ piece) ↔ c ∈ text := by
  induction text with
  | nil => simp [splitAt]
  | cons d rest ih =>
      obtain ⟨first, pieces, hrest, hsplit⟩ := exists_splitAt_cons separator d rest
      rw [List.mem_cons, ← ih, hrest, hsplit]
      split
      · next hd =>
        subst hd
        simp [h]
      · simp [or_assoc]

theorem forall_bne_iff {mark : Char} {text : List Char} :
    (∀ c ∈ text, (c != mark) = true) ↔ mark ∉ text := by
  constructor
  · intro h hmem
    exact bne_iff_ne.1 (h mark hmem) rfl
  · intro h c hc
    rw [bne_iff_ne]
    rintro rfl
    exact h hc

theorem cutAt_append_cons {separator : Char} {front : List Char} (h : separator ∉ front)
    (back : List Char) : cutAt separator (front ++ separator :: back) = (front, some back) := by
  have hfront := forall_bne_iff.2 h
  rw [cutAt, List.dropWhile_append_of_pos hfront, List.takeWhile_append_of_pos hfront]
  simp

end ExtensionAtlas.Text
