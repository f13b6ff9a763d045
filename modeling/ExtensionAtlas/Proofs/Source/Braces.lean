import ExtensionAtlas.Source.Body
import Mathlib.Data.List.Infix

/-! Where a body ends. The search for the closing brace keeps count of the open levels, and no
prefix of what it passes over closes more of them than there are. So a body is known from the
braces: they match in it and a closing brace follows, or nothing closes it and it is the rest of the
text. -/

namespace ExtensionAtlas.Source

theorem takeBody_cons (depth : Nat) (c : Char) (rest : List Char) :
    takeBody depth (c :: rest) =
      if c == '\x7b' then c :: takeBody (depth + 1) rest
      else if c == '\x7d' then
        match depth with
        | 0 => []
        | depth + 1 => c :: takeBody depth rest
      else c :: takeBody depth rest := rfl

theorem takeBody_isPrefix (depth : Nat) (text : List Char) : takeBody depth text <+: text := by
  induction text generalizing depth with
  | nil => exact List.nil_prefix
  | cons c rest ih =>
      unfold takeBody
      split
      · exact List.cons_prefix_cons.2 ⟨rfl, ih _⟩
      · split
        · cases depth with
          | zero => exact List.nil_prefix
          | succ depth => exact List.cons_prefix_cons.2 ⟨rfl, ih _⟩
        · exact List.cons_prefix_cons.2 ⟨rfl, ih _⟩

/-! The levels that a text closes. -/

/-- Whether no prefix of a text closes more than `depth` levels beyond those that it opens. -/
def Within (depth : Nat) (text : List Char) : Prop :=
  ∀ front, front <+: text → front.count '\x7d' ≤ depth + front.count '\x7b'

section

variable {depth : Nat} {rest : List Char}

theorem within_nil : Within depth [] := by
  intro front hfront
  rw [List.prefix_nil.1 hfront]
  exact Nat.zero_le _

theorem within_cons_iff {c : Char} : Within depth (c :: rest) ↔ ∀ front, front <+: rest →
    (c :: front).count '\x7d' ≤ depth + (c :: front).count '\x7b' := by
  constructor
  · exact fun h front hfront => h _ (List.cons_prefix_cons.2 ⟨rfl, hfront⟩)
  · intro h front hfront
    rcases List.prefix_cons_iff.1 hfront with rfl | ⟨tail, rfl, htail⟩
    · exact Nat.zero_le _
    · exact h tail htail

theorem within_open : Within depth ('\x7b' :: rest) ↔ Within (depth + 1) rest := by
  refine within_cons_iff.trans (forall₂_congr fun front _ => ?_)
  rw [List.count_cons_of_ne (by decide), List.count_cons_self]
  omega

theorem within_close : Within (depth + 1) ('\x7d' :: rest) ↔ Within depth rest := by
  refine within_cons_iff.trans (forall₂_congr fun front _ => ?_)
  rw [List.count_cons_self, List.count_cons_of_ne (by decide)]
  omega

theorem not_within_close : ¬Within 0 ('\x7d' :: rest) := by
  intro h
  have hfirst := h ['\x7d'] (List.cons_prefix_cons.2 ⟨rfl, List.nil_prefix⟩)
  exact absurd hfirst (by decide)

theorem within_other {c : Char} (hopen : c ≠ '\x7b') (hclose : c ≠ '\x7d') :
    Within depth (c :: rest) ↔ Within depth rest := by
  refine within_cons_iff.trans (forall₂_congr fun front _ => ?_)
  rw [List.count_cons_of_ne hclose, List.count_cons_of_ne hopen]

end

/-- A search passes over a text that closes no more levels than there are. -/
theorem takeBody_append_of_within {depth depth' : Nat} {text : List Char} (h : Within depth text)
    (hlevel : depth' + text.count '\x7d' = depth + text.count '\x7b') (rest : List Char) :
    takeBody depth (text ++ rest) = text ++ takeBody depth' rest := by
  induction text generalizing depth with
  | nil =>
      obtain rfl : depth' = depth := hlevel
      rfl
  | cons c text ih =>
      rw [List.cons_append, takeBody_cons]
      by_cases hopen : c = '\x7b'
      · subst hopen
        rw [List.count_cons_of_ne (by decide), List.count_cons_self] at hlevel
        rw [if_pos (by decide), ih (within_open.1 h) (by omega), List.cons_append]
      · rw [if_neg (by simpa using hopen)]
        by_cases hclose : c = '\x7d'
        · subst hclose
          rw [List.count_cons_self, List.count_cons_of_ne (by decide)] at hlevel
          cases depth with
          | zero => exact absurd h not_within_close
          | succ depth =>
              rw [if_pos (by decide)]
              change '\x7d' :: takeBody depth (text ++ rest) = _
              rw [ih (within_close.1 h) (by omega), List.cons_append]
        · rw [List.count_cons_of_ne hclose, List.count_cons_of_ne hopen] at hlevel
          rw [if_neg (by simpa using hclose), ih ((within_other hopen hclose).1 h) hlevel,
            List.cons_append]

theorem within_takeBody (depth : Nat) (text : List Char) : Within depth (takeBody depth text) := by
  fun_induction takeBody depth text with
  | case1 => exact within_nil
  | case2 depth c rest hopen ih =>
      rw [beq_iff_eq.1 hopen]
      exact within_open.2 ih
  | case3 => exact within_nil
  | case4 c rest hopen hclose depth ih =>
      rw [beq_iff_eq.1 hclose]
      exact within_close.2 ih
  | case5 depth c rest hopen hclose ih =>
      exact (within_other (by simpa using hopen) (by simpa using hclose)).2 ih

/-- A search ends in front of a brace that closes the last level, or with the text. -/
theorem takeBody_ends (depth : Nat) (text : List Char) :
    (∃ rest, text = takeBody depth text ++ '\x7d' :: rest ∧
      (takeBody depth text).count '\x7d' = depth + (takeBody depth text).count '\x7b') ∨
    takeBody depth text = text := by
  fun_induction takeBody depth text with
  | case1 => exact .inr rfl
  | case2 depth c rest hopen ih =>
      obtain rfl := beq_iff_eq.1 hopen
      refine ih.imp (fun ⟨behind, htext, hlevel⟩ => ⟨behind, congrArg _ htext, ?_⟩) (congrArg _)
      rw [List.count_cons_of_ne (by decide), List.count_cons_self, hlevel]
      omega
  | case3 c rest hopen hclose =>
      obtain rfl := beq_iff_eq.1 hclose
      exact .inl ⟨rest, rfl, rfl⟩
  | case4 c rest hopen hclose depth ih =>
      obtain rfl := beq_iff_eq.1 hclose
      refine ih.imp (fun ⟨behind, htext, hlevel⟩ => ⟨behind, congrArg _ htext, ?_⟩) (congrArg _)
      rw [List.count_cons_self, List.count_cons_of_ne (by decide), hlevel]
      omega
  | case5 depth c rest hopen hclose ih =>
      refine ih.imp (fun ⟨behind, htext, hlevel⟩ => ⟨behind, congrArg _ htext, ?_⟩) (congrArg _)
      rw [List.count_cons_of_ne (by simpa using hclose),
        List.count_cons_of_ne (by simpa using hopen), hlevel]

/-! Texts with matching braces. -/

/-- A text in which no prefix closes more levels than it opens, and in the end none is open. -/
structure Matched (text : List Char) : Prop where
  within : ∀ front, front <+: text → front.count '\x7d' ≤ front.count '\x7b'
  level : text.count '\x7d' = text.count '\x7b'

instance (text : List Char) : Decidable (Matched text) :=
  decidable_of_iff
    ((∀ front ∈ text.inits, front.count '\x7d' ≤ front.count '\x7b') ∧
      text.count '\x7d' = text.count '\x7b')
    ⟨fun h => ⟨fun front hfront => h.1 front ((List.mem_inits front text).2 hfront), h.2⟩,
      fun h => ⟨fun front hfront => h.within front ((List.mem_inits front text).1 hfront),
        h.level⟩⟩

theorem within_zero_iff {text : List Char} : Within 0 text ↔
    ∀ front, front <+: text → front.count '\x7d' ≤ front.count '\x7b' := by
  simp only [Within, Nat.zero_add]

/-- With matching braces there are enough levels at every depth. -/
theorem Matched.within_depth {text : List Char} (h : Matched text) (depth : Nat) :
    Within depth text := by
  intro front hfront
  calc front.count '\x7d' ≤ front.count '\x7b' := h.within front hfront
    _ ≤ depth + front.count '\x7b' := Nat.le_add_left _ _

/-- A text that a search for a closing brace passes over at every depth. -/
def Balanced (text : List Char) : Prop :=
  ∀ depth rest, takeBody depth (text ++ rest) = text ++ takeBody depth rest

/-- Exactly the texts with matching braces are passed over. -/
theorem balanced_iff_matched {text : List Char} : Balanced text ↔ Matched text := by
  constructor
  · intro h
    have htext : takeBody 0 (text ++ ['\x7d']) = text := by
      rw [h]
      exact List.append_nil text
    have hwithin := within_takeBody 0 (text ++ ['\x7d'])
    rw [htext] at hwithin
    refine ⟨within_zero_iff.1 hwithin, ?_⟩
    rcases takeBody_ends 0 (text ++ ['\x7d']) with ⟨_, -, hlevel⟩ | hall
    · rwa [htext, Nat.zero_add] at hlevel
    · rw [htext] at hall
      simp at hall
  · intro h depth rest
    exact takeBody_append_of_within (h.within_depth depth) (congrArg (depth + ·) h.level) rest

namespace Balanced

theorem nil : Balanced [] := fun _ _ => rfl

theorem append {s t : List Char} (hs : Balanced s) (ht : Balanced t) : Balanced (s ++ t) := by
  intro depth rest
  rw [List.append_assoc, hs, ht, List.append_assoc]

theorem of_not_brace {x : Char} (hopen : (x == '\x7b') = false) (hclose : (x == '\x7d') = false) :
    Balanced [x] := by
  intro depth rest
  rw [List.singleton_append, List.singleton_append, takeBody_cons]
  simp [hopen, hclose]

/-- Braces around a text that is passed over. -/
theorem braces {s : List Char} (h : Balanced s) : Balanced ('\x7b' :: (s ++ ['\x7d'])) := by
  intro depth rest
  have hopen (t : List Char) : takeBody depth ('\x7b' :: t) = '\x7b' :: takeBody (depth + 1) t :=
    rfl
  have hclose : takeBody (depth + 1) ('\x7d' :: rest) = '\x7d' :: takeBody depth rest := rfl
  rw [List.cons_append, hopen, List.append_assoc, List.singleton_append, h, hclose,
    List.cons_append, List.append_assoc, List.singleton_append]

theorem flatMap {ι : Type} {text : ι → List Char} (h : ∀ i, Balanced (text i)) (items : List ι) :
    Balanced (items.flatMap text) := by
  induction items with
  | nil => exact nil
  | cons i items ih => exact (h i).append ih

end Balanced

/-! Bodies. -/

theorem body_of_brace (front rest : List Char) :
    body (front ++ '\x7b' :: rest) (front.length + 1) = takeBody 0 rest := by
  have hlength : (front ++ ['\x7b']).length = front.length + 1 := List.length_append ..
  rw [body, List.append_cons, List.drop_left' hlength]

theorem bodyFrom_natCast (source : List Char) (start : Nat) :
    bodyFrom source start = .ok (body source start) := by
  rw [bodyFrom, if_pos (Int.natCast_nonneg start), Int.toNat_natCast]

/-- A text with matching braces in front of a closing brace is the body behind the brace in front
of it. Every body is of that sort, or it is the rest of its text and no prefix of that closes more
levels than it opens. -/
theorem bodyFrom_matched :
    (∀ front text rest : List Char, Matched text →
      bodyFrom (front ++ '\x7b' :: (text ++ '\x7d' :: rest)) (front.length + 1 : Nat) = .ok text) ∧
    ∀ (source : List Char) (start : Nat),
      bodyFrom source start = .ok (body source start) ∧ body source start <+: source.drop start ∧
      ((Matched (body source start) ∧
          ∃ rest, source.drop start = body source start ++ '\x7d' :: rest) ∨
        (body source start = source.drop start ∧
          ∀ front, front <+: source.drop start → front.count '\x7d' ≤ front.count '\x7b')) := by
  constructor
  · intro front text rest h
    have hclosed : takeBody 0 ('\x7d' :: rest) = [] := rfl
    rw [bodyFrom_natCast, body_of_brace, balanced_iff_matched.2 h, hclosed, List.append_nil]
  · intro source start
    refine ⟨bodyFrom_natCast source start, takeBody_isPrefix 0 _, ?_⟩
    have hwithin : Within 0 (body source start) := within_takeBody 0 (source.drop start)
    rcases takeBody_ends 0 (source.drop start) with ⟨rest, htext, hlevel⟩ | hall
    · rw [Nat.zero_add] at hlevel
      exact .inl ⟨⟨within_zero_iff.1 hwithin, hlevel⟩, rest, htext⟩
    · have hall : body source start = source.drop start := hall
      rw [hall] at hwithin ⊢
      exact .inr ⟨rfl, within_zero_iff.1 hwithin⟩

/-- Braces in a body are passed over level by level, and what is behind the closing one does not
count. -/
theorem bodyFrom_matched_nested :
    let front := "head".toList
    let text := ("a\x7bb\x7bcore\x7d" ++ "c\x7d" ++ "d\x7b\x7d").toList
    let rest := ("tail\x7d\x7b").toList
    Matched text ∧ bodyFrom (front ++ '\x7b' :: (text ++ '\x7d' :: rest)) 5 = .ok text := by
  have hmatched : Matched ("a\x7bb\x7bcore\x7d" ++ "c\x7d" ++ "d\x7b\x7d").toList := by decide
  exact ⟨hmatched, bodyFrom_matched.1 _ _ _ hmatched⟩

/-- A body that nothing closes. -/
example : bodyFrom "\x7babc\x7bdef".toList 1 = .ok "abc\x7bdef".toList := by decide

end ExtensionAtlas.Source
