import ExtensionAtlas.Proofs.Source.Braces
import ExtensionAtlas.Proofs.Source.Declarations

/-! What stands on the lines of printed text. No line but that of a brace has anything but plain
text and a few marks, so the braces in a body are the empty blocks of its fields, and the body of a
printed object ends where its last line starts. -/

namespace ExtensionAtlas.Source

open Text (Numeral Plain Spelling)

/-- Whether a character can stand on a line that has no brace. -/
def isInline (c : Char) : Bool :=
  Text.isPlainPart c || c == '\x22' || c == '(' || c == ')' || c == ';' || c == ':' || c == ','

theorem isInline_ascii {c : Char} (h : isInline c = true) : c.toNat < 128 := by
  simp only [isInline, Bool.or_eq_true, beq_iff_eq] at h
  rcases h with (((((h | rfl) | rfl) | rfl) | rfl) | rfl) | rfl
  · exact Text.isPlainPart_ascii h
  all_goals decide

/-- A text without line feeds, brackets and braces. -/
def Inline (text : List Char) : Prop := ∀ c ∈ text, isInline c = true

instance (text : List Char) : Decidable (Inline text) :=
  inferInstanceAs (Decidable (∀ c ∈ text, isInline c = true))

namespace Inline

variable {s t : List Char}

theorem append (hs : Inline s) (ht : Inline t) : Inline (s ++ t) :=
  fun c hc => (List.mem_append.1 hc).elim (hs c) (ht c)

theorem cons {x : Char} (hx : isInline x = true) (ht : Inline t) : Inline (x :: t) :=
  List.forall_mem_cons.2 ⟨hx, ht⟩

theorem nil : Inline [] := fun _ hc => absurd hc List.not_mem_nil

theorem not_mem (h : Inline t) {mark : Char} (hmark : isInline mark = false) : mark ∉ t :=
  Text.not_mem_of_forall h hmark

theorem intercalate {separator : List Char} (hseparator : Inline separator)
    {texts : List (List Char)} (h : ∀ t ∈ texts, Inline t) :
    Inline (separator.intercalate texts) := by
  intro c hc
  rcases Text.mem_of_mem_intercalate hc with hc | ⟨t, ht, hc⟩
  · exact hseparator c hc
  · exact h t ht c hc

end Inline

theorem inline_plain (p : Plain) : Inline p.chars := by
  intro c hc
  rw [isInline, p.parts c hc]
  rfl

theorem inline_spelling {keyword : String} (hsmall : Text.Small keyword.toList)
    (s : Spelling keyword) : Inline s.letters := by
  intro c hc
  rw [isInline, Text.isPlainPart, Char.isAlphanum, s.isAlpha hsmall hc]
  rfl

theorem inline_numeral (n : Numeral) : Inline n.digits := by
  intro c hc
  rw [isInline, Text.isPlainPart, Char.isAlphanum, n.decimal c hc, Bool.or_true]
  rfl

theorem inline_quote (p : Plain) : Inline (quote p) :=
  .cons (by decide) ((inline_plain p).append (.cons (by decide) .nil))

theorem inline_indent : Inline indent := by decide

theorem ParameterDecl.inline_print (d : ParameterDecl) : Inline d.print := by
  refine .append ?_ ((inline_plain d.name).append (.cons (by decide) (.cons (by decide)
    (inline_plain d.type))))
  cases d.marker with
  | none => exact .nil
  | some v => exact (inline_spelling (by decide) v).append (.cons (by decide) .nil)

theorem FieldHead.inline_core (d : FieldHead) : Inline d.core :=
  (inline_spelling (by decide) d.keyword).append <| .cons (by decide) <|
    (inline_numeral d.number).append <| .cons (by decide) <| .cons (by decide) <|
    (inline_quote d.name).append <| .cons (by decide) <| .cons (by decide) <|
    (inline_plain d.type).append <| .cons (by decide) .nil

theorem Modifier.inline_letters (m : Modifier) : Inline m.letters := by
  cases m with
  | localOnly s => exact inline_spelling (by decide) s
  | internalOnly s => exact inline_spelling (by decide) s

theorem ProcedureDecl.inline_core (d : ProcedureDecl) : Inline d.core := by
  have hlist : Inline d.list :=
    .intercalate (by decide) fun t ht => by
      obtain ⟨p, -, rfl⟩ := List.mem_map.1 ht
      exact p.inline_print
  refine .append ?_ <| (inline_spelling (by decide) d.keyword).append <| .cons (by decide) <|
    (inline_quote d.name).append <| .cons (by decide) <| hlist.append <| .cons (by decide) <|
    .append ?_ (.cons (by decide) .nil)
  · cases d.modifier with
    | none => exact .nil
    | some m => exact m.inline_letters.append (.cons (by decide) .nil)
  · cases d.returns with
    | none => exact .nil
    | some r => exact .cons (by decide) (.cons (by decide) (inline_plain r.type))

theorem ExtendsClause.inline_print (e : ExtendsClause) : Inline e.print :=
  .cons (by decide) ((inline_spelling (by decide) e.keyword).append
    (.cons (by decide) (inline_quote e.target)))

namespace ImplementsClause

variable (i : ImplementsClause)

theorem inline_names : Inline i.names := by
  refine .intercalate (by decide) fun t ht => ?_
  obtain ⟨p, -, rfl⟩ := List.mem_map.1 ht
  exact inline_plain p

theorem inline_print : Inline i.print :=
  .cons (by decide) ((inline_spelling (by decide) i.keyword).append
    (.cons (by decide) i.inline_names))

end ImplementsClause

theorem small_keyword : ∀ kind : ObjectKind, Text.Small kind.keyword.toList := by
  intro kind
  cases kind <;> decide

namespace ObjectDecl

variable (d : ObjectDecl)

/-- The line that declares an object. -/
def declaration : List Char :=
  d.opening ++ (d.base.elim [] ExtendsClause.print ++ d.interfaces.elim [] ImplementsClause.print)

theorem heading_eq : d.heading = d.declaration ++ ['\n', '\x7b'] := by
  simp [heading, declaration]

theorem inline_declaration : Inline d.declaration := by
  refine .append ?_ (.append ?_ ?_)
  · exact (inline_spelling (small_keyword d.kind) d.keyword).append <| .cons (by decide) <|
      (inline_numeral d.number).append <| .cons (by decide) <| inline_quote d.name
  · cases d.base with
    | none => exact .nil
    | some e => exact e.inline_print
  · cases d.interfaces with
    | none => exact .nil
    | some i => exact i.inline_print

end ObjectDecl

/-- No printed member has a bracket. -/
theorem not_mem_members {mark : Char} (h : isInline mark = false)
    (hmark : mark ∉ ['\x7b', '\x7d', '\n']) (fields : List FieldDecl)
    (procedures : List ProcedureDecl) :
    mark ∉ fields.flatMap FieldDecl.print ++ procedures.flatMap ProcedureDecl.print := by
  have hindent : mark ∉ indent := inline_indent.not_mem h
  simp only [List.mem_cons, List.not_mem_nil, or_false, not_or] at hmark
  obtain ⟨hopen, hclose, hfeed⟩ := hmark
  have hspace : mark ≠ ' ' := by
    rintro rfl
    cases h
  rw [List.mem_append, List.mem_flatMap, List.mem_flatMap]
  rintro (⟨d, -, hd⟩ | ⟨d, -, hd⟩)
  · have hcore := d.inline_core.not_mem h
    simp [FieldDecl.print, hindent, hcore, hopen, hclose, hfeed, hspace] at hd
  · have hcore := d.inline_core.not_mem h
    simp [ProcedureDecl.print, hindent, hcore, hfeed] at hd

/-! The end of a body. -/

theorem Balanced.of_inline {text : List Char} (h : Inline text) : Balanced text := by
  induction text with
  | nil => exact .nil
  | cons x text ih =>
      have hx : ∀ brace, isInline brace = false → (x == brace) = false := by
        intro brace hbrace
        rw [beq_eq_false_iff_ne]
        rintro rfl
        exact h.not_mem hbrace List.mem_cons_self
      have hhead : Balanced [x] := .of_not_brace (hx _ (by decide)) (hx _ (by decide))
      exact hhead.append (ih (List.forall_mem_cons.1 h).2)

theorem FieldDecl.balanced_print (d : FieldDecl) : Balanced d.print := by
  refine (Balanced.of_inline inline_indent).append ((Balanced.of_inline d.inline_core).append ?_)
  have hspace : Balanced [' '] := .of_not_brace rfl rfl
  exact hspace.append (hspace.braces.append (.of_not_brace rfl rfl))

theorem ProcedureDecl.balanced_print (d : ProcedureDecl) : Balanced d.print :=
  (Balanced.of_inline inline_indent).append
    ((Balanced.of_inline d.inline_core).append (.of_not_brace rfl rfl))

namespace ObjectDecl

variable (d : ObjectDecl)

theorem balanced_members : Balanced d.members :=
  (Balanced.flatMap FieldDecl.balanced_print d.fields).append
    (Balanced.flatMap ProcedureDecl.balanced_print d.procedures)

/-- The body behind the heading of an object holds its members. -/
theorem body_around {members : List Char} (h : Balanced members) (front rest : List Char) :
    body (front ++ (d.around members ++ rest)) (d.header front).bodyStart = '\n' :: members := by
  have hmembers : Balanced ('\n' :: members) :=
    (Balanced.of_not_brace rfl rfl : Balanced ['\n']).append h
  have hsource : front ++ (d.around members ++ rest)
      = (front ++ d.heading) ++ ('\n' :: members ++ ('\x7d' :: '\n' :: rest)) := by
    simp [around]
  rw [body, hsource, header, List.drop_left, hmembers]
  simp [takeBody]

end ObjectDecl

end ExtensionAtlas.Source
