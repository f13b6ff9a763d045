import ExtensionAtlas.Analyzer
import ExtensionAtlas.Proofs.Source.FirstLine
import ExtensionAtlas.Proofs.Text.Utf8

/-! Files with a byte-order mark. The mark is read as a character in front of the text, neither a
blank nor part of a word, so what stands behind it on the first line stands at the start of no line.
A declaration there is not found, and a text with the mark has the objects of the lines behind its
first one. Its dependencies are those of the text without the mark, since they may stand anywhere.
-/

namespace ExtensionAtlas

open Pattern
open Source (OpensObject behindLine)

/-! The mark in front of a text. -/

/-- The mark starts no object, and nothing behind it on its line does. -/
theorem Source.not_opensObject_mark (text : List Char) : ¬OpensObject ('\ufeff' :: text) := by
  rintro ⟨gap, kind, -, word, mark, rest, htext, hgap, hword, -⟩
  have hhead : (gap ++ (word ++ mark :: rest)).head? = some '\ufeff' := by
    rw [← htext]
    rfl
  cases gap with
  | cons x gap =>
      rw [List.cons_append, List.head?_cons, Option.some.injEq] at hhead
      rw [hhead] at hgap
      exact absurd (hgap _ List.mem_cons_self) (by decide)
  | nil =>
      obtain ⟨x, letters, rfl, hx⟩ := Text.exists_head_of_agrees (small_keyword kind)
        (k_notMem_keyword kind) (keyword_ne_nil kind) hword
      rw [List.nil_append, List.cons_append, List.head?_cons, Option.some.injEq] at hhead
      rw [hhead] at hx
      exact absurd hx (by decide +kernel)

theorem Source.scan_mark (text : List Char) :
    Object.scan ('\ufeff' :: text) = Object.scan (behindLine text) :=
  scan_behindLine (not_opensObject_mark text)

/-- What starts at a word edge is found behind a character that it overlooks as it is without. -/
theorem Pattern.all_cons_of_wordEdge {σ : Type} {ps : List (Pattern σ)} {mark : Char}
    (hmark : (inOrder (.wordEdge :: ps)).Overlooks mark) (text : List Char) :
    (inOrder (.wordEdge :: ps)).all (mark :: text) =
      ((inOrder (.wordEdge :: ps)).all text).map (Match.behind mark 1) := by
  have hhere : (inOrder (.wordEdge :: ps)).matchAt (.between [] (mark :: text)) = none := by
    have hword : Text.isWord mark = false := hmark.1
    rw [matchAt, run_cons]
    exact if_neg (by simp [Cursor.atWordEdge, Cursor.between, hword])
  have hfinds : Finds (inOrder (.wordEdge :: ps)) [] [mark] text [] := .cons hhere .nil
  exact Eq.trans hfinds (allBehind_eq_map rfl hmark text)

namespace Dependency

theorem names_mark {ps : List (Pattern Unit)} (h : (inOrder (.wordEdge :: ps)).Overlooks '\ufeff')
    (text : List Char) : names (inOrder (.wordEdge :: ps)) ('\ufeff' :: text) =
      names (inOrder (.wordEdge :: ps)) text := by
  rw [names, all_cons_of_wordEdge h, List.map_map]
  rfl

theorem overlooks_mark : importPattern.Overlooks '\ufeff' ∧ recordPattern.Overlooks '\ufeff' := by
  have hmark : Text.isWord '\ufeff' = false := by decide +kernel
  have hrecords : (oneOf [word "Record", word "RecRef", word "Rec"] : Pattern Unit).Overlooks
      '\ufeff' := by
    refine overlooks_oneOf ?_
    simp [word, overlooks_letters]
  constructor
  · rw [importPattern, overlooks_inOrder]
    simp [Overlooks, hmark, word, overlooks_letters, someBlanks, someMost, char]
  · rw [recordPattern, overlooks_inOrder]
    simp [Overlooks, hmark, hrecords, overlooks_name, someBlanks, someMost]

theorem scan_mark (text : List Char) : scan ('\ufeff' :: text) = scan text := by
  rw [scan, scan, importPattern, recordPattern, names_mark overlooks_mark.1,
    names_mark overlooks_mark.2]

end Dependency

/-! The mark in front of a file. -/

/-- A file with some bytes stands at a path that a file can have. -/
def FileTree.Holds (t : FileTree) (p : Path) (bytes : List UInt8) : Prop :=
  '\x00' ∉ p.toText.toList ∧ ∃ place, t.find p = .ok place ∧ t.node? place = some (.file bytes)

theorem FileTree.readText_of_holds {t : FileTree} {p : Path} {bytes : List UInt8}
    {text : List Char} (h : t.Holds p bytes) (htext : Text.decodeUtf8 bytes = .ok text) :
    t.readText p = .ok (String.ofList (Text.unifyLines text)) := by
  obtain ⟨hnull, place, hplace, hnode⟩ := h
  rw [readText, if_neg (by simpa using hnull), hplace]
  simp only [hnode, htext]

namespace Extension

/-- What a source text declares and depends on. -/
def contents (e : Extension) : List Object × List Event × List DerivedField × List String :=
  (e.objects, e.events, e.flowfields, e.dependencies)

/-- The contents of a text with some objects. -/
def contentsWith (text : List Char) (objects : List Object) :
    List Object × List Event × List DerivedField × List String :=
  (objects, objects.flatMap Object.events, objects.flatMap Object.derivedFields,
    Dependency.scan text)

theorem map_contentsWith_inj {text : List Char} {first second : Except Fault (List Object)} :
    first.map (contentsWith text) = second.map (contentsWith text) ↔ first = second := by
  refine ⟨fun h => ?_, fun h => h ▸ rfl⟩
  cases first <;> cases second <;> simp_all [Except.map, contentsWith]

theorem contents_ofFile {t : FileTree} {p : Path} {lines : List Char}
    (h : t.readText p = .ok (String.ofList lines)) :
    (ofFile t p).map contents = (Object.scan lines).map (contentsWith lines) := by
  rw [ofFile, h]
  simp only [ofSource, String.toList_ofList]
  cases Object.scan lines <;> rfl

/-- A file with a byte-order mark has the objects of the lines behind the first one, and what goes
with them, and the dependencies of all. These are the contents of the file without the mark exactly
if the first line adds no object, and so wherever it does not start with the keyword of one. -/
theorem contents_ofFile_marked {plain marked : FileTree} {p : Path} {text : List Char}
    (hplain : plain.Holds p (Text.encodeUtf8 text))
    (hmarked : marked.Holds p (Text.byteOrderMark ++ Text.encodeUtf8 text)) :
    let lines := Text.unifyLines text
    (ofFile marked p).map contents =
        (Object.scan (behindLine lines)).map (contentsWith lines) ∧
      ((ofFile marked p).map contents = (ofFile plain p).map contents ↔
        Object.scan (behindLine lines) = Object.scan lines) ∧
      (¬OpensObject lines → (ofFile marked p).map contents = (ofFile plain p).map contents) := by
  intro lines
  have hunify : Text.unifyLines ('\ufeff' :: text) = '\ufeff' :: lines := rfl
  have hread := FileTree.readText_of_holds hplain (Text.decodeUtf8_encodeUtf8 text)
  have hread' := FileTree.readText_of_holds hmarked (Text.decodeUtf8_byteOrderMark text)
  rw [hunify] at hread'
  have hcontents : (ofFile marked p).map contents =
      (Object.scan (behindLine lines)).map (contentsWith lines) := by
    have hwith : contentsWith ('\ufeff' :: lines) = contentsWith lines := by
      funext objects
      rw [contentsWith, contentsWith, Dependency.scan_mark]
    rw [contents_ofFile hread', Source.scan_mark, hwith]
  have hsame : (ofFile marked p).map contents = (ofFile plain p).map contents ↔
      Object.scan (behindLine lines) = Object.scan lines := by
    rw [hcontents, contents_ofFile hread, map_contentsWith_inj]
  exact ⟨hcontents, hsame, fun h => hsame.2 (Source.scan_behindLine h).symm⟩

/-- A tree with one source file. -/
def loneFile (bytes : List UInt8) : FileTree := { entries := [(["Stock.al"], .file bytes)] }

theorem holds_loneFile (bytes : List UInt8) :
    (loneFile bytes).Holds (.ofText "Stock.al") bytes := by
  have hpath : Path.ofText "Stock.al" = ⟨"", ["Stock.al"]⟩ := by decide
  refine ⟨by decide, ["Stock.al"], ?_, rfl⟩
  rw [hpath]
  rfl

/-- A comment on the first line keeps the declaration on the second one. -/
theorem contents_ofFile_marked_comment :
    let text := "// stock\r\ncodeunit 1 Stock \x7b \x7d".toList
    let plain := loneFile (Text.encodeUtf8 text)
    let marked := loneFile (Text.byteOrderMark ++ Text.encodeUtf8 text)
    plain.Holds (.ofText "Stock.al") (Text.encodeUtf8 text) ∧
      marked.Holds (.ofText "Stock.al") (Text.byteOrderMark ++ Text.encodeUtf8 text) ∧
      ¬OpensObject (Text.unifyLines text) ∧
      (ofFile marked (.ofText "Stock.al")).map contents =
        (ofFile plain (.ofText "Stock.al")).map contents ∧
      (ofFile marked (.ofText "Stock.al")).map (·.objects.length) = .ok 1 := by
  intro text plain marked
  have hopens : ¬OpensObject (Text.unifyLines text) := by
    have hline : Source.firstLine (Text.unifyLines text) = '/' :: "/ stock".toList := by decide
    rw [OpensObject, hline]
    exact Source.not_startsObject_of_mark _ (by decide) (by decide) (by decide) _
  have hcontents := (contents_ofFile_marked (holds_loneFile (Text.encodeUtf8 text))
    (holds_loneFile _)).2.2 hopens
  exact ⟨holds_loneFile _, holds_loneFile _, hopens, hcontents, by decide +kernel⟩

/-- A declaration on the first line is lost. -/
theorem objects_ofFile_marked_eq_nil :
    let text := "codeunit 1 Stock \x7b \x7d".toList
    let plain := loneFile (Text.encodeUtf8 text)
    let marked := loneFile (Text.byteOrderMark ++ Text.encodeUtf8 text)
    plain.Holds (.ofText "Stock.al") (Text.encodeUtf8 text) ∧
      marked.Holds (.ofText "Stock.al") (Text.byteOrderMark ++ Text.encodeUtf8 text) ∧
      (ofFile plain (.ofText "Stock.al")).map (·.objects.map Object.name) = .ok ["Stock"] ∧
      (ofFile marked (.ofText "Stock.al")).map (·.objects) = .ok [] := by
  intro text plain marked
  exact ⟨holds_loneFile _, holds_loneFile _, by decide +kernel, by decide +kernel⟩

end Extension

end ExtensionAtlas
