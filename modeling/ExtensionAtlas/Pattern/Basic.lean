import ExtensionAtlas.Text.Blank
import ExtensionAtlas.Text.Case
import ExtensionAtlas.Text.Word

/-! Patterns over text. A pattern describes the stretches of text that may start at a cursor, in an
order of preference: the left side of a choice before the right one, the longest run of a class
before shorter ones, or the shortest first where that is asked for. A match is the first stretch in
that order behind which the rest of the pattern matches as well.

A run repeats a class of single characters only, so every pattern has finitely many ends, and the
search for the first one that fits recurses on the pattern and on the text. -/

namespace ExtensionAtlas

/-- A place in a text: the character in front of it, the text behind it, and how far it is from the
start. -/
structure Cursor where
  before : Option Char
  rest : List Char
  offset : Nat
  deriving DecidableEq, Repr

namespace Cursor

def start (text : List Char) : Cursor := ⟨none, text, 0⟩

/-- A line starts at the start of the text and behind every line feed. -/
def atLineStart (c : Cursor) : Bool :=
  c.before.all (· == '\n')

/-- Whether exactly one of the two neighbours is a word character. -/
def atWordEdge (c : Cursor) : Bool :=
  c.before.any Text.isWord != c.rest.head?.any Text.isWord

end Cursor

/-- A stretch of text: everything from its first character on, and how much of that belongs to it.
-/
structure Stretch where
  text : List Char
  length : Nat
  deriving DecidableEq, Repr

def Stretch.chars (s : Stretch) : List Char := s.text.take s.length

/-- The stretches captured so far, the latest first. -/
abbrev Captures (σ : Type) := List (σ × Stretch)

/-- Patterns that capture stretches under the names `σ`. -/
inductive Pattern (σ : Type) where
  | empty
  | one (accepts : Char → Bool)
  | both (first second : Pattern σ)
  | either (first second : Pattern σ)
  | most (accepts : Char → Bool)
  | fewest (accepts : Char → Bool)
  | capture (slot : σ) (inner : Pattern σ)
  | wordEdge
  | lineStart

namespace Pattern

variable {σ β : Type}

/-- Continues behind the longest run of a class that lets the continuation succeed. -/
def runMost (accepts : Char → Bool) (k : Cursor → Option β) (before : Option Char) (offset : Nat) :
    List Char → Option β
  | [] => k ⟨before, [], offset⟩
  | x :: rest =>
    if accepts x then
      match runMost accepts k (some x) (offset + 1) rest with
      | some result => some result
      | none => k ⟨before, x :: rest, offset⟩
    else k ⟨before, x :: rest, offset⟩

/-- Continues behind the shortest run of a class that lets the continuation succeed. -/
def runFewest (accepts : Char → Bool) (k : Cursor → Option β) (before : Option Char)
    (offset : Nat) : List Char → Option β
  | [] => k ⟨before, [], offset⟩
  | x :: rest =>
    match k ⟨before, x :: rest, offset⟩ with
    | some result => some result
    | none =>
      if accepts x then runFewest accepts k (some x) (offset + 1) rest
      else none

/-- The first stretch of a pattern from a cursor on that the continuation accepts. -/
def run : Pattern σ → Cursor → Captures σ → (Cursor → Captures σ → Option β) → Option β
  | .empty, c, captures, k => k c captures
  | .one accepts, c, captures, k =>
    match c.rest with
    | [] => none
    | x :: rest => if accepts x then k ⟨some x, rest, c.offset + 1⟩ captures else none
  | .both first second, c, captures, k =>
    first.run c captures fun c captures => second.run c captures k
  | .either first second, c, captures, k =>
    match first.run c captures k with
    | some result => some result
    | none => second.run c captures k
  | .most accepts, c, captures, k =>
    runMost accepts (fun c => k c captures) c.before c.offset c.rest
  | .fewest accepts, c, captures, k =>
    runFewest accepts (fun c => k c captures) c.before c.offset c.rest
  | .capture slot inner, c, captures, k =>
    inner.run c captures fun d captures =>
      k d ((slot, ⟨c.rest, d.offset - c.offset⟩) :: captures)
  | .wordEdge, c, captures, k => if c.atWordEdge then k c captures else none
  | .lineStart, c, captures, k => if c.atLineStart then k c captures else none

/-! Compound patterns. -/

def inOrder : List (Pattern σ) → Pattern σ
  | [] => .empty
  | p :: ps => .both p (inOrder ps)

/-- One of several patterns, the earlier ones preferred; none of them if there are none. -/
def oneOf : List (Pattern σ) → Pattern σ
  | [] => .one fun _ => false
  | [p] => p
  | p :: ps => .either p (oneOf ps)

def optional (p : Pattern σ) : Pattern σ := .either p .empty

def char (c : Char) : Pattern σ := .one (· == c)

/-- At least one character of a class, as many as possible. -/
def someMost (accepts : Char → Bool) : Pattern σ := .both (.one accepts) (.most accepts)

/-- At least one character of a class, as few as possible. -/
def someFewest (accepts : Char → Bool) : Pattern σ := .both (.one accepts) (.fewest accepts)

def blanks : Pattern σ := .most Text.isBlank

def someBlanks : Pattern σ := someMost Text.isBlank

def letters (text : List Char) : Pattern σ :=
  inOrder (text.map fun wanted => .one (Text.agreesUpToCase wanted))

def word (keyword : String) : Pattern σ := letters keyword.toList

end Pattern

end ExtensionAtlas
