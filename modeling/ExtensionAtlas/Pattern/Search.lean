import ExtensionAtlas.Pattern.Basic

/-! Searching a text for a pattern. The first match is the one that starts furthest to the left; all
matches are found from left to right, each behind the end of the one before. -/

namespace ExtensionAtlas

/-- A match: the cursors at its two ends and what it captured. -/
structure Match (σ : Type) where
  start : Cursor
  stop : Cursor
  captures : Captures σ

namespace Match

variable {σ : Type}

def length (m : Match σ) : Nat := m.stop.offset - m.start.offset

/-- The text captured under a name, if the match went through that part of the pattern. -/
def text? [BEq σ] (m : Match σ) (slot : σ) : Option (List Char) :=
  (m.captures.lookup slot).map Stretch.chars

/-- The text captured under a name that every match goes through. -/
def text [BEq σ] (m : Match σ) (slot : σ) : List Char :=
  (m.text? slot).getD []

end Match

namespace Pattern

variable {σ : Type}

def matchAt (p : Pattern σ) (c : Cursor) : Option (Match σ) :=
  p.run c [] fun stop captures => some ⟨c, stop, captures⟩

/-- The first match in the text behind a cursor. -/
def firstFrom (p : Pattern σ) (before : Option Char) (offset : Nat) :
    (rest : List Char) → Option (Match σ)
  | [] => p.matchAt ⟨before, [], offset⟩
  | x :: rest =>
    match p.matchAt ⟨before, x :: rest, offset⟩ with
    | some m => some m
    | none => firstFrom p (some x) (offset + 1) rest

def first? (p : Pattern σ) (text : List Char) : Option (Match σ) :=
  p.firstFrom none 0 text

/-- Whether a pattern matches somewhere in a text. -/
def occursIn (p : Pattern σ) (text : List Char) : Bool :=
  (p.first? text).isSome

/-- All matches in the text behind a cursor, when the next `skip` characters belong to the match
before. -/
def allFrom (p : Pattern σ) (before : Option Char) (offset : Nat) :
    (skip : Nat) → (rest : List Char) → List (Match σ)
  | 0, [] => (p.matchAt ⟨before, [], offset⟩).toList
  | _ + 1, [] => []
  | skip + 1, x :: rest => allFrom p (some x) (offset + 1) skip rest
  | 0, x :: rest =>
    match p.matchAt ⟨before, x :: rest, offset⟩ with
    | some m => m :: allFrom p (some x) (offset + 1) (m.length - 1) rest
    | none => allFrom p (some x) (offset + 1) 0 rest

/-- All matches in a text, from left to right. -/
def all (p : Pattern σ) (text : List Char) : List (Match σ) :=
  p.allFrom none 0 0 text

end Pattern

end ExtensionAtlas
