/-! A set of characters written as the ascending list of the code points where membership changes:
the first entry opens a run, the second closes it, and so on. A character belongs to the set exactly
when an odd number of entries are at or below it, which a binary search counts. -/

namespace ExtensionAtlas.Text

/-- The code points where membership in a set of characters changes, in ascending order. -/
structure Boundaries where
  changes : Array Nat

namespace Boundaries

/-- The number of entries at or below a point, when the first `base` entries are known to be and the
count is less than `base + 2 ^ bits`. -/
def rankFrom (changes : Array Nat) (point : Nat) : (bits : Nat) → (base : Nat) → Nat
  | 0, base => base
  | bits + 1, base =>
    match changes[base + Nat.pow 2 bits - 1]? with
    | some change =>
      if change ≤ point then rankFrom changes point bits (base + Nat.pow 2 bits)
      else rankFrom changes point bits base
    | none => rankFrom changes point bits base

/-- How many entries are at or below a point. Tables have fewer than 4096 entries. -/
def rankPoint (table : Boundaries) (point : Nat) : Nat :=
  rankFrom table.changes point 12 0

/-- How many entries are at or below a character. -/
def rank (table : Boundaries) (c : Char) : Nat :=
  table.rankPoint c.toNat

/-- Whether a point belongs to the set: membership is the parity of the rank. -/
def containsPoint (table : Boundaries) (point : Nat) : Bool :=
  table.rankPoint point % 2 == 1

def contains (table : Boundaries) (c : Char) : Bool :=
  table.containsPoint c.toNat

/-- The code point that opened the run a member lies in. -/
def runStart (table : Boundaries) (c : Char) : Nat :=
  table.changes.getD (table.rank c - 1) 0

end Boundaries

end ExtensionAtlas.Text
