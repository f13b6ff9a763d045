import ExtensionAtlas.Fault
import ExtensionAtlas.Integration.Resolve

/-! A batch of extensions under edit. Extensions are added, replaced, removed and reordered; after
each change the whole batch can be resolved anew. Positions count from the start, negative ones from
the end, and a position outside the batch is a fault that leaves the batch as it was. -/

namespace ExtensionAtlas

/-- Extensions in some form, whether references between them count, and the paths that could not be
read. -/
structure Batch (α : Type) where
  extensions : List α := []
  references : Bool := false
  failedPaths : List String := []

namespace Batch

variable {α : Type}

/-- A change to a batch. -/
inductive Edit (α : Type) where
  | add (e : α)
  | replace (position : Int) (e : α)
  | remove (position : Int)
  | reverse
  | setReferences (on : Bool)
  | fail (path : String)
  | keep

/-- The index that a position stands for; positions have to fit into 64 bits. -/
def index (b : Batch α) (position : Int) : Except Fault Nat :=
  let n := if position < 0 then position + b.extensions.length else position
  if position < -Int.pow 2 63 || Int.pow 2 63 ≤ position then .error .positionTooLarge
  else if 0 ≤ n && n < b.extensions.length then .ok n.toNat
  else .error .positionAbsent

def apply (b : Batch α) : Edit α → Except Fault (Batch α)
  | .add e => .ok { b with extensions := b.extensions ++ [e] }
  | .replace position e =>
    (b.index position).map fun i => { b with extensions := b.extensions.set i e }
  | .remove position =>
    (b.index position).map fun i => { b with extensions := b.extensions.eraseIdx i }
  | .reverse => .ok { b with extensions := b.extensions.reverse }
  | .setReferences on => .ok { b with references := on }
  | .fail path => .ok { b with failedPaths := b.failedPaths ++ [path] }
  | .keep => .ok b

/-- The analysis of a batch of extensions as it stands. -/
def analysis (b : Batch Extension) : Analysis :=
  .ofExtensions b.references b.extensions b.failedPaths

end Batch

end ExtensionAtlas
