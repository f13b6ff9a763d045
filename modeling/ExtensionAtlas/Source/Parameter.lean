import ExtensionAtlas.Model.Extension
import ExtensionAtlas.Text.Blank
import ExtensionAtlas.Text.Case
import ExtensionAtlas.Text.Search

/-! Parameter lists. Parameters are separated by semicolons; each is a name, possibly in quotes and
with `var` in front of it, and behind a colon its type. Blank pieces are passed over, and a
parameter without a type can hold any value. -/

namespace ExtensionAtlas.Parameter

/-- The text behind the word `var` and a blank, if a text starts with them. -/
def afterVar? : List Char → Option (List Char)
  | v :: a :: r :: blank :: rest =>
    if Text.agreesUpToCase 'v' v && Text.agreesUpToCase 'a' a && Text.agreesUpToCase 'r' r
      && Text.isBlank blank then some (Text.strip (blank :: rest))
    else none
  | _ => none

/-- The type that a text behind a colon names. -/
def typeOf (text : Option (List Char)) : String :=
  match Text.strip (text.getD []) with
  | [] => "Variant"
  | type => String.ofList type

/-- The parameter that a trimmed piece of a list declares. -/
def ofPiece (piece : List Char) : Parameter :=
  let declared := (afterVar? piece).getD piece
  let (name, type) := Text.cutAt ':' declared
  { name := String.ofList (Text.trimBoth (· == '\x22') (Text.strip name))
    type := typeOf type
    isVar := (afterVar? piece).isSome }

def scan (text : List Char) : List Parameter :=
  ((Text.splitAt ';' text).map Text.strip).filterMap fun piece =>
    if piece.isEmpty then none else some (ofPiece piece)

end ExtensionAtlas.Parameter
