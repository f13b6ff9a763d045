/-! Issues: what is wrong with one place of a document that does not have the shape asked for. -/

namespace ExtensionAtlas.Document

/-- A step from a document to one of its parts. -/
inductive Step where
  | key (name : String)
  | index (position : Nat)
  deriving DecidableEq, Repr

/-- The ways in which a value fails to be what is asked for. -/
inductive IssueKind where
  | missing
  | notText
  | unpairedSurrogate
  | notInteger
  | unreadableInteger
  | oversizedInteger
  | fractional
  | notFinite
  | notFlag
  | unreadableFlag
  | notObject
  | invalidJson
  deriving DecidableEq, Repr

namespace IssueKind

/-- The code under which an issue is reported. -/
def code : IssueKind → String
  | .missing => "missing"
  | .notText => "string_type"
  | .unpairedSurrogate => "string_unicode"
  | .notInteger => "int_type"
  | .unreadableInteger => "int_parsing"
  | .oversizedInteger => "int_parsing_size"
  | .fractional => "int_from_float"
  | .notFinite => "finite_number"
  | .notFlag => "bool_type"
  | .unreadableFlag => "bool_parsing"
  | .notObject => "model_attributes_type"
  | .invalidJson => "json_invalid"

end IssueKind

/-- An issue and the way to the place that has it. -/
structure Issue where
  location : List Step
  kind : IssueKind
  deriving DecidableEq, Repr

end ExtensionAtlas.Document
