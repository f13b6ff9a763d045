/-! The fixed vocabularies: kinds of objects, roles of events, methods of calculation and kinds of
integrations. Each word has one spelling, by which it is read and written. -/

namespace ExtensionAtlas

/-- The kinds of objects that source files declare. -/
inductive ObjectKind where
  | table
  | page
  | codeunit
  | query
  | report
  | xmlport
  | enum
  | tableExtension
  | pageExtension
  | reportExtension
  | enumExtension
  deriving DecidableEq, Repr

namespace ObjectKind

/-- The kinds of objects that stand on their own. -/
def base : List ObjectKind := [table, page, codeunit, query, report, xmlport, enum]

/-- The kinds of objects that extend another one. -/
def extending : List ObjectKind := [tableExtension, pageExtension, reportExtension, enumExtension]

def all : List ObjectKind := base ++ extending

/-- The keyword that declares an object of a kind. -/
def keyword : ObjectKind → String
  | table => "table"
  | page => "page"
  | codeunit => "codeunit"
  | query => "query"
  | report => "report"
  | xmlport => "xmlport"
  | enum => "enum"
  | tableExtension => "tableextension"
  | pageExtension => "pageextension"
  | reportExtension => "reportextension"
  | enumExtension => "enumextension"

/-- Whether objects of a kind extend another object. -/
def isExtension : ObjectKind → Bool
  | tableExtension | pageExtension | reportExtension | enumExtension => true
  | _ => false

def ofKeyword? (word : String) : Option ObjectKind :=
  all.find? (·.keyword == word)

end ObjectKind

/-- Whether an event procedure raises an event or reacts to one. -/
inductive EventRole where
  | publisher
  | subscriber
  deriving DecidableEq, Repr

namespace EventRole

def label : EventRole → String
  | publisher => "publisher"
  | subscriber => "subscriber"

def ofLabel? (word : String) : Option EventRole :=
  [publisher, subscriber].find? (·.label == word)

end EventRole

/-- How a calculated field sums up its source. -/
inductive CalcMethod where
  | sum
  | count
  | average
  | min
  | max
  | lookup
  | unknown
  deriving DecidableEq, Repr

namespace CalcMethod

def named : List CalcMethod := [sum, count, average, min, max, lookup]

def label : CalcMethod → String
  | sum => "Sum"
  | count => "Count"
  | average => "Average"
  | min => "Min"
  | max => "Max"
  | lookup => "Lookup"
  | unknown => "Unknown"

def ofLabel? (word : String) : Option CalcMethod :=
  (named ++ [unknown]).find? (·.label == word)

end CalcMethod

/-- What couples two extensions. -/
inductive IntegrationKind where
  | event
  | derivedField
  | reference
  deriving DecidableEq, Repr

namespace IntegrationKind

def label : IntegrationKind → String
  | event => "event"
  | derivedField => "derived-field"
  | reference => "reference"

/-- The kind of integration that a word stands for. -/
def ofLabel? (word : String) : Option IntegrationKind :=
  [event, derivedField, reference].find? (·.label == word)

end IntegrationKind

/-- The vocabularies by the names under which an unknown word is reported. -/
inductive Vocabulary where
  | objectKinds
  | eventRoles
  | calcMethods
  | integrationKinds
  deriving DecidableEq, Repr

/-- The name under which an unknown word is reported. -/
def Vocabulary.title : Vocabulary → String
  | .objectKinds => "ObjectKind"
  | .eventRoles => "EventRole"
  | .calcMethods => "CalcMethod"
  | .integrationKinds => "IntegrationKind"

end ExtensionAtlas
