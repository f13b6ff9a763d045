import ExtensionAtlas.Json.Printer

/-! The log: what happened, how much it matters, and the values that belong to it. -/

namespace ExtensionAtlas

/-- How much a log entry matters. -/
inductive LogLevel where
  | debug
  | info
  | warning
  deriving DecidableEq, Repr

namespace LogLevel

/-- The word under which a level is written. -/
def label : LogLevel → String
  | debug => "debug"
  | info => "info"
  | warning => "warning"

def all : List LogLevel := [debug, info, warning]

/-- Whether a level is written, with or without the messages for debugging. -/
def isWritten (debugging : Bool) : LogLevel → Bool
  | debug => debugging
  | _ => true

end LogLevel

/-- An entry of the log. -/
structure LogEntry where
  level : LogLevel
  event : String
  values : List (String × Json)

namespace LogEntry

/-- The values of an entry by the order of their keys. -/
def sortedValues (e : LogEntry) : List (String × Json) :=
  e.values.mergeSort fun a b => a.1 ≤ b.1

def toJson (e : LogEntry) : Json :=
  .array [.string e.level.label, .string e.event, .object e.sortedValues]

/-- The text by which entries are ordered where their order in time is left open. -/
def text (e : LogEntry) : String := e.toJson.print .spaced

def sort (entries : List LogEntry) : List LogEntry :=
  entries.mergeSort fun a b => a.text ≤ b.text

end LogEntry

end ExtensionAtlas
