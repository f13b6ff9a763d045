import ExtensionAtlas.Graph.Storage
import ExtensionAtlas.Settings

/-! Work on a connection to the graph database. The connection is a value: on which databases
sessions were opened, which statements ran, what the database will answer, and after how many
statements it gives out. Work that fails leaves the connection as far as it came. Whoever makes
connections may refuse some settings; it is not said here which, only what comes of it. -/

namespace ExtensionAtlas.Graph

/-- A connection and what happened on it. -/
structure Connection where
  databases : List Database := []
  statements : List Statement := []
  closed : Nat := 0
  /-- The settings that connections were made with, one for each time. -/
  opened : List ConnectionSettings := []
  /-- What is said about settings that no connection can be made with. -/
  complaint? : ConnectionSettings → Option String := fun _ => none
  /-- The settings that were refused, one for each time. -/
  refused : List ConnectionSettings := []
  /-- The answers to the next queries; after them there are none. -/
  answers : List (List Json) := []
  /-- How many statements succeed before one fails. -/
  capacity : Option Nat := none

abbrev Work := ExceptT Fault (StateM Connection)

namespace Connection

/-- The connection without the record of what ran on it. -/
def clear (c : Connection) : Connection := { c with databases := [], statements := [] }

def make (c : Connection) (settings : ConnectionSettings) : Connection :=
  { c with opened := c.opened ++ [settings] }

/-- Asks for a connection; settings that are refused make none. -/
def attempt (c : Connection) (settings : ConnectionSettings) : Except Fault Unit × Connection :=
  match c.complaint? settings with
  | none => (.ok (), c.make settings)
  | some complaint =>
    (.error (.connectionRefused complaint), { c with refused := c.refused ++ [settings] })

def hasRoom (c : Connection) : Bool :=
  match c.capacity with
  | some capacity => c.statements.length < capacity
  | none => true

end Connection

namespace Work

def connect (settings : ConnectionSettings) : Work Unit :=
  ExceptT.mk (modifyGet (·.attempt settings))

def openSession (database : Database) : Work Unit :=
  modify fun c => { c with databases := c.databases ++ [database] }

/-- Runs a statement in the open session; its result are the records of the answer. -/
def execute (statement : Statement) : Work (List Json) := do
  let c ← get
  if c.hasRoom then
    set { c with statements := c.statements ++ [statement], answers := c.answers.drop 1 }
    return c.answers.head?.getD []
  else throw .queryFailed

def order : Order → Work Unit
  | .ok statement => discard (execute statement)
  | .error fault => throw fault

def close : Work Unit :=
  modify fun c => { c with closed := c.closed + 1 }

/-- Does some work and then closes the connection, whether the work failed or not. -/
def closing {α : Type} (work : Work α) : Work α := do
  let result ← ExceptT.lift (ExceptT.run work)
  close
  ExceptT.mk (pure result)

end Work

end ExtensionAtlas.Graph
