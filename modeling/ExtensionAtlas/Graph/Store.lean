import ExtensionAtlas.Graph.Connection

/-! The store of analyses in a graph database. A store without a connection opens no session.
Setting up the schema and storing an analysis take one session each. -/

namespace ExtensionAtlas.Graph

/-- A place to store analyses. -/
structure Store where
  database : Database
  /-- What sets up the schema. -/
  schema : List Order := Schema.standard.statements.map .ok
  connected : Bool := true

namespace Store

def openSession (s : Store) : Work Unit :=
  if s.connected then Work.openSession s.database else throw .databaseAbsent

def setUp (s : Store) : Work Unit := do
  s.openSession
  s.schema.forM Work.order

/-- Sets up the schema and runs orders in a session of their own. -/
def carryOut (s : Store) (orders : List Order) : Work Unit := do
  s.setUp
  s.openSession
  orders.forM Work.order

def save (s : Store) (a : Analysis) : Work Unit :=
  s.carryOut (storageOrders a)

/-- Stores a single node with its properties as they were given. -/
def saveNode (s : Store) (label : String) (properties : Json) : Work Unit := do
  s.openSession
  match properties with
  | .object members => Work.order (Statement.ofNode label members)
  | value => throw (.misused value.kindName (.part "get"))

def close (s : Store) : Work Unit :=
  if s.connected then Work.close else pure ()

end Store

/-- Runs orders over a connection that is made for them and closed afterwards, whatever comes of it.
The settings of the connection are the given ones or those of the environment. -/
def carryOutOnce (settings : Option ConnectionSettings) (env : Environment) (orders : List Order)
    (schema : List Order := Schema.standard.statements.map .ok) : Work Unit := do
  let settings ←
    match settings with
    | some settings => pure settings
    | none => ExceptT.mk (pure (ConnectionSettings.load env))
  Work.connect settings
  Work.closing (Store.carryOut { database := settings.database, schema } orders)

/-- Stores an analysis over a connection of its own. -/
def saveAnalysis (settings : Option ConnectionSettings) (env : Environment) (a : Analysis)
    (schema : List Order := Schema.standard.statements.map .ok) : Work Unit :=
  carryOutOnce settings env (storageOrders a) schema

end ExtensionAtlas.Graph
