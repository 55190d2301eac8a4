import NodeInventory.Discovery.Reference
import NodeInventory.Remote.Client

/-!
# Results of a discovery

What the server knows about a discovery that has ended: the row of its log, the entities of its
batch, and the interfaces of each node.
-/

namespace NodeInventory

/-- Asks for the last log row of a profile. -/
def logQuery : String :=
  "SELECT TOP 1 Result, ResultDescription, ErrorMessage, BatchID " ++
    "FROM Orion.DiscoveryLogs WHERE ProfileID = @profileId ORDER BY FinishedTimeStamp DESC"

/-- Asks for the entities of a batch. -/
def itemQuery : String :=
  "SELECT EntityType, DisplayName, NetObjectID " ++
    "FROM Orion.DiscoveryLogItems WHERE BatchID = @batchId"

/-- Asks for the interfaces of a node. -/
def interfaceQuery : String :=
  "SELECT InterfaceID, Caption, Uri FROM Orion.NPM.Interfaces WHERE NodeID = @nodeId"

/-- The entity that nodes are. -/
def nodeEntity : String := "Orion.Nodes"

/-- How a discovery ended. -/
structure DiscoveryLog where
  result : Status
  description : Value := .text ""
  errorMessage : Value := .text ""
  batch : Value := .null

/-- An entity of a batch. -/
structure Entity where
  isNode : Bool
  displayName : Value
  reference : Value

/-- An interface of a node. -/
structure Interface where
  displayName : Value
  uri : Value

/-- A field of a row, an empty text when it counts as false. -/
def fieldOrEmpty (row : Value) (key : String) : Outcome Value := do
  pure ((← row.get key).orElse (.text ""))

/-- The log row in a value. -/
def DiscoveryLog.ofRow (row : Value) : Outcome DiscoveryLog := do
  let result ← Status.ofValue (← row.get "Result")
  let description ← fieldOrEmpty row "ResultDescription"
  let errorMessage ← fieldOrEmpty row "ErrorMessage"
  pure ⟨result, description, errorMessage, ← row.get "BatchID"⟩

/-- The entity in a row. -/
def Entity.ofRow (row : Value) : Outcome Entity := do
  let type ← row.get "EntityType"
  let isNode := match type with
    | .text s => s == nodeEntity
    | _ => false
  let displayName ← fieldOrEmpty row "DisplayName"
  pure ⟨isNode, displayName, ← fieldOrEmpty row "NetObjectID"⟩

/-- The interface in a row. -/
def Interface.ofRow (row : Value) : Outcome Interface := do
  let displayName ← fieldOrEmpty row "Caption"
  pure ⟨displayName, ← row.field "Uri"⟩

/-- The entities in some rows. -/
def entitiesOf (rows : Value) : Outcome (List Entity) := do (← rows.items).mapM Entity.ofRow

/-- The interfaces in some rows. -/
def interfacesOf (rows : Value) : Outcome (List Interface) := do
  (← rows.items).mapM Interface.ofRow

/-- The log row of a job, when there is one. -/
def fetchLog (c : Connection) (job : Value) : Exchange (Option DiscoveryLog) := do
  let number ← profileNumber job
  let rows ← c.query logQuery [("profileId", number)]
  if rows.truthy then
    let row ← rows.first
    some <$> (DiscoveryLog.ofRow row : Outcome DiscoveryLog)
  else pure none

/-- The entities of a batch, in the order of their rows. -/
def fetchEntities (c : Connection) (batch : Value) : Exchange (List Entity) := do
  let rows ← c.query itemQuery [("batchId", batch)]
  Exchange.ofOutcome (entitiesOf rows)

/-- The interfaces of a node, in the order of their rows. -/
def fetchInterfaces (c : Connection) (node : Value) : Exchange (List Interface) := do
  let rows ← c.query interfaceQuery [("nodeId", node)]
  Exchange.ofOutcome (interfacesOf rows)

end NodeInventory
