import NodeInventory.Json.Reader
import NodeInventory.Remote.Connection
import NodeInventory.Remote.Exchange
import NodeInventory.Value.Access

/-!
# The server's operations

Five operations, each one request: querying, invoking a verb, and reading, updating and deleting
an entity.  A response with a status of 400 or more is a fault, whatever its body; the body of any
other response is read as JSON, a blank one being null.  The blanks around a body are taken away
while it is bytes, so they are those of ASCII.
-/

namespace NodeInventory

/-- The least status of a fault. -/
def faultStatus : Int := 400

/-- The largest number of characters taken from a fault that is no object with a message. -/
def faultTextLimit : Nat := 500

/-- The value of a body, which is read without the ASCII blanks around it.  Any other blank there is
part of what is read, and refused. -/
def bodyValue (body : String) : Outcome Value :=
  let core := Text.trimWith Text.isAsciiBlank body.toList
  if core.isEmpty then .ok .null else Json.read core

/-- The start of a body. -/
def bodyStart (body : String) : Value := .text (String.ofList (body.toList.take faultTextLimit))

/-- What the server says about a fault. -/
def faultMessage (body : String) : Value :=
  match bodyValue body with
  | .ok (.object fields) =>
      let message (key : String) : Value := (Fields.find? fields key).getD .null
      ((message "Message").orElse (message "message")).orElse (bodyStart body)
  | _ => bodyStart body

/-- A request to the server and the value of its response. -/
def Connection.request (c : Connection) (method : Method) (path : String)
    (payload : Option Value) : Exchange Value := do
  let (status, body) ← Exchange.send ⟨method, c.url path, payload⟩
  if faultStatus ≤ status then Exchange.fail (.rejected status (faultMessage body) (c.url path))
  else Exchange.ofOutcome (bodyValue body)

namespace Connection

/-- Refuses named arguments that a callee already has. -/
def refuse (callee : String) (taken : List String) (given : Fields) : Outcome Unit :=
  match List.find? (fun (name, _) => taken.contains name) given with
  | some (name, _) => .error (.duplicateArgument callee name)
  | none => .ok ()

/-- Runs a query and returns its rows. -/
def query (c : Connection) (text : String) (parameters : Fields) : Exchange Value := do
  refuse "query" ["self", "query"] parameters
  let result ← c.request .post "Query"
    (some (.object [("query", .text text), ("parameters", .object parameters)]))
  let rows ← (result.orElse (.object [])).getOr "results" (.list [])
  let _ ← rows.size
  pure rows

/-- Invokes a verb of an entity. -/
def invoke (c : Connection) (entity verb : String) (arguments : List Value) : Exchange Value :=
  c.request .post ("Invoke/" ++ entity ++ "/" ++ verb) (some (.list arguments))

/-- Reads an entity. -/
def read (c : Connection) (uri : String) : Exchange Value := c.request .get uri none

/-- Sets properties of an entity. -/
def update (c : Connection) (uri : String) (properties : Fields) : Exchange Unit := do
  refuse "SwisClient.update()" ["self", "uri"] properties
  let _ ← c.request .post uri (some (.object properties))
  pure ()

/-- Sets properties of an entity from a value, which has to be an object. -/
def updateFrom (c : Connection) (uri : String) (properties : Value) : Exchange Unit :=
  match properties.fields? with
  | some fields => c.update uri fields
  | none => Exchange.fail (.notMapping "swis.client.SwisClient.update()" properties.kind)

/-- Deletes an entity. -/
def delete (c : Connection) (uri : String) : Exchange Unit := do
  let _ ← c.request .delete uri none
  pure ()

end Connection

end NodeInventory
