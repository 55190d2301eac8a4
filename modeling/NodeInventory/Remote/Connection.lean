import NodeInventory.Fault

/-!
# Connections

Where the server is reached: its name, its port and the path that every request starts with.  A
connection can be used when its server has a name and a session is open.
-/

namespace NodeInventory

/-- The port used unless another one is given. -/
def defaultPort : Value := .int 17778

/-- The path used unless another one is given. -/
def defaultBasePath : Value := .text "SolarWinds/InformationService/v3/Json"

/-- The place of a server. -/
structure Connection where
  server : Value
  port : Value := defaultPort
  basePath : Value := defaultBasePath

namespace Connection

/-- What every request's address starts with. -/
def baseUrl (c : Connection) : String :=
  "https://" ++ c.server.shown ++ ":" ++ c.port.shown ++ "/" ++ c.basePath.shown

/-- The address of a request. -/
def url (c : Connection) (path : String) : String := c.baseUrl ++ "/" ++ path

/-- The name of an entity by its keys. -/
def entityUri (c : Connection) (entity : String) (keys : Fields) : String :=
  "swis://" ++ c.server.shown ++ "/Orion/" ++ entity ++ "/" ++
    ",".intercalate (keys.map fun (name, v) => name ++ "=" ++ v.shown)

/-- The name of an entity by keys as they were written: of a repeated one the last value counts,
and none may be called like the entity. -/
def entityUriOf (c : Connection) (entity : String) (keys : Fields) : Outcome String :=
  if Fields.has keys "entity" || Fields.has keys "self" then
    .error (.duplicateArgument "entityUri" "entity")
  else .ok (c.entityUri entity (Fields.ofList keys))

/-- The connection for use, if there is one that names a server, and a session is open. -/
def ready (connection : Option Connection) (hasSession : Bool) : Outcome Connection :=
  match connection with
  | none => .error .noServer
  | some c =>
      if !c.server.truthy then .error .noServer
      else if !hasSession then .error .noSession
      else .ok c

end Connection

end NodeInventory
