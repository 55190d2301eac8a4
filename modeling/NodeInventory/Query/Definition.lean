import NodeInventory.Value.Access

/-!
# Query definitions

The fixed shape of a read query: what it reads from, what it is joined with, what it selects
unless asked otherwise, and how the rows are ordered.
-/

namespace NodeInventory

/-- The entity that a query is joined with. -/
structure Join where
  entity : String
  alias_ : String
  on : String
  deriving DecidableEq, Repr

/-- The shape of a query. -/
structure Definition where
  entity : String
  alias_ : String
  /-- The columns that are always selected. -/
  defaultFields : Value
  orderBy : String
  descending : Bool := false
  join : Option Join := none
  timeField : String := ""
  /-- The alias whose custom properties are selected, when it is not the query's own. -/
  propertyAlias : Option String := none

namespace Definition

/-- The alias whose custom properties are selected. -/
def propertyOwner (d : Definition) : String := d.propertyAlias.getD d.alias_

/-- The named parts of a definition. -/
def partNames : List String :=
  ["entity", "alias", "default_fields", "order_by", "descending", "join_entity", "join_alias",
   "join_on", "time_field", "custom_property_alias"]

/-- The parts that have no default. -/
def requiredParts : List String := ["entity", "alias", "default_fields", "order_by"]

/-- A definition from its named parts. -/
def ofFields (parts : Fields) : Outcome Definition :=
  match List.find? (fun (name, _) => !partNames.contains name) parts with
  | some (name, _) => .error (.unknownArgument name)
  | none =>
      match requiredParts.find? (fun name => !Fields.has parts name) with
      | some name => .error (.missingArgument name)
      | none =>
          let part (name : String) : Value := (Fields.find? parts name).getD .null
          .ok
            { entity := (part "entity").shown
              alias_ := (part "alias").shown
              defaultFields := part "default_fields"
              orderBy := (part "order_by").shown
              descending := (part "descending").truthy
              join :=
                if (part "join_entity").truthy then
                  some ⟨(part "join_entity").shown, (part "join_alias").shown,
                    (part "join_on").shown⟩
                else none
              timeField := (part "time_field").shown
              propertyAlias :=
                if (part "custom_property_alias").truthy then
                  some (part "custom_property_alias").shown
                else none }

end Definition

/-- Syslog messages with the name of the node that sent them, newest first. -/
def syslogDefinition : Definition where
  entity := "Orion.SysLog"
  alias_ := "SysLog"
  defaultFields := .texts
    ["SysLog.DateTime", "SysLog.IPAddress", "SysLog.Hostname", "Nodes.Caption AS NodeName",
     "SysLog.MessageType", "SysLog.Message", "SysLog.SysLogSeverity", "SysLog.SysLogFacility"]
  orderBy := "SysLog.DateTime"
  descending := true
  join := some ⟨"Orion.Nodes", "Nodes", "SysLog.NodeID = Nodes.NodeID"⟩
  timeField := "SysLog.DateTime"
  propertyAlias := some "Nodes"

/-- Events with the node they concern, newest first. -/
def eventDefinition : Definition where
  entity := "Orion.Events"
  alias_ := "Events"
  defaultFields := .texts
    ["Events.EventTime", "Events.EventType", "Events.Message", "Nodes.Caption AS NodeName",
     "Nodes.IPAddress"]
  orderBy := "Events.EventTime"
  descending := true
  join := some ⟨"Orion.Nodes", "Nodes", "Events.NetworkNode = Nodes.NodeID"⟩
  timeField := "Events.EventTime"
  propertyAlias := some "Nodes"

/-- Nodes by name. -/
def nodeDefinition : Definition where
  entity := "Orion.Nodes"
  alias_ := "Nodes"
  defaultFields := .texts
    ["Nodes.NodeID", "Nodes.Caption AS NodeName", "Nodes.IPAddress", "Nodes.DNS", "Nodes.Vendor",
     "Nodes.MachineType", "Nodes.Status", "Nodes.StatusDescription", "Nodes.Uri"]
  orderBy := "Nodes.Caption"

end NodeInventory
