import NodeInventory.Query.MessageTypes
import NodeInventory.Query.Severity
import NodeInventory.Query.Statement
import NodeInventory.Query.Window

/-!
# Filters

A filter narrows a query over syslog messages, events or nodes along the dimensions of its
subject.  Each dimension has values to include and values to exclude, and gives two bindings of
one column; syslog messages are also bounded by severity, and all but nodes by time.
-/

namespace NodeInventory

/-- What a filter asks about. -/
inductive Subject where
  | syslog | event | node
  deriving DecidableEq, Repr

/-- A property that a filter can include or exclude values of. -/
inductive Dimension where
  | nodeName | ipAddress | vendor | machineType | messageType | eventType | message | status
  deriving DecidableEq, Repr

/-- The name of a dimension inside a parameter's name. -/
def Dimension.word : Dimension → String
  | .nodeName => "node_name"
  | .ipAddress => "ip_address"
  | .vendor => "vendor"
  | .machineType => "machine_type"
  | .messageType => "message_type"
  | .eventType => "event_type"
  | .message => "message"
  | .status => "status"

namespace Subject

/-- The subject of a name. -/
def ofName? (name : String) : Option Subject :=
  if name = "syslog" then some .syslog
  else if name = "event" then some .event
  else if name = "node" then some .node
  else none

/-- The shape of a subject's query. -/
def definition : Subject → Definition
  | .syslog => syslogDefinition
  | .event => eventDefinition
  | .node => nodeDefinition

/-- The dimensions of a subject with their columns. -/
def columns : Subject → List (Dimension × String)
  | .syslog =>
      [(.nodeName, "Nodes.Caption"), (.ipAddress, "SysLog.IPAddress"), (.vendor, "Nodes.Vendor"),
       (.machineType, "Nodes.MachineType"), (.messageType, "SysLog.MessageType"),
       (.message, "SysLog.Message")]
  | .event =>
      [(.nodeName, "Nodes.Caption"), (.ipAddress, "Nodes.IPAddress"), (.vendor, "Nodes.Vendor"),
       (.eventType, "Events.EventType"), (.message, "Events.Message")]
  | .node =>
      [(.nodeName, "Nodes.Caption"), (.ipAddress, "Nodes.IPAddress"), (.vendor, "Nodes.Vendor"),
       (.machineType, "Nodes.MachineType"), (.status, "Nodes.Status")]

/-- Whether a subject's rows have a severity. -/
def hasSeverity : Subject → Bool
  | .syslog => true
  | _ => false

/-- Whether a subject's rows have a time. -/
def hasTime : Subject → Bool
  | .node => false
  | _ => true

/-- The names of a subject's parameters, the window apart. -/
def parameterNames (s : Subject) : List String :=
  (s.columns.flatMap fun (d, _) => ["include_" ++ d.word, "exclude_" ++ d.word]) ++
    ["limit", "fields", "custom_properties"] ++
    (if s.hasSeverity then
      ["min_severity", "max_severity", "min_severity_keyword", "max_severity_keyword",
       "include_all_message_types", "exclude_empty_message_types", "exclude_link_status",
       "exclude_poe_status", "include_hardware_reports"]
    else [])

/-- The name of the parameter that holds the window. -/
def windowName : String := "window"

end Subject

/-- What a query is narrowed to. -/
structure Filter where
  includes : Dimension → Value := fun _ => .list []
  excludes : Dimension → Value := fun _ => .list []
  severity : SeverityChoice := {}
  toggles : MessageToggles := {}
  /-- The window; none when it is explicitly absent, which no query can do without. -/
  window : Option Window := some {}
  limit : Value := .int 0
  fields : Value := .list []
  customProperties : Value := .list []

namespace Filter

/-- A filter from its named parameters and its window. -/
def ofParameters (subject : Subject) (parameters : Fields) (window : Option Window) :
    Outcome Filter :=
  match List.find? (fun (name, _) => !subject.parameterNames.contains name) parameters with
  | some (name, _) => .error (.unknownArgument name)
  | none =>
      let given (name : String) (default : Value) : Value :=
        (Fields.find? parameters name).getD default
      let chosen (name : String) (default : Bool) : Bool := (given name (.bool default)).truthy
      .ok
        { includes := fun d => given ("include_" ++ d.word) (.list [])
          excludes := fun d => given ("exclude_" ++ d.word) (.list [])
          severity :=
            { least := given "min_severity" (.int SeverityScale.leastSevere)
              most := given "max_severity" (.int SeverityScale.mostSevere)
              leastKeyword := given "min_severity_keyword" .null
              mostKeyword := given "max_severity_keyword" .null }
          toggles :=
            { includeAll := chosen "include_all_message_types" false
              excludeEmpty := chosen "exclude_empty_message_types" true
              excludeLinkStatus := chosen "exclude_link_status" true
              excludePoeStatus := chosen "exclude_poe_status" true
              includeHardware := chosen "include_hardware_reports" false }
          window := window
          limit := given "limit" (.int 0)
          fields := given "fields" (.list [])
          customProperties := given "custom_properties" (.list []) }

/-- The items of a value, none when it counts as false. -/
def listed (v : Value) : Outcome (List Value) := if v.truthy then v.items else .ok []

/-- The values that a dimension includes. -/
def included (f : Filter) (d : Dimension) : Outcome (List Value) :=
  match d with
  | .messageType => do
      let (_, hardware) ← f.toggles.resolve (f.excludes d)
      let asked ← (f.includes d).items
      pure (asked ++ hardware)
  | _ => listed (f.includes d)

/-- The values that a dimension excludes. -/
def excluded (f : Filter) (d : Dimension) : Outcome (List Value) :=
  match d with
  | .messageType => do
      let (exclusions, _) ← f.toggles.resolve (f.excludes d)
      pure exclusions
  | _ => listed (f.excludes d)

/-- A binding of a column to values of any kind. -/
def bind (column : String) (op : Operator) (values : Outcome (List Value)) : Outcome Binding := do
  let vs ← values
  pure ⟨column, op, vs.map Value.shown⟩

/-- The bindings of the dimensions, in the order of the subject's columns. -/
def dimensionBindings (f : Filter) (subject : Subject) : Outcome (List Binding) := do
  let pairs ← subject.columns.mapM fun (d, column) => do
    let wanted ← bind column .eq (f.included d)
    let unwanted ← bind column .neq (f.excluded d)
    pure [wanted, unwanted]
  pure pairs.flatten

/-- The column that a severity is compared with. -/
def severityColumn : String := "SysLog.SysLogSeverity"

/-- The bindings of the severity: at most the least severe bound, at least the most severe one. -/
def severityBindings (f : Filter) (subject : Subject) : Outcome (List Binding) :=
  if subject.hasSeverity then do
    let (least, most) ← f.severity.bounds
    pure [⟨severityColumn, .le, [least.shown]⟩, ⟨severityColumn, .ge, [most.shown]⟩]
  else .ok []

/-- The bindings of a filter without its window. -/
def bindings (f : Filter) (subject : Subject) : Outcome (List Binding) := do
  let dimensions ← f.dimensionBindings subject
  let severity ← f.severityBindings subject
  pure (dimensions ++ severity)

/-- The bindings of a filter's window. -/
def timeBindings (f : Filter) (subject : Subject) (now : DateTime) : Outcome (List Binding) :=
  if subject.hasTime then
    match f.window with
    | none => .error (.noAttribute .null "hours")
    | some window => do
        let (start, stop) ← window.resolve now
        pure (windowBindings subject.definition.timeField start stop)
  else .ok []

/-- The statement that reads what a filter asks for. -/
def statement (f : Filter) (subject : Subject) (now : DateTime) : Outcome String := do
  let bindings ← f.bindings subject
  let time ← f.timeBindings subject now
  NodeInventory.statement subject.definition (.ok (condition (bindings ++ time))) f.limit f.fields
    f.customProperties

end Filter

end NodeInventory
