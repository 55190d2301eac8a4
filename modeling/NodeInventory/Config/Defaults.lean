import NodeInventory.Fault
import NodeInventory.Value.Access

/-!
# Defaults of a configuration

Each section of a configuration has defaults for the fields that it does not have.  A missing
section is added, but for the server's own.
-/

namespace NodeInventory.Config

/-- The defaults of the server's section. -/
def swisDefaults : Fields :=
  [("port", .int 17778), ("ssl_verify", .bool false), ("ca_cert_path", .null),
   ("timeout_seconds", .int 30)]

/-- The defaults of the section about discovery jobs. -/
def discoveryDefaults : Fields :=
  [("engine_id", .int 1), ("poll_interval_seconds", .int 5), ("poll_timeout_seconds", .null),
   ("job_timeout_seconds", .int 3600), ("search_timeout_ms", .int 5000),
   ("snmp_timeout_ms", .int 5000), ("snmp_retries", .int 2), ("snmp_port", .int 161),
   ("repeat_interval_ms", .int 1800), ("hop_count", .int 0),
   ("preferred_snmp_version", .text "SNMP2c"), ("disable_icmp", .bool false),
   ("allow_duplicate_nodes", .bool false), ("auto_import", .bool true),
   ("delete_profile_after_discovery", .bool true), ("wmi_retries", .int 1),
   ("wmi_retry_interval_ms", .int 1000)]

/-- The statuses, port types and virtual types of the interfaces that are taken in. -/
def interfaceChoices : Fields :=
  [("auto_import_status", .texts ["Up", "Down", "Shutdown"]),
   ("auto_import_vlan_port_types", .texts ["Trunk", "Access", "Unknown"]),
   ("auto_import_virtual_types", .texts ["Physical", "Virtual", "Unknown"])]

/-- The defaults of the section about interfaces. -/
def interfaceDefaults : Fields := interfaceChoices ++ [("auto_import_expression_filter", .list [])]

/-- The defaults of the section about logging. -/
def loggingDefaults : Fields :=
  [("level", .text "INFO"), ("file", .null), ("console_output", .bool true),
   ("timezone", .text "UTC")]

/-- The sections that are added when they are missing, with their defaults. -/
def optionalSections : List (String × Fields) :=
  [("discovery", discoveryDefaults), ("interfaces", interfaceDefaults),
   ("logging", loggingDefaults)]

/-- A section with the defaults that it does not have. -/
def fillSection (section_ : Value) : Fields → Outcome Value
  | [] => .ok section_
  | (key, default) :: rest => do
      if ← section_.holds key then fillSection section_ rest
      else fillSection (← section_.putField key default) rest

/-- A configuration with the defaults of a section that it has. -/
def fillPresent (config : Value) (name : String) (defaults : Fields) : Outcome Value := do
  config.putField name (← fillSection (← config.field name) defaults)

/-- A configuration with a section, a new one if needed, and its defaults. -/
def fillOptional (config : Value) (name : String) (defaults : Fields) : Outcome Value := do
  let config ← if ← config.holds name then pure config else config.putField name (.object [])
  fillPresent config name defaults

/-- A configuration with all defaults. -/
def applyDefaults (config : Value) : Outcome Value := do
  let config ← fillPresent config "swis" swisDefaults
  optionalSections.foldlM (fun config (name, defaults) => fillOptional config name defaults) config

/-- What a session needs to know about its security, from the server's section. -/
def sessionSecurity (config : Value) : Outcome Fields := do
  let swis ← config.getOr "swis" (.object [])
  let verify ← swis.getOr "ssl_verify" (.bool false)
  let certificate ← swis.get "ca_cert_path"
  let timeout ← swis.getOr "timeout_seconds" (.int 30)
  pure [("ssl_verify", verify), ("ca_cert_path", certificate), ("timeout_seconds", timeout)]

/-- A configuration to start from. -/
def sample : Value :=
  .object
    [("swis", .object
      [("server", .text "orion.example.com"), ("port", .int 17778), ("username", .text "admin"),
       ("password", .text "changeme"), ("ssl_verify", .bool false), ("ca_cert_path", .null),
       ("timeout_seconds", .int 30)]),
     ("discovery", .object
      [("engine_id", .int 1), ("poll_interval_seconds", .int 5), ("poll_timeout_seconds", .null),
       ("job_timeout_seconds", .int 3600), ("snmp_retries", .int 2), ("auto_import", .bool true),
       ("delete_profile_after_discovery", .bool true)]),
     ("interfaces", .object interfaceChoices),
     ("logging", .object
      [("level", .text "INFO"), ("file", .text "logs/orion_inventory.log"),
       ("console_output", .bool true), ("timezone", .text "UTC")])]

end NodeInventory.Config
