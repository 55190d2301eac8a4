import NodeInventory.Payload.Field
import NodeInventory.Value.Access
import NodeInventory.Value.Order

/-!
# Discovery payloads

The three payloads that start a discovery: what to look for and with which credential, which
interfaces to take in, and the job that holds both.  Each takes its numbers, words and lists from
the settings, and has a default for every setting that is missing.
-/

namespace NodeInventory

open Payload

/-- A payload field that is filled from a setting. -/
structure Setting where
  field : String
  key : String
  type : FieldType
  default : Value

namespace Setting

/-- The entries that some settings fill. -/
def entries (table : List Setting) (settings : Value) : Outcome (List Entry) :=
  table.mapM fun s => do pure ⟨s.field, s.type, ← settings.getOr s.key s.default⟩

/-- What is repeated when a node does not answer, and how often. -/
def core : List Setting :=
  [⟨"WmiRetriesCount", "wmi_retries", .int, .int 1⟩,
   ⟨"WmiRetryIntervalMiliseconds", "wmi_retry_interval_ms", .int, .int 1000⟩]

/-- Which interfaces are taken in. -/
def interfaces : List Setting :=
  [⟨"AutoImportStatus", "auto_import_status", .list .text, .texts ["Up", "Down", "Shutdown"]⟩,
   ⟨"AutoImportVlanPortTypes", "auto_import_vlan_port_types", .list .text,
     .texts ["Trunk", "Access", "Unknown"]⟩,
   ⟨"AutoImportVirtualTypes", "auto_import_virtual_types", .list .text,
     .texts ["Physical", "Virtual", "Unknown"]⟩,
   ⟨"AutoImportExpressionFilter", "auto_import_expression_filter", .list .object, .list []⟩]

/-- How a job is run. -/
def job : List Setting :=
  [⟨"EngineId", "engine_id", .int, .int 1⟩,
   ⟨"JobTimeoutSeconds", "job_timeout_seconds", .int, .int 3600⟩,
   ⟨"SearchTimeoutMiliseconds", "search_timeout_ms", .int, .int 5000⟩,
   ⟨"SnmpTimeoutMiliseconds", "snmp_timeout_ms", .int, .int 5000⟩,
   ⟨"SnmpRetries", "snmp_retries", .int, .int 2⟩,
   ⟨"RepeatIntervalMiliseconds", "repeat_interval_ms", .int, .int 1800⟩,
   ⟨"SnmpPort", "snmp_port", .int, .int 161⟩,
   ⟨"HopCount", "hop_count", .int, .int 0⟩,
   ⟨"PreferredSnmpVersion", "preferred_snmp_version", .text, .text "SNMP2c"⟩,
   ⟨"DisableIcmp", "disable_icmp", .bool, .bool false⟩,
   ⟨"AllowDuplicateNodes", "allow_duplicate_nodes", .bool, .bool false⟩,
   ⟨"IsAutoImport", "auto_import", .bool, .bool true⟩,
   ⟨"IsHidden", "delete_profile_after_discovery", .bool, .bool true⟩]

end Setting

/-- Texts in order, or other values when they have an order. -/
def sortedAddresses (addresses : List Value) : Outcome (List Value) :=
  if addresses.all Value.isText then
    .ok ((addresses.map Value.shown).mergeSort.map .text)
  else if Value.allOrdered addresses then .ok addresses
  else .error .wrongType

/-- An object with one text field. -/
def textObject (field : String) (v : Value) : Outcome Value :=
  (build [⟨field, .text, v⟩]).map .object

/-- The addresses to look at and the credential to use. -/
def corePayload (addresses credential settings : Value) : Outcome Fields := do
  let sorted ← sortedAddresses (← addresses.items)
  let targets ← sorted.mapM (textObject "Address")
  let credentials ← build [⟨"CredentialID", .int, credential⟩, ⟨"Order", .int, .int 1⟩]
  let retries ← build (← Setting.entries Setting.core settings)
  pure ([("BulkList", .list targets), ("Credentials", .list [.object credentials])] ++ retries)

/-- Which interfaces to take in. -/
def interfacesPayload (settings : Value) : Outcome Fields := do
  build (← Setting.entries Setting.interfaces settings)

/-- The job that runs with the given configurations. -/
def jobPayload (name items settings : Value) : Outcome Fields := do
  let entries ← Setting.entries Setting.job settings
  let configurations ← (← items.items).mapM (textObject "PluginConfigurationItem")
  let fields ← build (⟨"Name", .text, name⟩ :: entries)
  pure (fields ++ [("PluginConfigurations", .list configurations)])

end NodeInventory
