import NodeInventory.Config.Defaults
import NodeInventory.Config.Validation
import NodeInventory.Yaml.Document

/-!
# Configuration files

A configuration is read from a file, checked, and given its defaults.  A file without content is an
empty configuration.
-/

namespace NodeInventory.Config

/-- What a path leads to. -/
inductive Place where
  | nothing
  | directory
  | file (text : String)

/-- The path of the configuration unless another one is given. -/
def defaultPath : String := "config/config.yaml"

/-- A configuration that was read, checked and with its defaults. -/
def accept (content : Value) : Outcome Value := do
  let config := content.orElse (.object [])
  validate config
  applyDefaults config

/-- The configuration at a path. -/
def load (path : String) (place : Place) : Outcome Value :=
  match place with
  | .nothing => .error (.noSuchFile path)
  | .directory => .error .isDirectory
  | .file text => do accept (← Yaml.read text.toList)

end NodeInventory.Config
