import NodeInventory.Decimal.Shortest
import NodeInventory.Text.Quoted
import NodeInventory.Value.Basic

/-!
# The text of a value

`Value.shown` is a value as text: a text stands as it is, everything else as it is spelled.
Inside a list or an object texts stand between quotes (`Value.spelled`).
-/

namespace NodeInventory.Value

mutual

/-- A value as it is spelled inside another one. -/
def spelled : Value → String
  | .null => "None"
  | .bool b => if b then "True" else "False"
  | .int n => toString n
  | .float x => x.text
  | .text s => Text.quoted s
  | .list items => "[" ++ ", ".intercalate (spelledItems items) ++ "]"
  | .object fields => "\x7b" ++ ", ".intercalate (spelledFields fields) ++ "\x7d"

/-- The items of a list, spelled. -/
def spelledItems : List Value → List String
  | [] => []
  | v :: rest => spelled v :: spelledItems rest

/-- The fields of an object, each a quoted key and a spelled value. -/
def spelledFields : List (String × Value) → List String
  | [] => []
  | (k, v) :: rest => (Text.quoted k ++ ": " ++ spelled v) :: spelledFields rest

end

/-- The text of a value. -/
def shown : Value → String
  | .text s => s
  | v => spelled v

end NodeInventory.Value
