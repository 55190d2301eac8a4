import NodeInventory.Text.Integer

/-!
# The whole number of a value

Numbers lose their fraction, truth values count as one and zero, and texts are read.
-/

namespace NodeInventory.Value

/-- A value as a whole number. -/
def toInt : Value → Outcome Int
  | .bool b => .ok (if b then 1 else 0)
  | .int n => .ok n
  | .float .nan => .error .badValue
  | .float (.infinite _) => .error .outOfRange
  | .float (.finite negative m) => .ok (if negative then -m.floor else m.floor)
  | .text s => Text.toInt s
  | _ => .error .wrongType

end NodeInventory.Value
