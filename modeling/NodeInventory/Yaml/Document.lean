import NodeInventory.Value.Order
import NodeInventory.Yaml.Node

/-!
# Documents

The value that a document stands for.  A mapping takes in other mappings under its merge key; its
own pairs come after theirs, and of equal keys the first one stands with the last value.
-/

namespace NodeInventory.Yaml

/-! ### Mappings -/

/-- The pairs of a mapping. -/
abbrev Pairs := List (Value × Value)

/-- Sets the value of a key: under the first equal one when there is one, at the end otherwise. -/
def setKey (pairs : Pairs) (key value : Value) : Pairs :=
  match pairs with
  | [] => [(key, value)]
  | (k, v) :: rest => if k.same key then (k, value) :: rest else (k, v) :: setKey rest key value

/-- A key as the text of a field. -/
def keyText : Value → String
  | .text s => s
  | .null => "null"
  | .bool b => if b then "true" else "false"
  | v => v.shown

/-- The object of the pairs of a mapping. -/
def objectOf (pairs : Pairs) : Value :=
  let distinct := pairs.foldl (fun known (k, v) => setKey known k v) []
  .object (Fields.ofList (distinct.map fun (k, v) => (keyText k, v)))

/-- A value that can be a key; a collection cannot. -/
def keyOf (v : Value) : Outcome Value :=
  match v with
  | .list _ | .object _ => .error .unconstructable
  | v => .ok v

/-! ### Nodes -/

/-- Whether a node is the key under which other mappings are taken in. -/
def Node.isMerge : Node → Bool
  | .scalar .merge _ | .sequence .merge _ | .mapping .merge _ => true
  | _ => false

namespace Node

mutual

/-- The value of a node. -/
def value : Node → Outcome Value
  | .scalar tag s => scalarValue tag s
  | .sequence tag items =>
      if tag = .sequence then (values items).map .list else .error .unconstructable
  | .mapping tag pairs =>
      if tag = .mapping then (pairsOf pairs).map fun (taken, own) => objectOf (taken ++ own)
      else .error .unconstructable

/-- The values of some nodes. -/
def values : List Node → Outcome (List Value)
  | [] => .ok []
  | n :: rest => do return (← value n) :: (← values rest)

/-- The pairs that a mapping takes in, and its own ones. -/
def pairsOf : List (Node × Node) → Outcome (Pairs × Pairs)
  | [] => .ok ([], [])
  | (k, v) :: rest =>
      if k.isMerge then do
        let more ← takenFrom v
        let (taken, own) ← pairsOf rest
        pure (more ++ taken, own)
      else do
        let key ← match k with
          | .scalar .usual s => pure (.text s)
          | _ => value k
        let entry := (← keyOf key, ← value v)
        let (taken, own) ← pairsOf rest
        pure (taken, entry :: own)

/-- The pairs that are taken in from a mapping, or from the mappings of a sequence, of which the
last one comes first. -/
def takenFrom : Node → Outcome Pairs
  | .scalar .. => .error .unconstructable
  | .mapping _ pairs => (pairsOf pairs).map fun (taken, own) => taken ++ own
  | .sequence _ items => takenFromAll items

/-- The pairs that are taken in from some mappings, of which the last one comes first. -/
def takenFromAll : List Node → Outcome Pairs
  | [] => .ok []
  | .mapping _ pairs :: rest => do
      let (taken, own) ← pairsOf pairs
      return (← takenFromAll rest) ++ taken ++ own
  | _ :: _ => .error .unconstructable

end

end Node

/-- Whether a character may stand in a text. -/
def isReadable (c : Char) : Bool :=
  c = '\t' || c = '\n' || c = '\r' || (' ' ≤ c && c ≤ '~') || c.toNat = 0x85 ||
    (0xA0 ≤ c.toNat && c.toNat ≠ 0xFFFE && c.toNat ≠ 0xFFFF)

/-- The value of a text; one without a document stands for nothing. -/
def read (text : List Char) : Outcome Value :=
  if text.all isReadable then do
    match ← rootOf text with
    | some root => root.value
    | none => pure .null
  else .error .unreadable

end NodeInventory.Yaml
