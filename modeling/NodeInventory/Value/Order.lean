import NodeInventory.Value.Basic

/-!
# Equality and order of values

Numbers are equal by value, whatever their kind; texts, lists and objects by their contents.  Texts
have an order, numbers have one, and lists have one as far as the first items that differ have one.
-/

namespace NodeInventory.Value

mutual

/-- Whether two values are equal. -/
def same : Value → Value → Bool
  | .null, .null => true
  | .text s, .text s' => s == s'
  | .list items, .list items' => sameItems items items'
  | .object fields, .object fields' =>
      fields.length == fields'.length && sameFields fields fields'
  | v, w =>
      match v.number?, w.number? with
      | some x, some y => x.le y && y.le x
      | _, _ => false

def sameItems : List Value → List Value → Bool
  | [], [] => true
  | v :: rest, w :: rest' => same v w && sameItems rest rest'
  | _, _ => false

def sameFields : List (String × Value) → List (String × Value) → Bool
  | [], _ => true
  | (key, v) :: rest, others =>
      (match Fields.find? others key with
        | some w => same v w
        | none => false) && sameFields rest others

end

mutual

/-- Whether two values can be put in order. -/
def ordered : Value → Value → Bool
  | .text _, .text _ => true
  | .list items, .list items' => orderedItems items items'
  | v, w => v.number?.isSome && w.number?.isSome

def orderedItems : List Value → List Value → Bool
  | v :: rest, w :: rest' => if same v w then orderedItems rest rest' else ordered v w
  | _, _ => true

end

/-- Whether every two of some values can be put in order. -/
def allOrdered : List Value → Bool
  | [] => true
  | v :: rest => rest.all (ordered v) && allOrdered rest

end NodeInventory.Value
