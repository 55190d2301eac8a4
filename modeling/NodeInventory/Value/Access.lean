import NodeInventory.Fault

/-!
# Reading parts of a value

Looking into a value whose kind is not known beforehand: each reader either finds what it asks
for or fails for a stated cause.
-/

namespace NodeInventory.Value

/-- The field under a key, or a default when the object has none. -/
def getOr (v : Value) (key : String) (default : Value) : Outcome Value :=
  match v with
  | .object fields => .ok ((Fields.find? fields key).getD default)
  | _ => .error (.noAttribute v.kind "get")

/-- The field under a key, or null. -/
def get (v : Value) (key : String) : Outcome Value := v.getOr key .null

/-- The field under a key that has to be there. -/
def field (v : Value) (key : String) : Outcome Value :=
  match v with
  | .object fields =>
      match Fields.find? fields key with
      | some found => .ok found
      | none => .error (.missingKey key)
  | _ => .error .wrongType

/-- The first item; an object has none, since its keys are texts. -/
def first (v : Value) : Outcome Value :=
  match v with
  | .list (item :: _) => .ok item
  | .list [] => .error .outOfRange
  | .text s =>
      match s.toList with
      | c :: _ => .ok (.text (String.singleton c))
      | [] => .error .outOfRange
  | .object _ => .error (.missingKey "0")
  | _ => .error .wrongType

/-- The items to go through: those of a list, the characters of a text, the keys of an object. -/
def items (v : Value) : Outcome (List Value) :=
  match v with
  | .list vs => .ok vs
  | .text s => .ok (s.toList.map fun c => .text (String.singleton c))
  | .object fields => .ok (fields.map fun (k, _) => .text k)
  | _ => .error (.notIterable v.kind)

/-- The number of items. -/
def size (v : Value) : Outcome Nat :=
  match v with
  | .list vs => .ok vs.length
  | .text s => .ok s.length
  | .object fields => .ok fields.length
  | _ => .error (.notSized v.kind)

/-- Whether a text occurs inside another one. -/
def occursIn (part : List Char) : List Char → Bool
  | [] => part.isEmpty
  | c :: rest => part.isPrefixOf (c :: rest) || occursIn part rest

/-- Whether a text is a key of an object, an item of a list or a part of a text. -/
def holds (v : Value) (key : String) : Outcome Bool :=
  match v with
  | .object fields => .ok (Fields.has fields key)
  | .list vs => .ok (vs.any fun item => match item with
      | .text s => s == key
      | _ => false)
  | .text s => .ok (occursIn key.toList s.toList)
  | _ => .error .wrongType

/-- Writes a field of an object. -/
def putField (v : Value) (key : String) (new : Value) : Outcome Value :=
  match v with
  | .object fields => .ok (.object (Fields.put fields key new))
  | _ => .error .wrongType

/-- The text inside a value that has to be one; `name` is what was asked of it. -/
def textFor (v : Value) (name : String) : Outcome String :=
  match v with
  | .text s => .ok s
  | _ => .error (.noAttribute v.kind name)

/-- The named arguments inside a value that has to be an object. -/
def fields? : Value → Option Fields
  | .object fields => some fields
  | _ => none

end NodeInventory.Value
