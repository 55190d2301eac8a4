import NodeInventory.Decimal.Number

/-!
# Dynamic values

The values that configuration files, query parameters and server replies are made of.  Objects
keep their fields in the order in which they were first written, one field to a key
(`Value.put`).
-/

namespace NodeInventory

/-- A dynamic value. -/
inductive Value where
  | null
  | bool (b : Bool)
  | int (n : Int)
  | float (x : Number)
  | text (s : String)
  | list (items : List Value)
  | object (fields : List (String × Value))
  deriving Inhabited, Repr

/-- The kinds of values. -/
inductive Kind where
  | null | bool | int | float | text | list | object
  deriving DecidableEq, Repr

/-- The word that error texts use for a kind. -/
def Kind.word : Kind → String
  | .null => "NoneType"
  | .bool => "bool"
  | .int => "int"
  | .float => "float"
  | .text => "str"
  | .list => "list"
  | .object => "dict"

/-- The fields of an object, in order. -/
abbrev Fields := List (String × Value)

namespace Fields

/-- The value under a key. -/
def find? (fields : Fields) (key : String) : Option Value :=
  match fields with
  | [] => none
  | (k, v) :: rest => if k = key then some v else find? rest key

/-- Whether a key is present. -/
def has (fields : Fields) (key : String) : Bool := (find? fields key).isSome

/-- Sets a key: in its place when it is present, at the end otherwise. -/
def put (fields : Fields) (key : String) (value : Value) : Fields :=
  match fields with
  | [] => [(key, value)]
  | (k, v) :: rest => if k = key then (k, value) :: rest else (k, v) :: put rest key value

theorem find?_put (fields : Fields) (key k : String) (value : Value) :
    find? (put fields key value) k = if key = k then some value else find? fields k := by
  induction fields with
  | nil => by_cases same : key = k <;> simp [put, find?, same]
  | cons entry rest ih =>
      obtain ⟨name, v⟩ := entry
      by_cases here : name = key
      · subst here
        by_cases same : name = k <;> simp [put, find?, same]
      · by_cases there : name = k
        · subst there
          have other : key ≠ name := fun same => here same.symm
          simp [put, find?, here, other]
        · simp [put, find?, here, there, ih]

/-- The fields written one after the other, a later one under a present key replacing its value. -/
def ofList (written : Fields) : Fields := written.foldl (fun fields (k, v) => put fields k v) []

/-- The fields without a key. -/
def without (fields : Fields) (key : String) : Fields := fields.filter fun (k, _) => k != key

end Fields

namespace Value

/-- A list of texts. -/
def texts (ss : List String) : Value := .list (ss.map .text)

/-- False are null, zero of either kind and whatever is empty; everything else is true. -/
def truthy : Value → Bool
  | .null => false
  | .bool b => b
  | .int n => n != 0
  | .float x => !x.isZero
  | .text s => !s.isEmpty
  | .list items => !items.isEmpty
  | .object fields => !fields.isEmpty

/-- The value itself when it is true, otherwise another. -/
def orElse (v other : Value) : Value := if v.truthy then v else other

def isNull : Value → Bool
  | .null => true
  | _ => false

def isText : Value → Bool
  | .text _ => true
  | _ => false

/-- The number that a numeric value denotes; truth values count as one and zero. -/
def number? : Value → Option Number
  | .bool b => some (Number.ofInt (if b then 1 else 0))
  | .int n => some (Number.ofInt n)
  | .float x => some x
  | _ => none

/-- The kind of a value. -/
def kind : Value → Kind
  | .null => .null
  | .bool _ => .bool
  | .int _ => .int
  | .float _ => .float
  | .text _ => .text
  | .list _ => .list
  | .object _ => .object

end Value

end NodeInventory
