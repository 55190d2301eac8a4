import NodeInventory.Fault
import NodeInventory.Payload.Number

/-!
# Payload fields

A payload is an object with fixed fields, each of a type.  A field is filled from any value that
its type can be read from; every field that cannot be filled is reported, in the order of the
fields.
-/

namespace NodeInventory.Payload

/-- The type of a field. -/
inductive FieldType where
  | int
  | text
  | bool
  | object
  | list (item : FieldType)
  deriving DecidableEq, Repr

/-- The magnitude below which binary64 numbers are taken for whole ones. -/
def wholeLimit : Int := Nat.pow 2 63

/-- The whole number that a binary64 number is, if it is a small one. -/
def ofNumber (x : Number) : Except Rule Int :=
  match x.toRat?, x.whole? with
  | some _, some n => if -wholeLimit < n ∧ n < wholeLimit then .ok n else .error .intFromFloat
  | some _, none => .error .intFromFloat
  | none, _ => .error .finiteNumber

/-- A whole number from a value: numbers without a fraction, truth values and texts. -/
def toInt : Value → Except Rule Int
  | .int n => .ok n
  | .bool b => .ok (if b then 1 else 0)
  | .float x => ofNumber x
  | .text s => wholeNumber s
  | _ => .error .intType

/-- The words for true. -/
def trueWords : List String := ["1", "on", "t", "true", "y", "yes"]

/-- The words for false. -/
def falseWords : List String := ["0", "off", "f", "false", "n", "no"]

/-- The truth value that a whole number stands for. -/
def boolOfInt (n : Int) : Except Rule Bool :=
  if n = 1 then .ok true else if n = 0 then .ok false else .error .boolParsing

/-- A truth value from a value: one and zero of either kind, and the words for them. -/
def toBool : Value → Except Rule Bool
  | .bool b => .ok b
  | .int n => boolOfInt n
  | .float x =>
      match ofNumber x with
      | .ok n => boolOfInt n
      | .error _ => .error .boolType
  | .text s =>
      if trueWords.contains s.toLower then .ok true
      else if falseWords.contains s.toLower then .ok false
      else .error .boolParsing
  | _ => .error .boolType

/-- A single violation of a whole value. -/
def lift (r : Except Rule Value) : Except (List Violation) Value :=
  match r with
  | .ok v => .ok v
  | .error rule => .error [⟨[], rule⟩]

/-- Puts a step in front of the paths of some violations. -/
def under (step : PathStep) (violations : List Violation) : List Violation :=
  violations.map fun v => { v with path := step :: v.path }

/-- Fills every item of a list, and reports every one that cannot be filled. -/
def collect (fill : Value → Except (List Violation) Value) :
    Nat → List Value → Except (List Violation) (List Value)
  | _, [] => .ok []
  | i, v :: rest =>
      match fill v, collect fill (i + 1) rest with
      | .ok w, .ok ws => .ok (w :: ws)
      | .ok _, .error violations => .error violations
      | .error violations, .ok _ => .error (under (.index i) violations)
      | .error violations, .error more => .error (under (.index i) violations ++ more)

/-- Fills a field of a type from a value. -/
def FieldType.fill : FieldType → Value → Except (List Violation) Value
  | .int, v => lift ((toInt v).map .int)
  | .bool, v => lift ((toBool v).map .bool)
  | .text, v => if v.isText then .ok v else .error [⟨[], .textType⟩]
  | .object, .object fields => .ok (.object fields)
  | .object, _ => .error [⟨[], .objectType⟩]
  | .list item, .list items => (collect item.fill 0 items).map .list
  | .list _, _ => .error [⟨[], .listType⟩]

/-- A field with the value that it is filled from. -/
structure Entry where
  name : String
  type : FieldType
  value : Value

/-- Fills a field, the violations under its name. -/
def Entry.fill (e : Entry) : Except (List Violation) Value :=
  (e.type.fill e.value).mapError (under (.field e.name))

/-- Fills every field, and reports every one that cannot be filled. -/
def fillAll : List Entry → Except (List Violation) Fields
  | [] => .ok []
  | e :: rest =>
      match e.fill, fillAll rest with
      | .ok v, .ok fields => .ok ((e.name, v) :: fields)
      | .ok _, .error violations => .error violations
      | .error violations, .ok _ => .error violations
      | .error violations, .error more => .error (violations ++ more)

/-- The payload of some fields. -/
def build (entries : List Entry) : Outcome Fields :=
  (fillAll entries).mapError .invalid

end NodeInventory.Payload
