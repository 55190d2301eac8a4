import NodeInventory.Fault

/-!
# Comparison operators

The four comparisons that a filter can put between a column and a value.
-/

namespace NodeInventory

/-- A comparison of a column with a value. -/
inductive Operator where
  | eq | neq | le | ge
  deriving DecidableEq, Repr

namespace Operator

/-- The operator as a statement writes it. -/
def symbol : Operator → String
  | .eq => "="
  | .neq => "!="
  | .le => "<="
  | .ge => ">="

/-- The operator's name. -/
def name : Operator → String
  | .eq => "EQ"
  | .neq => "NEQ"
  | .le => "LE"
  | .ge => "GE"

/-- Whether the comparison excludes the value. -/
def negated : Operator → Bool
  | .neq => true
  | _ => false

def all : List Operator := [.eq, .neq, .le, .ge]

/-- The operator of a symbol. -/
def ofSymbol (symbol_ : Value) : Outcome Operator :=
  match all.find? fun op => match symbol_ with
      | .text s => op.symbol == s
      | _ => false with
  | some op => .ok op
  | none => .error .badValue

/-- The operator of a name. -/
def ofName (name_ : String) : Outcome Operator :=
  match all.find? fun op => op.name == name_ with
  | some op => .ok op
  | none => .error (.missingKey name_)

/-- How the operator compares with a pattern. -/
def likeSymbol (op : Operator) : String := if op.negated then "NOT LIKE" else "LIKE"

end Operator

end NodeInventory
