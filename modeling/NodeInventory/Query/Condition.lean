import NodeInventory.Query.Clause

/-!
# Conditions

A condition joins the clauses of several bindings; a binding without values has no clause and
adds nothing.
-/

namespace NodeInventory

/-- A column, how it is compared, and the values it is compared with. -/
structure Binding where
  field : String
  operator : Operator
  values : List String
  deriving DecidableEq, Repr

/-- The clause of a binding. -/
def Binding.clause? (b : Binding) : Option String := NodeInventory.clause? b.field b.operator b.values

/-- What stands between the clauses of a condition. -/
def conjunction : String := " AND "

/-- The condition of some bindings. -/
def condition (bindings : List Binding) : String :=
  conjunction.intercalate (bindings.filterMap Binding.clause?)

/-- A binding whose column and values may be of any kind. -/
structure LooseBinding where
  field : Value
  operator : Operator
  values : Value

/-- `condition` for bindings of any kind. -/
def conditionOfValues (bindings : List LooseBinding) : Outcome String := do
  let clauses ← bindings.mapM fun b => clauseOfValue b.field.shown b.operator b.values
  pure (conjunction.intercalate (clauses.filterMap id))

end NodeInventory
