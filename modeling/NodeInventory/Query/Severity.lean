import NodeInventory.Query.SeverityScale
import NodeInventory.Text.Case
import NodeInventory.Value.Access

/-!
# Severity bounds

A range of severities is given by its least and its most severe member, each as a number or as a
keyword; a keyword wins over the number of the same bound.
-/

namespace NodeInventory

/-- How the two bounds are given. -/
structure SeverityChoice where
  least : Value := .int SeverityScale.leastSevere
  most : Value := .int SeverityScale.mostSevere
  leastKeyword : Value := .null
  mostKeyword : Value := .null

namespace SeverityChoice

/-- The severity of a keyword, in letters of any case. -/
def ofKeyword (keyword : Value) : Outcome Value := do
  let word ← keyword.textFor "lower"
  match SeverityScale.rank? (Text.lower word) with
  | some rank => pure (.int rank)
  | none => .error (.unknownSeverity word)

/-- A bound: its keyword's severity when there is a keyword, otherwise the number as given. -/
def bound (number keyword : Value) : Outcome Value :=
  if keyword.truthy then ofKeyword keyword else .ok number

/-- The least and the most severe bound. -/
def bounds (choice : SeverityChoice) : Outcome (Value × Value) := do
  let least ← bound choice.least choice.leastKeyword
  let most ← bound choice.most choice.mostKeyword
  pure (least, most)

end SeverityChoice

end NodeInventory
