import NodeInventory.Value.Access
import NodeInventory.Value.Integer

/-!
# References

How nodes and discovery profiles are referred to: a node by `N:` and its number, a profile by the
text of its number.
-/

namespace NodeInventory

/-- The number of the node that a reference names; none when it names no node. -/
def nodeNumber (reference : Value) : Outcome (Option Int) := do
  let s ← reference.textFor "partition"
  match s.toList with
  | 'N' :: ':' :: number =>
      let number := String.ofList number
      if Text.isDigits number then some <$> Text.toInt number else pure none
  | _ => pure none

/-- A job's identifier as the server knows it: a number when its text has only digits. -/
def profileNumber (job : Value) : Outcome Value :=
  if Text.isDigits job.shown then Value.int <$> job.toInt else .ok job

end NodeInventory
