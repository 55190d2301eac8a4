import NodeInventory.Query.Condition
import NodeInventory.Query.Definition

/-!
# Statements

A complete read statement: `SELECT`, an optional `TOP`, the projection, `FROM`, an optional
`JOIN`, `WHERE` when there is a condition, and `ORDER BY`.
-/

namespace NodeInventory

/-- The selected columns: the default ones, those asked for, and one for each custom property. -/
def projection (d : Definition) (fields customProperties : Value) : Outcome (List Value) := do
  let base ← d.defaultFields.items
  let extra ← fields.items
  let properties ← customProperties.items
  pure (base ++ extra ++
    properties.map fun name => .text (d.propertyOwner ++ ".CustomProperties." ++ name.shown))

/-- The text of a selected column. -/
def columnText : Value → Outcome String
  | .text s => .ok s
  | _ => .error .wrongType

/-- The row limit as the statement writes it: nothing unless the limit is positive. -/
def topPart (limit : Value) : Outcome (List String) :=
  if limit.truthy then
    match limit.number? with
    | some n => .ok (if (Number.ofInt 0).lt n then ["TOP " ++ limit.shown] else [])
    | none => .error .wrongType
  else .ok []

/-- Where the rows come from. -/
def sourceParts (d : Definition) : List String :=
  ("FROM " ++ d.entity ++ " AS " ++ d.alias_) ::
    match d.join with
    | some j => ["JOIN " ++ j.entity ++ " AS " ++ j.alias_ ++ " ON " ++ j.on]
    | none => []

/-- How the rows are ordered. -/
def orderPart (d : Definition) : String :=
  "ORDER BY " ++ d.orderBy ++ (if d.descending then " DESC" else "")

/-- The statement of a definition under a condition. -/
def statement (d : Definition) (where_ : Outcome String) (limit fields customProperties : Value) :
    Outcome String := do
  let selected ← projection d fields customProperties
  let top ← topPart limit
  let columns ← selected.mapM columnText
  let condition ← where_
  pure (" ".intercalate
    (["SELECT"] ++ top ++ [", ".intercalate columns] ++ sourceParts d ++
      (if condition.isEmpty then [] else ["WHERE " ++ condition]) ++ [orderPart d]))

end NodeInventory
