import NodeInventory.Fault
import NodeInventory.Text.Case
import NodeInventory.Value.Access
import NodeInventory.Value.Order

/-!
# Log levels

The named levels of a log; larger numbers are more severe.
-/

namespace NodeInventory.Logging

/-- The names of the levels, the usual name of a level before its other ones. -/
def levels : List (String × Nat) :=
  [("CRITICAL", 50), ("FATAL", 50), ("ERROR", 40), ("WARNING", 30), ("WARN", 30), ("INFO", 20),
   ("DEBUG", 10), ("NOTSET", 0)]

/-- Names that are known to the log but of no level, a layout's and one for all kinds of layouts,
with what is wrong when they are given for a level's. -/
def otherNames : List (String × Fault) := [("BASIC_FORMAT", .badValue), ("_STYLES", .wrongType)]

/-- The level of a name in letters of any case. -/
def levelOf (name : Value) : Outcome Nat := do
  let s ← name.textFor "upper"
  let capitals := String.ofList (s.toList.map Text.upperChar)
  match levels.find? fun (known, _) => known == capitals with
  | some (_, level) => .ok level
  | none =>
      match otherNames.find? fun (known, _) => known == capitals with
      | some (_, fault) => .error fault
      | none => .error (.noAttribute .object capitals)

/-- The name of a level; numbers are told apart by value alone.  What is named in turn is a level's
number under a name. -/
def levelName (level : Value) : Value :=
  match levels.find? fun (_, n) => level.same (.int n) with
  | some (name, _) => .text name
  | none =>
      match levels.find? fun (name, _) => level.same (.text name) with
      | some (_, n) => .int n
      | none => .text ("Level " ++ level.shown)

end NodeInventory.Logging
