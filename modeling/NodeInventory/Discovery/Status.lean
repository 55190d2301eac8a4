import NodeInventory.Value.Integer

/-!
# Discovery statuses

The statuses that a discovery can have, by their codes.
-/

namespace NodeInventory

/-- The status of a discovery. -/
inductive Status where
  | unknown | inProgress | finished | error | notScheduled | scheduled | notCompleted | canceling
  | readyForImport
  deriving DecidableEq, Repr

namespace Status

/-- All statuses, in the order of their codes. -/
def all : List Status :=
  [.unknown, .inProgress, .finished, .error, .notScheduled, .scheduled, .notCompleted, .canceling,
   .readyForImport]

/-- The code of a status. -/
def code (s : Status) : Nat := all.idxOf s

/-- The name of a status. -/
def name : Status → String
  | .unknown => "UNKNOWN"
  | .inProgress => "IN_PROGRESS"
  | .finished => "FINISHED"
  | .error => "ERROR"
  | .notScheduled => "NOT_SCHEDULED"
  | .scheduled => "SCHEDULED"
  | .notCompleted => "NOT_COMPLETED"
  | .canceling => "CANCELING"
  | .readyForImport => "READY_FOR_IMPORT"

/-- The status of a name. -/
def ofName? (s : String) : Option Status := all.find? fun status => status.name == s

/-- A discovery has ended, well or not, unless it is in progress. -/
def isTerminal (s : Status) : Bool := s != .inProgress

/-- The status with a code, unknown when there is none. -/
def ofInt (n : Int) : Status := if 0 ≤ n then all.getD n.toNat .unknown else .unknown

/-- The status that a value stands for.  What cannot be a code is unknown; only an infinite number
is out of range. -/
def ofValue (v : Value) : Outcome Status :=
  match v.toInt with
  | .ok n => .ok (ofInt n)
  | .error .outOfRange => .error .outOfRange
  | .error _ => .ok .unknown

end Status

end NodeInventory
