import NodeInventory.Calendar.ZoneTable
import NodeInventory.Logging.Level

/-!
# Setting a log up

The configuration of a log: the level from which on records are kept, the zone of their times, and
whether they go to the console and to a file.
-/

namespace NodeInventory.Logging

/-- Where records go. -/
inductive Handler where
  | console
  | file
  deriving DecidableEq, Repr

/-- A log that is set up. -/
structure Setup where
  level : Nat
  zone : Zone
  handlers : List Handler
  /-- The file that records go to. -/
  file : Option String

/-- The layout of a record. -/
def recordLayout : String := "%(asctime)s - %(name)s - %(levelname)s - %(message)s"

/-- Goes one part of a path further: `..` takes the part before it back, when there is one. -/
def addPart (done : List String) (part : String) : List String :=
  if part = "" ∨ part = "." then done
  else if part = ".." ∧ done.getLast? ≠ none ∧ done.getLast? ≠ some ".." then done.dropLast
  else done ++ [part]

/-- The parts of a path without those that lead nowhere. -/
def shortestParts (path : String) : List String := (path.splitOn "/").foldl addPart []

/-- A path in its shortest form. -/
def shortestPath (path : String) : String :=
  (if path.toList.head? = some '/' then "/" else "") ++
    "/".intercalate (shortestParts path)

/-- The file that a value names; none when it counts as false.  A path that leads nowhere else
names the directory it starts from. -/
def fileOf (file : Value) : Outcome (Option String) :=
  if file.truthy then
    match file with
    | .text s =>
        if (shortestParts s).isEmpty then .error .isDirectory
        else .ok (some (shortestPath s))
    | _ => .error .wrongType
  else .ok none

/-- The log that a configuration asks for. -/
def setup (config : Value) : Outcome Setup := do
  let section_ ← config.getOr "logging" (.object [])
  let level ← section_.getOr "level" (.text "INFO")
  let zoneName ← section_.getOr "timezone" (.text "UTC")
  let zone ← zoneOf zoneName
  let level ← levelOf level
  let console ← section_.getOr "console_output" (.bool true)
  let file ← fileOf (← section_.get "file")
  pure
    { level := level
      zone := zone
      handlers := (if console.truthy then [.console] else []) ++ (file.toList.map fun _ => .file)
      file := file }

end NodeInventory.Logging
