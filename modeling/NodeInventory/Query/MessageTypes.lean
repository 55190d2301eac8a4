import NodeInventory.Value.Access

/-!
# Message types

Syslog output leaves out the noisy message types unless asked for everything, and can be asked
for the hardware reports.
-/

namespace NodeInventory

/-- Which groups of message types are left out or taken in. -/
structure MessageToggles where
  includeAll : Bool := false
  excludeEmpty : Bool := true
  excludeLinkStatus : Bool := true
  excludePoeStatus : Bool := true
  includeHardware : Bool := false
  deriving DecidableEq, Repr

namespace MessageToggles

/-- Messages without a type. -/
def emptyTypes : List String := [""]

/-- Messages about links going up and down. -/
def linkStatusTypes : List String :=
  ["LINK-3-UPDOWN", "LINK-5-CHANGED", "LINEPROTO-5-UPDOWN", "ETHPORT-5-IF_DOWN_LINK_FAILURE",
   "ETHPORT-5-IF_UP"]

/-- Messages about power over the network cable. -/
def poeStatusTypes : List String :=
  ["ILPOWER-5-POWER_GRANTED", "ILPOWER-5-DETECT", "ILPOWER-5-IEEE_DISCONNECT", "ILPOWER-7-DETECT"]

/-- Reports of the hardware's state. -/
def hardwareTypes : List String :=
  ["ENVMON*", "PLATFORM_ENV*", "HARDWARE*", "FAN*", "PSU*"]

/-- The types that the toggles leave out. -/
def excluded (t : MessageToggles) : List String :=
  if t.includeAll then []
  else
    (if t.excludeEmpty then emptyTypes else []) ++
      (if t.excludeLinkStatus then linkStatusTypes else []) ++
      (if t.excludePoeStatus then poeStatusTypes else [])

/-- The types that the toggles take in. -/
def included (t : MessageToggles) : List String :=
  if t.includeAll then [] else if t.includeHardware then hardwareTypes else []

/-- The exclusions, those asked for first, and the inclusions. -/
def resolve (t : MessageToggles) (exclude : Value) : Outcome (List Value × List Value) := do
  let asked ← exclude.items
  pure (asked ++ t.excluded.map .text, t.included.map .text)

end MessageToggles

end NodeInventory
