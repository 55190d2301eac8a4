import NodeInventory.Calendar.DateTime
import NodeInventory.Discovery.Credential
import NodeInventory.Discovery.Payloads

/-!
# Submitting a discovery

A discovery looks at some addresses with one credential.  Submitting it resolves the credential,
has the server make the two configurations, and starts the job that holds both.  The first failure
ends the submission, and nothing is tried twice.
-/

namespace NodeInventory

/-- The settings that a job takes its payloads from. -/
structure JobSettings where
  discovery : Value := .object []
  interfaces : Value := .object []

/-- Settings that count as false are no settings. -/
def JobSettings.ofValues (discovery interfaces : Value) : JobSettings :=
  ⟨discovery.orElse (.object []), interfaces.orElse (.object [])⟩

/-- A discovery that the server runs. -/
structure Job where
  id : Value
  targets : List String
  credential : Int
  name : Value
  status : Status

/-- An address without the blanks around it; none when nothing is left. -/
def targetOf (address : Value) : Outcome (Option String) :=
  if address.truthy then do
    let s ← address.textFor "strip"
    let trimmed := Text.trim s
    pure (if trimmed.isEmpty then none else some trimmed)
  else .ok none

/-- Puts a text in its place among texts in order, where it is not yet. -/
def insertText (s : String) : List String → List String
  | [] => [s]
  | t :: rest =>
      if s < t then s :: t :: rest
      else if t < s then t :: insertText s rest
      else t :: rest

/-- Texts in order, each once. -/
def distinct (ss : List String) : List String := ss.foldr insertText []

/-- The addresses to look at, in order and each once. -/
def targetsOf (addresses : Value) : Outcome (List String) := do
  let found ← (← addresses.items).mapM targetOf
  pure (distinct (found.filterMap id))

/-- The name of a job that is given none. -/
def defaultJobName (now : DateTime) : String :=
  let f := now.face
  "Inventory discovery " ++ toString f.date.year ++ "-" ++ paddedNat 2 f.date.month ++ "-" ++
    paddedNat 2 f.date.day ++ " " ++ paddedNat 2 f.hour ++ ":" ++ paddedNat 2 f.minute ++ ":" ++
    paddedNat 2 f.second

/-- Submits a discovery and returns the job that was started. -/
def submit (c : Connection) (settings : JobSettings) (now : DateTime)
    (addresses credential name : Value) : Exchange Job := do
  let targets ← targetsOf addresses
  if targets.isEmpty then Exchange.fail .noTargets
  let credential ← resolveCredential c credential
  let core ← corePayload (.texts targets) (.int credential) settings.discovery
  let coreItem ← c.invoke "Orion.Discovery" "CreateCorePluginConfiguration" [.object core]
  let interfaces ← interfacesPayload settings.interfaces
  let interfacesItem ← c.invoke "Orion.NPM.Interfaces" "CreateInterfacesPluginConfiguration"
    [.object interfaces]
  let name := name.orElse (.text (defaultJobName now))
  let job ← jobPayload name (.list [coreItem, interfacesItem]) settings.discovery
  let profile ← c.invoke "Orion.Discovery" "StartDiscovery" [.object job]
  pure ⟨.text profile.shown, targets, credential, name, .inProgress⟩

end NodeInventory
