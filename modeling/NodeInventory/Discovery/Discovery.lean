import NodeInventory.Discovery.Polling
import NodeInventory.Discovery.Reconciliation

/-!
# Discovering nodes

A discovery from beginning to end: submit the job, wait until it has ended, and reconcile the
inventory with what it found.
-/

namespace NodeInventory

/-- What discoveries are run with: the settings of their jobs and the plan of their waits. -/
structure Discoverer where
  settings : JobSettings
  plan : PollPlan

namespace Discoverer

/-- The discoverer that a configuration describes. -/
def ofConfig (config : Value) : Outcome Discoverer := do
  let config := config.orElse (.object [])
  let discovery ← config.getOr "discovery" (.object [])
  let interfaces ← config.getOr "interfaces" (.object [])
  let interval ← discovery.getOr "poll_interval_seconds" (.int 5)
  let timeout ← discovery.get "poll_timeout_seconds"
  pure
    { settings := JobSettings.ofValues discovery interfaces
      plan := { interval := interval, timeout := timeout } }

/-- Runs a discovery. -/
def discover (d : Discoverer) (c : Connection) (now : DateTime)
    (addresses credential name : Value) (options : ReconcileOptions) : Exchange Report := do
  let job ← submit c d.settings now addresses credential name
  let status ← wait c d.plan job.id
  let log ← fetchLog c job.id
  reconcile c job.id status log options

end Discoverer

end NodeInventory
