import NodeInventory.Discovery.Results
import NodeInventory.Discovery.Submission
import NodeInventory.Glob.Pattern
import NodeInventory.Network.ShortName

/-!
# Reconciling the inventory

When a discovery has finished, every node that it found is read, renamed and given its custom
properties as asked, and those of its interfaces are deleted whose names match none of the given
patterns; without patterns every interface stays.  What goes wrong with one node or one interface
is noted in the report and does not keep the others from being dealt with.
-/

namespace NodeInventory

/-- What is done to the nodes. -/
structure ReconcileOptions where
  /-- The interfaces to keep, all of them when there are no patterns. -/
  patterns : Value := .null
  rename : Bool := false
  customProperties : Value := .null

/-- What became of a node. -/
structure NodeReport where
  name : Value
  number : Int
  address : Value
  uri : String
  interfaces : List Interface

/-- Something that went wrong with a node or with one of its interfaces. -/
inductive Incident where
  | node (name reference : Value) (fault : Fault)
  | interface (node name uri : Value) (fault : Fault)

/-- What became of a discovery. -/
structure Report where
  job : Value
  status : Status
  description : Value := .text ""
  errorMessage : Value := .text ""
  nodes : List NodeReport := []
  incidents : List Incident := []

/-- A discovery has succeeded when it has finished. -/
def Report.succeeded (r : Report) : Bool := r.status == .finished

/-- What becomes of the interfaces of a node: those that stay, those that could not be deleted, and
the fault that ended the pass, if one did. -/
structure Pruning where
  kept : List Interface := []
  incidents : List Incident := []
  stop : Option Fault := none

/-- Whether an interface stays. -/
def keeps (patterns : Value) (i : Interface) : Outcome Bool :=
  if patterns.truthy then Glob.matchesAnyValue i.displayName patterns else .ok true

/-- Deletes the interfaces that do not stay, one after the other. -/
def prune (c : Connection) (patterns node : Value) : List Interface → Exchange Pruning
  | [] => pure {}
  | i :: rest =>
      match keeps patterns i with
      | .error fault => pure { stop := some fault }
      | .ok true => do
          let more ← prune c patterns node rest
          pure { more with kept := i :: more.kept }
      | .ok false => do
          let deleted ← Exchange.attempt (c.delete i.uri.shown)
          let more ← prune c patterns node rest
          match deleted with
          | .ok _ => pure more
          | .error fault =>
              pure { more with
                incidents := .interface node i.displayName i.uri fault :: more.incidents }

/-- A node that is ready to have its interfaces pruned. -/
structure PreparedNode where
  name : Value
  number : Int
  record : Value
  uri : String
  interfaces : List Interface

/-- The name of a node: its short name when it is to be renamed, which is then written. -/
def renameNode (c : Connection) (rename : Bool) (uri : String) (caption : Value) :
    Exchange Value :=
  if rename then do
    let short ← shortNameOf caption
    if short.shown == caption.shown then pure caption
    else do
      c.update uri [("Caption", short)]
      pure short
  else pure caption

/-- Reads a node, renames it, sets its custom properties and lists its interfaces. -/
def prepareNode (c : Connection) (options : ReconcileOptions) (entity : Entity) :
    Exchange PreparedNode := do
  match ← (nodeNumber entity.reference : Outcome (Option Int)) with
  | none => Exchange.fail (.unrecognisedNode entity.reference.shown)
  | some number => do
      let uri := c.entityUri nodeEntity [("NodeID", .int number)]
      let record ← c.read uri
      let caption := (← record.get "Caption").orElse entity.displayName
      let name ← renameNode c options.rename uri caption
      if options.customProperties.truthy then
        c.updateFrom (uri ++ "/CustomProperties") options.customProperties
      let interfaces ← fetchInterfaces c (.int number)
      pure ⟨name, number, record, uri, interfaces⟩

/-- What one node adds to a report. -/
structure NodeOutcome where
  node : Option NodeReport
  incidents : List Incident

/-- Reconciles one node. -/
def reconcileNode (c : Connection) (options : ReconcileOptions) (entity : Entity) :
    Exchange NodeOutcome := do
  let failed (fault : Fault) : Incident := .node entity.displayName entity.reference fault
  match ← Exchange.attempt (prepareNode c options entity) with
  | .error fault => pure ⟨none, [failed fault]⟩
  | .ok p => do
      let pruning ← prune c options.patterns p.name p.interfaces
      match pruning.stop, fieldOrEmpty p.record "IPAddress" with
      | some fault, _ | none, .error fault =>
          pure ⟨none, pruning.incidents ++ [failed fault]⟩
      | none, .ok address =>
          pure ⟨some ⟨p.name, p.number, address, p.uri, pruning.kept⟩, pruning.incidents⟩

/-- The report of a job that has ended. -/
def reconcile (c : Connection) (job : Value) (status : Status) (log : Option DiscoveryLog)
    (options : ReconcileOptions) : Exchange Report := do
  match log with
  | none => pure { job := job, status := status, errorMessage := .text "Discovery log not found" }
  | some log => do
      let report : Report :=
        { job := job
          status := log.result
          description := log.description
          errorMessage := log.errorMessage }
      if log.result = .finished then do
        let entities ← fetchEntities c log.batch
        let outcomes ← (entities.filter (·.isNode)).mapM (reconcileNode c options)
        pure { report with
          nodes := outcomes.filterMap (·.node)
          incidents := outcomes.flatMap (·.incidents) }
      else pure report

end NodeInventory
