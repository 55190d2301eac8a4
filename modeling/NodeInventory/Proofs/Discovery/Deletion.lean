import NodeInventory.Proofs.Discovery.Pruning
import NodeInventory.Proofs.Discovery.Readying

/-!
# What a discovery deletes

Reconciling a batch deletes interfaces for good, so every deletion needs a licence: the log row
says that the discovery has finished, there are patterns, and the request names an interface row
that the server listed in the pass of the same node and whose caption none of the patterns matches.
`NodePass` says what one node's pass may send, `Passes` what the passes over the nodes of a batch
may send, and `Licensed` when either is allowed at all.  The main statement,
`deletions_licensed`, holds of every run: whatever the server answers, and wherever the run fails.
-/

namespace NodeInventory

open Exchange

variable {remote : Remote}

/-- None of the requests deletes anything. -/
def NoDeletion (requests : List Request) : Prop := ∀ r ∈ requests, r.method ≠ .delete

/-- What the pass of one node may send after some requests: nothing that deletes, or no deletion
until the node's interfaces are listed, every row of the list naming its interface, and then
deletions of rows of that list, in order and of each row at most once. -/
inductive NodePass (c : Connection) (remote : Remote) (patterns : Value) (before : List Request)
    (node : Entity) : List Request → Prop
  | sparing {sent : List Request} : NoDeletion sent → NodePass c remote patterns before node sent
  | pruning {number : Int} {lead removals : List Request} {rows : Value} {items : List Value} :
      nodeNumber node.reference = .ok (some number) → NoDeletion lead →
      c.queried remote (before ++ lead) interfaceQuery [("nodeId", .int number)] = .ok rows →
      rows.items = .ok items → (∀ row ∈ items, ∃ uri, row.field "Uri" = .ok uri) →
      List.SublistForall₂ (Removes c patterns) removals items →
      NodePass c remote patterns before node (lead ++ c.interfaceRequest number :: removals)

/-- What the passes over some nodes may send after some requests, one list to a node. -/
inductive Passes (c : Connection) (remote : Remote) (patterns : Value) :
    List Request → List Entity → List (List Request) → Prop
  | done (before : List Request) : Passes c remote patterns before [] []
  | pass {before sent : List Request} {node : Entity} {nodes : List Entity}
      {more : List (List Request)} : NodePass c remote patterns before node sent →
      Passes c remote patterns (before ++ sent) nodes more →
      Passes c remote patterns before (node :: nodes) (sent :: more)

/-- What may be sent for a log row after some requests: nothing that deletes, or, for a finished
log row and some patterns, the request for the batch and the passes over its nodes. -/
def Licensed (c : Connection) (remote : Remote) (patterns : Value) (log : Option DiscoveryLog)
    (before sent : List Request) : Prop :=
  NoDeletion sent ∨ ∃ (l : DiscoveryLog) (entities : List Entity) (passes : List (List Request)),
    log = some l ∧ l.result = .finished ∧ patterns.truthy = true ∧
    c.queried remote before itemQuery [("batchId", l.batch)] >>= entitiesOf = .ok entities ∧
    sent = c.itemRequest l.batch :: passes.flatten ∧
    Passes c remote patterns (before ++ [c.itemRequest l.batch]) (entities.filter (·.isNode)) passes

/-! ### Getting a node ready -/

theorem NoDeletion.append {early late : List Request} (h : NoDeletion early)
    (h' : NoDeletion late) : NoDeletion (early ++ late) := by
  intro r member
  rcases List.mem_append.mp member with first | second
  · exact h r first
  · exact h' r second

theorem noDeletion_nil : NoDeletion [] := nofun

theorem noDeletion_query (c : Connection) (text : String) (parameters : Fields) :
    NoDeletion [c.queryRequest text parameters] := by
  simp [NoDeletion, Connection.queryRequest]

theorem Request.Posts.not_delete {r : Request} (h : r.Posts) : r.method ≠ .delete := by
  intro same
  exact Method.noConfusion (h.symm.trans same)

theorem noDeletion_untilDressed (c : Connection) (number : Int) (n : Naming) (properties : Value) :
    NoDeletion (c.untilDressed number n properties) := by
  unfold Connection.untilDressed Connection.untilNamed Connection.renameStep Connection.propertyStep
  refine NoDeletion.append (List.forall_mem_cons.mpr ⟨nofun, ?_⟩) ?_
  all_goals
    split <;> simp [Connection.renameRequest, Connection.propertyRequest, NoDeletion]

/-- What getting a node ready may send: nothing that deletes, and last the request for the node's
interfaces when all goes well. -/
def Lists (c : Connection) (remote : Remote) (number : Int) (before : List Request)
    (outcome : Outcome PreparedNode) (added : List Request) : Prop :=
  NoDeletion added ∧ ∀ p, outcome = .ok p → ∃ lead : List Request,
    NoDeletion lead ∧ added = lead ++ [c.interfaceRequest number] ∧
    c.queried remote (before ++ lead) interfaceQuery [("nodeId", .int number)] >>= interfacesOf =
      .ok p.interfaces

theorem Readied.lists {c : Connection} {options : ReconcileOptions} {node : Entity} {number : Int}
    {before added : List Request} {outcome : Outcome PreparedNode}
    (h : Readied c remote options before node number outcome added) :
    Lists c remote number before outcome added := by
  have dressing (n : Naming) := noDeletion_untilDressed c number n options.customProperties
  have naming (n : Naming) : NoDeletion (c.untilNamed number n) := fun r member =>
    dressing n r (List.mem_append_left _ member)
  cases h with
  | @unread fault _ => exact ⟨by simp [NoDeletion, Connection.readRequest], nofun⟩
  | @unnamed n => exact ⟨naming n, nofun⟩
  | @inadmissible n => exact ⟨naming n, nofun⟩
  | @undressed n => exact ⟨dressing n, nofun⟩
  | @asked n =>
      refine ⟨(dressing n).append (noDeletion_query c _ _), fun p done => ?_⟩
      obtain ⟨interfaces, read, ⟨⟩⟩ := Outcome.bind_eq_ok.mp done
      exact ⟨_, dressing n, rfl, read⟩

/-- A node is ready once its reference names a number and the interfaces under that number have
been listed. -/
theorem prepareNode_sends (c : Connection) (options : ReconcileOptions) (entity : Entity) :
    (prepareNode c options entity).Sends remote fun before outcome added =>
      (∃ fault, outcome = .error fault ∧ added = []) ∨
        ∃ number, nodeNumber entity.reference = .ok (some number) ∧
          Lists c remote number before outcome added := by
  by_cases named : ∃ number, nodeNumber entity.reference = .ok (some number)
  · obtain ⟨number, referred⟩ := named
    refine (prepareNode_readied options referred).mono ?_
    intro _ _ _ readied
    exact .inr ⟨number, referred, readied.lists⟩
  · refine (prepareNode_nameless options fun number found => named ⟨number, found⟩).mono ?_
    intro _ _ _ failed
    exact .inl failed

/-! ### The passes over the nodes -/

theorem Lists.nodePass {c : Connection} {patterns : Value} {number : Int} {node : Entity}
    {p : PreparedNode} {before added removals : List Request}
    (h : Lists c remote number before (.ok p) added)
    (named : nodeNumber node.reference = .ok (some number))
    (prunes : List.SublistForall₂ (Prunes c patterns) removals p.interfaces) :
    NodePass c remote patterns before node (added ++ removals) := by
  obtain ⟨lead, silent, rfl, read⟩ := h.2 p rfl
  obtain ⟨rows, answered, read⟩ := Outcome.bind_eq_ok.mp read
  obtain ⟨items, found, each⟩ := interfacesOf_eq_ok read
  rw [List.append_assoc]
  exact .pruning named silent answered found (rows_name each) (removes_rows each prunes)

/-- Reconciling a node lists its interfaces before it deletes any. -/
theorem reconcileNode_sends (c : Connection) (options : ReconcileOptions) (node : Entity) :
    (reconcileNode c options node).Sends remote fun before outcome added =>
      (∃ o, outcome = .ok o) ∧ NodePass c remote options.patterns before node added := by
  unfold reconcileNode
  refine (prepareNode_sends c options node).attempt.bind
    (fun prepared _ outcome added => (∃ o, outcome = .ok o) ∧
      (∀ fault, prepared = .error fault → added = []) ∧
      ∀ p, prepared = .ok p → List.SublistForall₂ (Prunes c options.patterns) added p.interfaces)
    (fun prepared => ?_) ?_ ?_
  · cases prepared with
    | error fault =>
        refine (sends_ofOutcome _).mono ?_
        rintro _ _ _ ⟨rfl, rfl⟩
        exact ⟨⟨_, rfl⟩, fun _ _ => rfl, fun _ ended => nomatch ended⟩
    | ok p =>
        have pruned := @prune_sends remote c options.patterns p.name p.interfaces
        refine (pruned.bind_pure fun pruning => ?_).mono ?_
        · split <;> exact ⟨_, rfl⟩
        · rintro _ _ _ ⟨done, prunes⟩
          refine ⟨done, (fun _ failed => nomatch failed), ?_⟩
          rintro _ ⟨⟩
          exact prunes
  · rintro _ _ _ ⟨_, ⟨⟩, -⟩
  · rintro before prepared outcome added removals ⟨_, ⟨⟩, prepares⟩ ⟨done, failed, prunes⟩
    refine ⟨done, ?_⟩
    rcases prepares with ⟨fault, rfl, rfl⟩ | ⟨number, named, lists⟩
    · rw [failed fault rfl]
      exact .sparing noDeletion_nil
    · cases prepared with
      | error fault =>
          rw [failed fault rfl, List.append_nil]
          exact .sparing lists.1
      | ok p => exact lists.nodePass named (prunes p rfl)

theorem reconcileNodes_sends (c : Connection) (options : ReconcileOptions) :
    ∀ nodes : List Entity,
      (nodes.mapM (reconcileNode c options)).Sends remote fun before outcome added =>
        (∃ os, outcome = .ok os) ∧ ∃ passes : List (List Request),
          added = passes.flatten ∧ Passes c remote options.patterns before nodes passes
  | [] => by
      refine (sends_ofOutcome _).mono ?_
      rintro before _ _ ⟨rfl, rfl⟩
      exact ⟨⟨[], rfl⟩, [], rfl, .done before⟩
  | node :: rest => by
      rw [List.mapM_cons]
      refine (reconcileNode_sends c options node).bind
        (fun _ before outcome added => (∃ os, outcome = .ok os) ∧ ∃ passes : List (List Request),
          added = passes.flatten ∧ Passes c remote options.patterns before rest passes)
        (fun o => (reconcileNodes_sends c options rest).bind_pure fun os => ⟨_, rfl⟩) ?_ ?_
      · rintro _ _ _ ⟨⟨_, ⟨⟩⟩, -⟩
      · rintro before _ outcome sent _ ⟨-, first⟩ ⟨done, passes, rfl, more⟩
        exact ⟨done, sent :: passes, rfl, .pass first more⟩

/-- Without patterns the pass of a node deletes nothing. -/
theorem NodePass.noDeletion {c : Connection} {patterns : Value} {before sent : List Request}
    {node : Entity} (h : NodePass c remote patterns before node sent)
    (none_ : patterns.truthy = false) : NoDeletion sent := by
  cases h with
  | sparing quiet => exact quiet
  | pruning _ quiet _ _ _ goes =>
      rw [removals_eq_nil goes none_]
      exact quiet.append (noDeletion_query c _ _)

theorem Passes.noDeletion {c : Connection} {patterns : Value} {before : List Request}
    {nodes : List Entity} {passes : List (List Request)}
    (h : Passes c remote patterns before nodes passes) (none_ : patterns.truthy = false) :
    NoDeletion passes.flatten := by
  induction h with
  | done _ => exact noDeletion_nil
  | pass first _ ih => exact (first.noDeletion none_).append ih

/-! ### The whole run -/

/-- What reconciling sends is licensed by the log row. -/
theorem reconcile_sends (c : Connection) (job : Value) (status : Status)
    (log : Option DiscoveryLog) (options : ReconcileOptions) :
    (reconcile c job status log options).Sends remote fun before _ added =>
      Licensed c remote options.patterns log before added := by
  have silent {o : Outcome Report} : (ofOutcome o).Sends remote fun before _ added =>
      Licensed c remote options.patterns log before added := by
    refine (sends_ofOutcome _).mono ?_
    rintro _ _ _ ⟨-, rfl⟩
    exact .inl noDeletion_nil
  unfold reconcile
  cases log with
  | none => exact silent
  | some l =>
      dsimp only
      split
      case isFalse => exact silent
      case isTrue finished =>
        have harmless : NoDeletion [c.itemRequest l.batch] := noDeletion_query c _ _
        refine (fetchEntities_sends c l.batch).bind
          (fun entities before _ added => ∃ passes : List (List Request),
            added = passes.flatten ∧
              Passes c remote options.patterns before (entities.filter (·.isNode)) passes)
          (fun entities => ?_) ?_ ?_
        · refine ((reconcileNodes_sends c options _).bind_pure fun _ => ⟨_, rfl⟩).mono ?_
          exact fun _ _ _ holds => holds.2
        · rintro _ _ _ ⟨rfl, -⟩
          exact .inl harmless
        · rintro before entities outcome _ _ ⟨rfl, read⟩ ⟨passes, rfl, more⟩
          cases given : options.patterns.truthy with
          | false => exact .inl (harmless.append (more.noDeletion given))
          | true => exact .inr ⟨l, entities, passes, rfl, finished, given, read.symm, rfl, more⟩

/-- The log row is in the answer to the last of some requests. -/
def LogRead (c : Connection) (remote : Remote) (before asked : List Request) (l : DiscoveryLog) :
    Prop :=
  ∃ (profile rows row : Value) (lead : List Request), asked = lead ++ [c.logRequest profile] ∧
    c.queried remote (before ++ lead) logQuery [("profileId", profile)] = .ok rows ∧
    rows.first = .ok row ∧ DiscoveryLog.ofRow row = .ok l

/-- What a discovery may send after some requests: nothing that deletes until the log is read, and
then what the log row allows. -/
def Discovers (c : Connection) (remote : Remote) (patterns : Value) (before added : List Request) :
    Prop :=
  ∃ (asked sent : List Request) (log : Option DiscoveryLog), added = asked ++ sent ∧
    NoDeletion asked ∧ (∀ l, log = some l → LogRead c remote before asked l) ∧
    Licensed c remote patterns log (before ++ asked) sent

theorem Discovers.of_noDeletion {c : Connection} {patterns : Value} {before added : List Request}
    (h : NoDeletion added) : Discovers c remote patterns before added :=
  ⟨added, [], none, (List.append_nil _).symm, h, nofun, .inl noDeletion_nil⟩

theorem sends_discovers {c : Connection} {patterns : Value} {α : Type} {m : Exchange α}
    {f : α → Exchange Report} (first : SendsOnly (·.method ≠ .delete) m)
    (second : ∀ a, (f a).Sends remote fun before _ added =>
      Discovers c remote patterns before added) :
    (m >>= f).Sends remote fun before _ added => Discovers c remote patterns before added := by
  refine (first remote).bind _ second (fun _ _ _ quiet => .of_noDeletion quiet) ?_
  rintro before a outcome added _ early ⟨asked, sent, log, rfl, quiet, read, licensed⟩
  refine ⟨added ++ asked, sent, log, (List.append_assoc ..).symm, NoDeletion.append early quiet,
    fun l found => ?_, by rwa [List.append_assoc] at licensed⟩
  obtain ⟨profile, rows, row, lead, rfl, answered, picked, parsed⟩ := read l found
  exact ⟨profile, rows, row, added ++ lead, (List.append_assoc ..).symm,
    by rwa [List.append_assoc] at answered, picked, parsed⟩

theorem logIn_eq_some {rows : Value} {l : DiscoveryLog} (h : logIn rows = .ok (some l)) :
    ∃ row, rows.first = .ok row ∧ DiscoveryLog.ofRow row = .ok l := by
  unfold logIn at h
  split at h
  · obtain ⟨row, picked, read⟩ := Outcome.bind_eq_ok.mp h
    obtain ⟨found, parsed, same⟩ := Outcome.bind_eq_ok.mp read
    cases same
    exact ⟨row, picked, parsed⟩
  · cases h

theorem fetched_discovers (c : Connection) (job : Value) (status : Status)
    (options : ReconcileOptions) :
    (fetchLog c job >>= fun log => reconcile c job status log options).Sends remote
      fun before _ added => Discovers c remote options.patterns before added := by
  have harmless (profile : Value) : NoDeletion [c.logRequest profile] := noDeletion_query c _ _
  refine (fetchLog_sends c job).bind _ (fun log => reconcile_sends c job status log options) ?_ ?_
  · rintro before fault _ (⟨_, _, rfl⟩ | ⟨profile, _, rfl, _⟩)
    · exact .of_noDeletion noDeletion_nil
    · exact .of_noDeletion (harmless profile)
  · rintro before log outcome _ sent (⟨_, ⟨⟩, _⟩ | ⟨profile, _, rfl, read⟩) licensed
    refine ⟨[c.logRequest profile], sent, log, rfl, harmless profile, ?_, licensed⟩
    rintro l rfl
    obtain ⟨rows, answered, read⟩ := Outcome.bind_eq_ok.mp read.symm
    obtain ⟨row, picked, parsed⟩ := logIn_eq_some read
    exact ⟨profile, rows, row, [], rfl, by rwa [List.append_nil], picked, parsed⟩

theorem discover_sends (d : Discoverer) (c : Connection) (now : DateTime)
    (addresses credential name : Value) (options : ReconcileOptions) :
    (d.discover c now addresses credential name options).Sends remote fun before _ added =>
      Discovers c remote options.patterns before added := by
  unfold Discoverer.discover
  refine sends_discovers ((submit_posts c _ _ _ _ _).mono fun _ h => h.not_delete) fun job => ?_
  refine sends_discovers ((wait_posts c _ _).mono fun _ h => h.not_delete) fun status => ?_
  exact fetched_discovers c job.id status options

theorem Licensed.noDeletion {c : Connection} {patterns : Value} {log : Option DiscoveryLog}
    {before sent : List Request} (h : Licensed c remote patterns log before sent)
    (none_ : patterns.truthy = false) : NoDeletion sent := by
  rcases h with quiet | ⟨_, _, _, _, _, given, _⟩
  · exact quiet
  · exact absurd given (by simp [none_])

theorem Discovers.noDeletion {c : Connection} {patterns : Value} {before added : List Request}
    (h : Discovers c remote patterns before added) (none_ : patterns.truthy = false) :
    NoDeletion added := by
  obtain ⟨asked, sent, _, rfl, quiet, -, licensed⟩ := h
  exact quiet.append (licensed.noDeletion none_)

/-- Every run of a reconciliation and of a discovery adds only what is licensed to the requests
before it, whatever the server answers and however the run ends; without patterns that is nothing
that deletes. -/
theorem deletions_licensed (c : Connection) (remote : Remote) (options : ReconcileOptions)
    (trace : Trace) :
    (∀ (job : Value) (status : Status) (log : Option DiscoveryLog), ∃ sent : List Request,
      (reconcile c job status log options remote trace).2.sent = trace.sent ++ sent ∧
        Licensed c remote options.patterns log trace.sent sent ∧
        (options.patterns.truthy = false → NoDeletion sent)) ∧
    (∀ (d : Discoverer) (now : DateTime) (addresses credential name : Value),
      ∃ added : List Request,
        (d.discover c now addresses credential name options remote trace).2.sent =
          trace.sent ++ added ∧
        Discovers c remote options.patterns trace.sent added ∧
        (options.patterns.truthy = false → NoDeletion added)) := by
  refine ⟨fun job status log => ?_, fun d now addresses credential name => ?_⟩
  · obtain ⟨sent, adds, licensed⟩ := reconcile_sends c job status log options trace
    exact ⟨sent, adds, licensed, licensed.noDeletion⟩
  · obtain ⟨added, adds, discovers⟩ :=
      discover_sends d c now addresses credential name options trace
    exact ⟨added, adds, discovers, discovers.noDeletion⟩

end NodeInventory
