import NodeInventory.Proofs.Discovery.PassOrder
import NodeInventory.Proofs.Discovery.Phases
import NodeInventory.Proofs.Discovery.References

/-!
# Numbers that travel as texts

The server starts a job under a number.  The job is known by the text of that number, and whoever
asks about the job turns the text into a number again: the wait at each poll, and the discovery when
it looks for the log.  A node is likewise referred to by a text with its number.  The number that
comes out is the one that went in, `identifiers_survive`: what is asked about a job carries the
number that the server has answered with (`Tracks`), and the pass of a node addresses the number in
its reference (`Addresses`).
-/

namespace NodeInventory

open Exchange

variable {remote : Remote}

/-! ### What is asked about a profile -/

namespace Connection

/-- A request that asks for the status or for the log of a profile, with whatever parameters. -/
def AsksAbout (c : Connection) (parameters : Fields) (r : Request) : Prop :=
  r = c.queryRequest statusQuery parameters ∨ r = c.queryRequest logQuery parameters

theorem queryRequest_inj {c : Connection} {text text' : String} {parameters parameters' : Fields}
    (same : c.queryRequest text parameters = c.queryRequest text' parameters') :
    text = text' ∧ parameters = parameters' := by
  unfold queryRequest at same
  simpa using same

theorem asksAbout_queryRequest {c : Connection} {text : String} {given parameters : Fields}
    (asks : c.AsksAbout parameters (c.queryRequest text given)) :
    (text = statusQuery ∨ text = logQuery) ∧ parameters = given := by
  rcases asks with same | same
  · obtain ⟨rfl, rfl⟩ := queryRequest_inj same
    exact ⟨.inl rfl, rfl⟩
  · obtain ⟨rfl, rfl⟩ := queryRequest_inj same
    exact ⟨.inr rfl, rfl⟩

/-- A request that asks about no profile. -/
def Unrelated (c : Connection) (r : Request) : Prop := ∀ parameters, ¬c.AsksAbout parameters r

theorem unrelated_itemRequest (c : Connection) (batch : Value) :
    c.Unrelated (c.itemRequest batch) := by
  intro parameters asks
  obtain ⟨text | text, -⟩ := asksAbout_queryRequest asks <;> exact absurd text (by decide)

theorem Visits.unrelated {c : Connection} {r : Request} (h : c.Visits r) : c.Unrelated r := by
  intro parameters asks
  cases h with
  | prepare prepares => exact asks.elim (prepares.not_query _ _) (prepares.not_query _ _)
  | list number =>
      obtain ⟨text | text, -⟩ := asksAbout_queryRequest asks <;> exact absurd text (by decide)
  | remove i =>
      rcases asks with same | same <;> exact Method.noConfusion (congrArg Request.method same)

end Connection

theorem reconcile_unrelated (c : Connection) (job : Value) (status : Status)
    (log : Option DiscoveryLog) (options : ReconcileOptions) :
    SendsOnly c.Unrelated (reconcile c job status log options) := by
  refine ((reconcile_script c job status log options).mono fun r sends => ?_).sendsOnly
  rcases sends with ⟨batch, rfl⟩ | visits
  · exact c.unrelated_itemRequest batch
  · exact visits.unrelated

/-! ### A job under a number -/

theorem wait_polls_first {c : Connection} (plan : PollPlan) {job profile : Value}
    (known : profileNumber job = .ok profile) (trace : Trace) (followed : 0 < remote.horizon) :
    trace.sent ++ [c.statusRequest profile] <+: (wait c plan job remote trace).2.sent := by
  obtain ⟨left, followed⟩ := Nat.exists_eq_add_one.mpr followed
  show _ <+: (waitFrom c plan job trace.clock remote.horizon 1 remote trace).2.sent
  rw [followed, waitFrom_round c plan known]
  -- whichever way the first round ends, its poll has been sent by then
  split
  · exact List.prefix_rfl
  dsimp only
  split
  · exact List.prefix_rfl
  split
  · exact List.prefix_rfl
  · exact List.prefix_rfl
  split
  · exact List.prefix_rfl
  · obtain ⟨more, sent, -⟩ := ((sendsOnly_pause (p := c.Polls job) plan.interval).bind fun _ =>
      waitFrom_polls c plan job trace.clock left 2) remote _
    rw [sent]
    exact List.prefix_append _ _

/-- A wait polls for the profile that it knows, and at least once if it is followed at all. -/
theorem wait_known {c : Connection} (plan : PollPlan) {job profile : Value}
    (known : profileNumber job = .ok profile) (trace : Trace) :
    ∃ k, (wait c plan job remote trace).2.sent =
        trace.sent ++ List.replicate k (c.statusRequest profile) ∧
      (0 < remote.horizon → 0 < k) := by
  obtain ⟨polls, sent, polled⟩ := wait_polls c plan job remote trace
  have same : polls = List.replicate polls.length (c.statusRequest profile) := by
    refine List.eq_replicate_of_mem fun r member => ?_
    obtain ⟨profile', known', rfl⟩ := polled r member
    obtain rfl := Except.ok.inj (known.symm.trans known')
    rfl
  refine ⟨polls.length, same ▸ sent, fun followed => ?_⟩
  have first := wait_polls_first (c := c) plan known trace followed
  rw [sent, List.prefix_append_right_inj] at first
  exact first.length_le

/-- The server answers with a value when a submission starts its job, which is the last thing that
it does; `asked` is what the submission has sent before. -/
structure Submission.Begins (x : Submission) (c : Connection) (remote : Remote) (trace : Trace)
    (asked : List Request) (payload : Fields) (profile : Value) : Prop where
  sent : (x.run c remote trace).2.sent = trace.sent ++ (asked ++ [c.verbRequest .start payload])
  answered : c.invoked remote (trace.sent ++ asked) .start payload = .ok profile

theorem Submission.Begins.run_eq {x : Submission} {c : Connection} {trace : Trace}
    {asked : List Request} {payload : Fields} {profile : Value}
    (h : x.Begins c remote trace asked payload profile) :
    ∃ job, x.run c remote trace = (.ok job, (x.run c remote trace).2) ∧
      job.id = .text profile.shown := by
  obtain ⟨sent, same, goes⟩ := @submission_sends remote x c trace
  obtain rfl := List.append_cancel_left (same.symm.trans h.sent)
  rcases goes.reaches with ⟨_, core, interfaces, -, early⟩ |
    ⟨targets, number, core, interfaces, job, _, _, -, split, outcome⟩
  · -- nothing that is sent before the job is started starts it
    have member : c.verbRequest .start payload ∈ x.asked c core interfaces :=
      early.subset (by simp)
    exact absurd rfl (asked_not_start member)
  · obtain ⟨rfl, starts⟩ := List.append_inj' split rfl
    obtain rfl : payload = job := by
      have payloads := congrArg Request.payload (List.cons.inj starts).1
      simpa [Connection.verbRequest] using payloads
    rw [h.answered] at outcome
    exact ⟨_, Prod.ext outcome rfl, rfl⟩

/-- What is sent about a job that runs under a number: polls for this number, and then, unless the
wait has failed, the question for the log of this number, after which no profile is asked about. -/
structure Tracks (c : Connection) (remote : Remote) (n : Nat) (outcome : Outcome Report)
    (later : List Request) : Prop where
  /-- Everything that is asked about a profile carries the number. -/
  carries : ∀ r ∈ later, ∀ parameters, c.AsksAbout parameters r →
    parameters = [("profileId", .int n)]
  /-- The job is asked about at least once, and for its log if the wait ends well. -/
  course : ∃ k rest, later = List.replicate k (c.statusRequest (.int n)) ++ rest ∧
    (0 < remote.horizon → 0 < k) ∧
    ((∃ fault, outcome = .error fault) ∧ rest = [] ∨
      ∃ more, rest = c.logRequest (.int n) :: more ∧ ∀ r ∈ more, c.Unrelated r)

/-- A job that the server has started under a number is asked about under this number. -/
theorem Submission.Begins.tracks {x : Submission} {c : Connection} {trace : Trace}
    {asked : List Request} {payload : Fields} {n : Nat}
    (h : x.Begins c remote trace asked payload (.int n))
    (short : (toString n).toList.length ≤ Text.digitLimit) (plan : PollPlan)
    (options : ReconcileOptions) :
    ∃ later, (x.discover plan options c remote trace).2.sent =
        trace.sent ++ (asked ++ [c.verbRequest .start payload]) ++ later ∧
      Tracks c remote n (x.discover plan options c remote trace).1 later := by
  obtain ⟨job, submits, identified⟩ := h.run_eq
  have known : profileNumber job.id = .ok (.int n) := by
    rw [identified]
    exact profileNumber_toString short
  obtain ⟨k, polled, positive⟩ := @wait_known remote c plan _ _ known (x.run c remote trace).2
  rw [h.sent] at polled
  have polls : ∀ r ∈ List.replicate k (c.statusRequest (.int n)), ∀ parameters,
      c.AsksAbout parameters r → parameters = [("profileId", .int n)] := by
    intro r member parameters asks
    rw [List.eq_of_mem_replicate member] at asks
    exact (Connection.asksAbout_queryRequest asks).2
  rw [discover_submitted submits, bind_run]
  rcases waits : wait c plan job.id remote (x.run c remote trace).2 with ⟨fault | status, waited⟩
  all_goals
    rw [waits] at polled
    dsimp only at polled ⊢
  · exact ⟨_, polled, polls, k, [], (List.append_nil _).symm, positive, .inl ⟨⟨fault, rfl⟩, rfl⟩⟩
  obtain ⟨_, logs, rfl, -⟩ := @askAbout_known remote _ c _ _ logQuery logIn known waited
  rw [← fetchLog_eq, polled] at logs
  -- after the log nothing is asked about any profile
  have closes : ∃ more, (closing c job.id options status remote waited).2.sent =
      (fetchLog c job.id remote waited).2.sent ++ more ∧ ∀ r ∈ more, c.Unrelated r := by
    unfold closing
    rw [bind_run]
    rcases fetchLog c job.id remote waited with ⟨fault | log, logged⟩
    · exact ⟨[], (List.append_nil _).symm, nofun⟩
    · exact reconcile_unrelated c job.id status log options remote logged
  obtain ⟨more, sent, unrelated⟩ := closes
  refine ⟨List.replicate k (c.statusRequest (.int n)) ++ c.logRequest (.int n) :: more, ?_, ?_,
    k, _, rfl, positive, .inr ⟨more, rfl, unrelated⟩⟩
  · rw [sent, logs]
    simp [Connection.logRequest]
  · intro r member parameters asks
    rcases List.mem_append.mp member with early | late
    · exact polls r early parameters asks
    · rcases List.mem_cons.mp late with rfl | last
      · exact (Connection.asksAbout_queryRequest asks).2
      · exact absurd asks (unrelated r last parameters)

/-! ### A node under a number -/

/-- What is said of the pass of a node by the number in its reference: what it sends, and what the
node adds to the report. -/
structure Addresses (c : Connection) (n : Nat) (sent : List Request) (o : NodeOutcome) : Prop where
  /-- The number stands in the name of the node. -/
  place : c.nodeUri n = "swis://" ++ c.server.shown ++ "/Orion/Orion.Nodes/NodeID=" ++ toString n
  /-- The pass begins by reading the node of this name. -/
  reads : [c.readRequest n] <+: sent
  /-- It then gets the node ready, asks for the interfaces under the number, and deletes
  interfaces. -/
  only : ∀ r ∈ sent, c.Prepares n r ∨ r = c.interfaceRequest n ∨ ∃ i, r = c.removal i
  /-- A node that is reported has been asked for its interfaces, and is reported under the
  number. -/
  reported : ∀ report, o.node = some report →
    c.interfaceRequest n ∈ sent ∧ report.number = n ∧ report.uri = c.nodeUri n

theorem nodeUri_eq (c : Connection) (n : Nat) :
    c.nodeUri n = "swis://" ++ c.server.shown ++ "/Orion/Orion.Nodes/NodeID=" ++ toString n := by
  have key : ",".intercalate ["NodeID" ++ "=" ++ toString n] = "NodeID=" ++ toString n :=
    String.intercalate_singleton
  show "swis://" ++ c.server.shown ++ "/Orion/" ++ nodeEntity ++ "/" ++
    ",".intercalate ["NodeID" ++ "=" ++ toString n] = _
  rw [key, ← String.toList_inj]
  simp [nodeEntity]

/-- The pass of a node addresses the number that the node is referred to by. -/
theorem reconcileNode_addresses (c : Connection) (options : ReconcileOptions) {node : Entity}
    {n : Nat} (referred : nodeNumber node.reference = .ok (some n)) :
    (reconcileNode c options node).Sends remote fun _ outcome sent =>
      ∃ o, outcome = .ok o ∧ Addresses c n sent o := by
  refine (reconcileNode_readied options referred).mono ?_
  rintro before outcome _ ⟨prepared, lead, removals, rfl, ⟨readied, -⟩, finishes⟩
  have reads := readied.prefix_script.1.trans (List.prefix_append lead removals)
  have deletes := finishes.deletes
  rcases readied.readies with ⟨fault, rfl, early⟩ | ⟨lead, early, rfl, -, ready⟩
  · obtain ⟨rfl, rfl⟩ := finishes
    refine ⟨_, rfl, nodeUri_eq c n, reads, fun r member => ?_, nofun⟩
    rw [List.append_nil] at member
    exact .inl (early r member)
  · have only : ∀ r ∈ lead ++ [c.interfaceRequest n] ++ removals,
        c.Prepares n r ∨ r = c.interfaceRequest n ∨ ∃ i, r = c.removal i := by
      intro r member
      rcases List.mem_append.mp member with asks | removes
      · rcases List.mem_append.mp asks with prepares | lists
        · exact .inl (early r prepares)
        · exact .inr (.inl (List.mem_singleton.mp lists))
      · exact .inr (.inr (deletes r removes))
    cases prepared with
    | error fault =>
        obtain ⟨rfl, rfl⟩ := finishes
        exact ⟨_, rfl, nodeUri_eq c n, reads, only, nofun⟩
    | ok p =>
        obtain ⟨number, uri, -⟩ := ready p rfl
        obtain ⟨address, fates, rest, stop, -, -, halts, rfl⟩ := finishes
        refine ⟨_, rfl, nodeUri_eq c n, reads, only, fun report found => ?_⟩
        cases halts with
        | undecided => cases found
        | done =>
            obtain rfl := Option.some.inj found
            exact ⟨by simp, number, uri⟩

/-! ### Back to the number -/

/-- What is said of a number whose text is in use for it. -/
structure Survives (n : Nat) : Prop where
  /-- A job that the server has started under the number is known by its text, and asked about
  under the number. -/
  job : ∀ (x : Submission) (plan : PollPlan) (options : ReconcileOptions) (c : Connection)
    (remote : Remote) (trace : Trace) (asked : List Request) (payload : Fields),
    x.Begins c remote trace asked payload (.int n) →
    (∃ job, (x.run c remote trace).1 = .ok job ∧ job.id = .text (toString n)) ∧
      ∃ later, (x.discover plan options c remote trace).2.sent =
          trace.sent ++ (asked ++ [c.verbRequest .start payload]) ++ later ∧
        Tracks c remote n (x.discover plan options c remote trace).1 later
  /-- The number of a node is found in a reference to it. -/
  reference : nodeNumber (.text ("N:" ++ toString n)) = .ok (some n)
  /-- The pass of a node with this reference addresses the number. -/
  pass : ∀ (c : Connection) (options : ReconcileOptions) (node : Entity) (remote : Remote)
    (trace : Trace), node.reference = .text ("N:" ++ toString n) →
    ∃ sent o, (reconcileNode c options node remote trace).1 = .ok o ∧
      (reconcileNode c options node remote trace).2.sent = trace.sent ++ sent ∧
      Addresses c n sent o

/-- Numbers survive their texts, as long as these can be converted, and a reference that is not the
mark of a node and digits behind it has no number. -/
theorem identifiers_survive :
    (∀ n : Nat, (toString n).toList.length ≤ Text.digitLimit → Survives n) ∧
      ∀ s : String, (∀ digits, ¬RefersTo s digits) → nodeNumber (.text s) = .ok none := by
  refine ⟨fun n short => ⟨?_, nodeNumber_toString short, ?_⟩, fun s => nodeNumber_of_not_refersTo⟩
  · intro x plan options c remote trace asked payload begins
    obtain ⟨job, submits, identified⟩ := begins.run_eq
    exact ⟨⟨job, congrArg Prod.fst submits, identified⟩, begins.tracks short plan options⟩
  · intro c options node remote trace referred
    have number : nodeNumber node.reference = .ok (some n) := by
      rw [referred]
      exact nodeNumber_toString short
    obtain ⟨sent, same, o, outcome, addresses⟩ :=
      @reconcileNode_addresses remote c options node n number trace
    exact ⟨sent, o, outcome, same, addresses⟩

/-- A server that starts a job under 42 is asked about 42, a node that is referred to by 42 has this
number, and a sign in front of it makes a reference to no node. -/
theorem identifiers_survive_answer :
    (toString 42).toList.length ≤ Text.digitLimit ∧
    (∃ asked payload later,
      sampleSubmission.Begins sampleConnection emptyBatchServer {} asked payload (.int 42) ∧
      (sampleSubmission.discover {} {} sampleConnection emptyBatchServer {}).2.sent =
        asked ++ [sampleConnection.verbRequest .start payload] ++ later ∧
      Tracks sampleConnection emptyBatchServer 42
        (sampleSubmission.discover {} {} sampleConnection emptyBatchServer {}).1 later) ∧
    nodeNumber (.text "N:42") = .ok (some 42) ∧
    (∀ digits, ¬RefersTo "N:-42" digits) ∧ nodeNumber (.text "N:-42") = .ok none := by
  have short : (toString 42).toList.length ≤ Text.digitLimit := by decide
  obtain ⟨survives, others⟩ := identifiers_survive
  have begins : ∃ asked payload,
      sampleSubmission.Begins sampleConnection emptyBatchServer {} asked payload (.int 42) := by
    have started : (sampleSubmission.run sampleConnection emptyBatchServer {}).1.isOk = true := by
      decide +kernel
    obtain ⟨sent, same, goes⟩ := @submission_sends emptyBatchServer sampleSubmission
      sampleConnection {}
    rcases goes.reaches with ⟨_, _, _, failed, -⟩ |
      ⟨_, _, core, interfaces, payload, _, _, -, rfl, -⟩
    · rw [failed] at started
      cases started
    · exact ⟨_, payload, same, rfl⟩
  have unmarked : ∀ digits, ¬RefersTo "N:-42" digits := by
    rintro digits ⟨same, passes⟩
    have behind : "-42" = digits := by
      rw [← String.toList_inj]
      simpa using congrArg String.toList same
    rw [← behind] at passes
    exact absurd passes (by decide)
  obtain ⟨asked, payload, begins⟩ := begins
  obtain ⟨-, later, sent, tracks⟩ := (survives 42 short).job _ {} {} _ _ _ asked payload begins
  exact ⟨short, ⟨asked, payload, later, begins, sent, tracks⟩, (survives 42 short).reference,
    unmarked, others "N:-42" unmarked⟩

end NodeInventory
