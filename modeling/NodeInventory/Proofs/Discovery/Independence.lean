import NodeInventory.Proofs.Discovery.Batch

/-!
# Nodes are reconciled independently

When each answer of the server depends on the request alone, what is sent for a node and what is
reported of it depend on the node alone: `nodes_independent` gives one visit to every node, and
every batch is reconciled by the visits of its nodes, whatever else it holds.  So reconciling a
batch of two parts sends and reports what its parts do, one after the other, and a batch in another
order has the same visits in another order.

A batch is told apart from another one only by the answer to the request for it, which is why that
request is left out of what the server's answers are asked to agree on (`Batch.Lists`).
-/

namespace NodeInventory

open Exchange

/-! ### The visit of a node -/

/-- A request for the entities of a batch. -/
def Connection.AsksForBatch (c : Connection) (r : Request) : Prop :=
  ∃ batch, r = c.itemRequest batch

theorem Connection.itemRequest_ne_interfaceRequest (c : Connection) (batch : Value)
    (number : Int) : c.itemRequest batch ≠ c.interfaceRequest number := by
  intro same
  have texts : itemQuery = interfaceQuery := by
    unfold itemRequest interfaceRequest queryRequest at same
    simpa using congrArg Request.payload same
  revert texts
  decide

theorem Connection.Visits.not_batch {c : Connection} {r : Request} (h : c.Visits r) :
    ¬c.AsksForBatch r := by
  rintro ⟨batch, rfl⟩
  generalize asked : c.itemRequest batch = r at h
  cases h with
  | prepare prepares => exact prepares.not_query _ _ asked.symm
  | list number => exact c.itemRequest_ne_interfaceRequest batch number asked
  | remove i => exact Method.noConfusion (congrArg Request.method asked)

/-- To a server whose answers depend on the requests alone, a node has one visit. -/
theorem visit_uniform (c : Connection) (options : ReconcileOptions)
    (answer : Request → Answer) (node : Entity) :
    ∃ v : Visit, ∀ remote : Remote, remote.Answers (¬c.AsksForBatch ·) answer →
      (reconcileNode c options node).Sends remote fun _ outcome added =>
        ∃ o, outcome = .ok o ∧ ⟨added, o⟩ = v := by
  obtain ⟨outcome, added, uniform⟩ := (reconcileNode_script c options node).uniform answer
  have same (remote : Remote) (answers : remote.Answers (¬c.AsksForBatch ·) answer) :=
    uniform remote fun before r visits => answers before r visits.not_batch
  cases outcome with
  | ok o =>
      refine ⟨⟨added, o⟩, fun remote answers => (same remote answers).mono ?_⟩
      rintro _ _ _ ⟨rfl, rfl⟩
      exact ⟨o, rfl, rfl⟩
  | error fault =>
      -- a visit always ends well
      refine ⟨⟨[], none, []⟩, fun remote answers trace => ?_⟩
      obtain ⟨_, _, failed, -⟩ := same remote answers trace
      obtain ⟨_, _, _, ended, -⟩ := @reconcileNode_visited remote c options node trace
      rw [failed] at ended
      cases ended

/-! ### Batches -/

/-- A batch that is to be reconciled: the server, the job with the status that the wait for it ended
with, the log row, and what was before. -/
structure Batch where
  remote : Remote
  job : Value
  status : Status
  log : DiscoveryLog
  before : Trace

namespace Batch

/-- The run that reconciles a batch. -/
def run (b : Batch) (c : Connection) (options : ReconcileOptions) : Outcome Report × Trace :=
  reconcile c b.job b.status (some b.log) options b.remote b.before

/-- The batch is a finished one that holds some rows, and every other answer of the server depends
on the request alone. -/
structure Lists (b : Batch) (c : Connection) (answer : Request → Answer) (rows : List Value) :
    Prop where
  finished : b.log.result = .finished
  answers : b.remote.Answers (¬c.AsksForBatch ·) answer
  listed : c.queried b.remote b.before.sent itemQuery [("batchId", b.log.batch)] =
    .ok (.list rows)

/-- The batch is reconciled: it is asked for, more is sent, and there is a report. -/
def Yields (b : Batch) (c : Connection) (options : ReconcileOptions) (report : Report)
    (sent : List Request) : Prop :=
  ∃ after, b.run c options = (.ok report, after) ∧
    after.sent = b.before.sent ++ c.itemRequest b.log.batch :: sent

/-- The batch is asked for in vain. -/
def Fails (b : Batch) (c : Connection) (options : ReconcileOptions) (fault : Fault) : Prop :=
  ∃ after, b.run c options = (.error fault, after) ∧
    after.sent = b.before.sent ++ [c.itemRequest b.log.batch]

/-- The batch is reconciled by some visits. -/
def YieldsVisits (b : Batch) (c : Connection) (options : ReconcileOptions) (visits : List Visit) :
    Prop :=
  b.Yields c options (.ofVisits b.job b.log visits) (visits.flatMap Visit.sent)

end Batch

theorem Tour.eq_map {visit : Entity → Visit} {before : List Request} {nodes : List Entity}
    {visits : List Visit} (h : Tour (fun _ node v => v = visit node) before nodes visits) :
    visits = nodes.map visit := by
  induction h with
  | done _ => rfl
  | visit same _ ih => rw [List.map_cons, same, ih]

section batch

variable {c : Connection} {options : ReconcileOptions} {answer : Request → Answer}
  {visit : Entity → Visit} {b : Batch} {rows : List Value}

/-- A batch is reconciled by the visits that its nodes have anyway, if it can be read. -/
theorem Batch.Lists.runs (lists : b.Lists c answer rows)
    (uniform : ∀ node (remote : Remote), remote.Answers (¬c.AsksForBatch ·) answer →
      (reconcileNode c options node).Sends remote fun _ outcome added =>
        ∃ o, outcome = .ok o ∧ ⟨added, o⟩ = visit node) :
    (∀ entities, entitiesOf (.list rows) = .ok entities →
      b.YieldsVisits c options ((entities.filter (·.isNode)).map visit)) ∧
    ∀ fault, entitiesOf (.list rows) = .error fault → b.Fails c options fault := by
  obtain ⟨added, sent, holds⟩ := @reconcile_batch b.remote c options
    (fun _ node v => v = visit node) (fun node => uniform node b.remote lists.answers)
    b.job b.status b.log lists.finished b.before
  have read : c.queried b.remote b.before.sent itemQuery [("batchId", b.log.batch)] >>=
      entitiesOf = entitiesOf (.list rows) := by
    rw [lists.listed]
    rfl
  rw [read] at holds
  constructor
  · intro entities readable
    rw [readable] at holds
    rcases holds with ⟨_, ⟨⟩, -⟩ | ⟨_, visits, ⟨⟩, tour, ended, rfl⟩
    rw [tour.eq_map] at ended sent
    exact ⟨_, Prod.ext ended rfl, sent⟩
  · intro fault unreadable
    rw [unreadable] at holds
    rcases holds with ⟨_, ⟨⟩, ended, rfl⟩ | ⟨_, _, ⟨⟩, -⟩
    exact ⟨_, Prod.ext ended rfl, sent⟩

end batch

/-- The nodes in some rows. -/
def nodesIn (rows : List Fields) : List Entity := (rows.map Entity.ofFields).filter (·.isNode)

theorem nodesIn_append (xs ys : List Fields) : nodesIn (xs ++ ys) = nodesIn xs ++ nodesIn ys := by
  unfold nodesIn
  rw [List.map_append, List.filter_append]

theorem nodesIn_perm {xs ys : List Fields} (h : xs.Perm ys) : (nodesIn xs).Perm (nodesIn ys) :=
  (h.map _).filter _

/-- When each answer of the server depends on the request alone, every node has one visit, and each
batch is reconciled by the visits of its nodes.  Hence a batch of two parts is reconciled as its
parts are, one after the other, and a batch in another order by the same visits in another order. -/
theorem nodes_independent (c : Connection) (options : ReconcileOptions)
    (answer : Request → Answer) :
    ∃ visit : Entity → Visit,
      (∀ (b : Batch) (rows : List Value), b.Lists c answer rows →
        (∀ entities, entitiesOf (.list rows) = .ok entities →
          b.YieldsVisits c options ((entities.filter (·.isNode)).map visit)) ∧
        ∀ fault, entitiesOf (.list rows) = .error fault → b.Fails c options fault) ∧
      (∀ (b b₁ b₂ : Batch) (xs ys : List Fields), b.Lists c answer ((xs ++ ys).map .object) →
        b₁.Lists c answer (xs.map .object) → b₂.Lists c answer (ys.map .object) →
        ∃ (r r₁ r₂ : Report) (sent₁ sent₂ : List Request), b₁.Yields c options r₁ sent₁ ∧
          b₂.Yields c options r₂ sent₂ ∧ b.Yields c options r (sent₁ ++ sent₂) ∧
          r.nodes = r₁.nodes ++ r₂.nodes ∧ r.incidents = r₁.incidents ++ r₂.incidents) ∧
      ∀ (b₁ b₂ : Batch) (xs ys : List Fields), xs.Perm ys →
        b₁.Lists c answer (xs.map .object) → b₂.Lists c answer (ys.map .object) →
        ∃ visits₁ visits₂ : List Visit, visits₁.Perm visits₂ ∧
          b₁.YieldsVisits c options visits₁ ∧ b₂.YieldsVisits c options visits₂ := by
  choose visit uniform using visit_uniform c options answer
  have runs (b : Batch) (rows : List Fields) (lists : b.Lists c answer (rows.map .object)) :
      b.YieldsVisits c options ((nodesIn rows).map visit) :=
    (lists.runs uniform).1 _ (entitiesOf_objects rows)
  refine ⟨visit, fun b rows lists => lists.runs uniform, ?_, ?_⟩
  · intro b b₁ b₂ xs ys lists lists₁ lists₂
    have whole := runs b _ lists
    rw [nodesIn_append, List.map_append] at whole
    unfold Batch.YieldsVisits at whole
    rw [List.flatMap_append] at whole
    exact ⟨_, _, _, _, _, runs b₁ xs lists₁, runs b₂ ys lists₂, whole,
      List.filterMap_append .., List.flatMap_append ..⟩
  · intro b₁ b₂ xs ys same lists₁ lists₂
    exact ⟨_, _, (nodesIn_perm same).map visit, runs b₁ xs lists₁, runs b₂ ys lists₂⟩

/-- A server whose answers depend on the requests alone. -/
def Remote.stateless (answer : Request → Answer) : Remote where
  reply sent := { answer := (sent.getLast?.map answer).getD (.failure "no request") }
  horizon := 0

theorem Remote.stateless_answers (p : Request → Prop) (answer : Request → Answer) :
    (Remote.stateless answer).Answers p answer := by
  intro before r _
  simp [Remote.stateless]

/-- The row of a node as a batch lists it. -/
def sampleItem (number : String) : String :=
  "\x7b\"EntityType\": \"Orion.Nodes\", \"NetObjectID\": \"N:" ++ number ++ "\"\x7d"

/-- The texts in that row. -/
def sampleRow (number : String) : List (String × String) :=
  [("EntityType", "Orion.Nodes"), ("NetObjectID", "N:" ++ number)]

/-- The server holds no node but 5, and three batches: one of node 5, one of node 6, one of both. -/
def sampleAnswer (r : Request) : Answer :=
  let listing (items : String) : Answer := .response 200 ("\x7b\"results\": [" ++ items ++ "]\x7d")
  match r.method, r.payload with
  | .get, _ => if r.url.endsWith "=5" then .response 200 "\x7b\x7d" else .response 404 "unknown"
  | .post, some (.object [_, (_, .object [("batchId", .text batch)])]) =>
      if batch = "five" then listing (sampleItem "5")
      else if batch = "six" then listing (sampleItem "6")
      else listing (sampleItem "5" ++ "," ++ sampleItem "6")
  | _, _ => .response 200 ""

/-- A finished batch of that server. -/
def sampleBatch (name : String) : Batch :=
  ⟨.stateless sampleAnswer, .text "42", .finished, { result := .finished, batch := .text name }, {}⟩

/-- The batch holds some rows of texts. -/
def SampleLists (name : String) (rows : List (List (String × String))) : Prop :=
  (sampleBatch name).Lists sampleConnection sampleAnswer ((rows.map Fields.ofTexts).map .object)

theorem sampleLists_of_textRows {name : String} {rows : List (List (String × String))}
    (listed : textRows? (sampleConnection.queried (.stateless sampleAnswer) [] itemQuery
      [("batchId", .text name)]) = some rows) : SampleLists name rows :=
  ⟨rfl, Remote.stateless_answers _ _, textRows?_eq_some listed⟩

/-- Node 6, which cannot be read, takes nothing from node 5 in the batch of both. -/
theorem nodes_independent_sample :
    SampleLists "five" [sampleRow "5"] ∧ SampleLists "six" [sampleRow "6"] ∧
    SampleLists "both" ([sampleRow "5"] ++ [sampleRow "6"]) ∧
    ∃ (r r₁ r₂ : Report) (sent₁ sent₂ : List Request),
      (sampleBatch "five").Yields sampleConnection {} r₁ sent₁ ∧
      (sampleBatch "six").Yields sampleConnection {} r₂ sent₂ ∧
      (sampleBatch "both").Yields sampleConnection {} r (sent₁ ++ sent₂) ∧
      r.nodes = r₁.nodes ++ r₂.nodes ∧ r.incidents = r₁.incidents ++ r₂.incidents := by
  have five : SampleLists "five" [sampleRow "5"] := sampleLists_of_textRows (by decide +kernel)
  have six : SampleLists "six" [sampleRow "6"] := sampleLists_of_textRows (by decide +kernel)
  have both : SampleLists "both" ([sampleRow "5"] ++ [sampleRow "6"]) :=
    sampleLists_of_textRows (by decide +kernel)
  obtain ⟨_, -, parts, -⟩ := nodes_independent sampleConnection {} sampleAnswer
  exact ⟨five, six, both, parts _ _ _ ([sampleRow "5"].map Fields.ofTexts)
    ([sampleRow "6"].map Fields.ofTexts) both five six⟩

end NodeInventory
