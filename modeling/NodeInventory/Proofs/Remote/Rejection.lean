import NodeInventory.Proofs.Remote.Faults

/-!
# Responses that are no success

Each of the five operations of the server is one request, and its outcome is what the response makes
of it.  A status of 400 or more is a rejection, whatever the body; with a status below that the body
is taken as the result, also when the status is no success.  `non_success_rejected_iff` says which
responses other than a success are rejected, and what becomes of the others.
-/

namespace NodeInventory

open Exchange

/-! ### The operations -/

/-- An operation of the server. -/
inductive Operation where
  | query (text : String) (parameters : Fields)
  | invoke (entity verb : String) (arguments : List Value)
  | read (uri : String)
  | update (uri : String) (properties : Fields)
  | delete (uri : String)

namespace Operation

/-- The run of an operation; setting properties and deleting have nothing to return. -/
def run (c : Connection) : Operation → Exchange Value
  | .query text parameters => c.query text parameters
  | .invoke entity verb arguments => c.invoke entity verb arguments
  | .read uri => c.read uri
  | .update uri properties => c.update uri properties >>= fun _ => pure .null
  | .delete uri => c.delete uri >>= fun _ => pure .null

/-- An operation is refused if a named argument is one that it has anyway. -/
def admitted : Operation → Outcome Unit
  | .query _ parameters => Connection.refuse "query" ["self", "query"] parameters
  | .update _ properties => Connection.refuse "SwisClient.update()" ["self", "uri"] properties
  | .invoke .. | .read _ | .delete _ => .ok ()

def method : Operation → Method
  | .query .. | .invoke .. | .update .. => .post
  | .read _ => .get
  | .delete _ => .delete

/-- Where the request of an operation goes. -/
def path : Operation → String
  | .query .. => "Query"
  | .invoke entity verb _ => "Invoke/" ++ entity ++ "/" ++ verb
  | .read uri | .update uri _ | .delete uri => uri

def payload : Operation → Option Value
  | .query text parameters =>
      some (.object [("query", .text text), ("parameters", .object parameters)])
  | .invoke _ _ arguments => some (.list arguments)
  | .update _ properties => some (.object properties)
  | .read _ | .delete _ => none

/-- The request of an operation. -/
def request (op : Operation) (c : Connection) : Request := ⟨op.method, c.url op.path, op.payload⟩

/-- What an operation returns of the value of a body. -/
def result : Operation → Value → Outcome Value
  | .query .., v => Connection.rowsOf v
  | .invoke .., v | .read _, v => .ok v
  | .update .., _ | .delete _, _ => .ok .null

/-- An operation that is not refused is one request and a look at the value of its answer. -/
theorem run_eq (op : Operation) (c : Connection) (admits : op.admitted = .ok ()) :
    op.run c = c.request op.method op.path op.payload >>= fun v => ofOutcome (op.result v) := by
  cases op with
  | query text parameters => exact c.query_eq text admits
  | invoke entity verb arguments => exact (bind_pure (c.invoke entity verb arguments)).symm
  | read uri => exact (bind_pure (c.read uri)).symm
  | update uri properties =>
      have refused : Connection.refuse "SwisClient.update()" ["self", "uri"] properties = .ok () :=
        admits
      show (c.update uri properties >>= fun _ => pure Value.null) = _
      rw [Connection.update, refused]
      exact bind_assoc (c.request .post uri (some (.object properties))) _ _
  | delete uri => exact bind_assoc (c.request .delete uri none) _ _

theorem result_fails (op : Operation) (v : Value) :
    Outcome.FailsOnly Fault.OfValue (op.result v) := by
  cases op with
  | query => exact Connection.rowsOf_fails v
  | _ => exact Outcome.failsOnly_ok _

theorem run_sends (op : Operation) (c : Connection) {remote : Remote}
    (admits : op.admitted = .ok ()) :
    (op.run c).Sends remote fun before outcome added =>
      added = [op.request c] ∧
        outcome = c.outcomeOf op.path (remote.reply (before ++ added)).answer >>= op.result := by
  rw [op.run_eq c admits]
  refine (c.request_sends op.method op.path op.payload).bind_ofOutcome.mono ?_
  rintro before _ _ ⟨_, ⟨rfl, rfl⟩, rfl⟩
  exact ⟨rfl, rfl⟩

end Operation

/-! ### What a status makes of a response -/

/-- The statuses of a success. -/
def IsSuccess (status : Int) : Prop := 200 ≤ status ∧ status ≤ 299

instance (status : Int) : Decidable (IsSuccess status) := inferInstanceAs (Decidable (_ ∧ _))

/-- An outcome tells that a request to some place was rejected with a status. -/
def Rejected (status : Int) (url : String) (outcome : Outcome Value) : Prop :=
  ∃ message, outcome = .error (.rejected status message url)

section status

variable (op : Operation) (c : Connection) {status : Int} (body : String)

theorem Operation.outcome_of_fault (fault : 400 ≤ status) :
    c.outcomeOf op.path (.response status body) >>= op.result =
      .error (.rejected status (faultMessage body) (c.url op.path)) := by
  have rejected : c.outcomeOf op.path (.response status body) =
      .error (.rejected status (faultMessage body) (c.url op.path)) := if_pos fault
  rw [rejected]
  rfl

theorem Operation.outcome_of_value (taken : status < 400) :
    c.outcomeOf op.path (.response status body) >>= op.result = bodyValue body >>= op.result := by
  have value : c.outcomeOf op.path (.response status body) = bodyValue body :=
    if_neg (Int.not_le.mpr taken)
  rw [value]

theorem Operation.not_rejected_of_value (url : String) :
    ¬Rejected status url (bodyValue body >>= op.result) := by
  rintro ⟨message, rejected⟩
  have looks := (bodyValue_fails body).bind op.result_fails
  cases looks _ rejected

end status

/-- An operation is one request, and a response to it that is no success is a rejection exactly if
its status is 400 or more.  A rejection tells the status and where the request went, and what the
server says in the body; with any other status the body is taken as the result. -/
theorem non_success_rejected_iff (op : Operation) (c : Connection) (remote : Remote) (trace : Trace)
    {status : Int} {body : String} (admits : op.admitted = .ok ())
    (answered : (remote.reply (trace.sent ++ [op.request c])).answer = .response status body) :
    ∃ outcome after, op.run c remote trace = (outcome, after) ∧
      after.sent = trace.sent ++ [op.request c] ∧
      ((¬IsSuccess status → Rejected status (c.url op.path) outcome) ↔
        IsSuccess status ∨ 400 ≤ status) ∧
      (400 ≤ status →
        outcome = .error (.rejected status (faultMessage body) (c.url op.path))) ∧
      (status < 400 → outcome = bodyValue body >>= op.result) := by
  obtain ⟨_, sent, rfl, ended⟩ := op.run_sends c admits trace
  rw [answered] at ended
  refine ⟨_, _, Prod.ext ended rfl, sent, ?_,
    op.outcome_of_fault c body, op.outcome_of_value c body⟩
  by_cases fault : 400 ≤ status
  · rw [op.outcome_of_fault c body fault]
    exact iff_of_true (fun _ => ⟨_, rfl⟩) (.inr fault)
  · rw [op.outcome_of_value c body (Int.not_le.mp fault), or_iff_left fault]
    constructor
    · intro rejects
      by_contra other
      exact op.not_rejected_of_value body _ (rejects other)
    · intro success other
      exact absurd success other

/-! ### A server that sends every request elsewhere -/

/-- One operation of each sort. -/
def sampleOperations : List Operation :=
  [.query "SELECT NodeID FROM Orion.Nodes" [],
    .invoke "Orion.Discovery" "CancelDiscovery" [.int 42],
    .read "swis://orion.test/Orion/Orion.Nodes/NodeID=7",
    .update "swis://orion.test/Orion/Orion.Nodes/NodeID=7" [("Caption", .text "core")],
    .delete "swis://orion.test/Orion/Orion.Nodes/NodeID=7"]

/-- Answers every request with a status and a message. -/
def refusingServer (status : Int) : Remote where
  reply _ := { answer := .response status "\x7b\"Message\": \"moved\"\x7d" }
  horizon := 0

/-- A redirection is no success, but no operation rejects it: each of them returns something. -/
theorem redirection_not_rejected : ¬IsSuccess 302 ∧ ∀ op ∈ sampleOperations,
    op.admitted.isOk = true ∧
    (op.run { server := .text "orion.test" } (refusingServer 302) {}).1.isOk = true ∧
    ∀ url,
      ¬Rejected 302 url (op.run { server := .text "orion.test" } (refusingServer 302) {}).1 := by
  have returns : ∀ op ∈ sampleOperations, op.admitted.isOk = true ∧
      (op.run { server := .text "orion.test" } (refusingServer 302) {}).1.isOk = true := by
    decide +kernel
  refine ⟨by decide, fun op listed => ⟨(returns op listed).1, (returns op listed).2, ?_⟩⟩
  rintro url ⟨message, rejected⟩
  have returned := (returns op listed).2
  rw [rejected] at returned
  cases returned

/-- A node that is not there is rejected with the message in the body. -/
theorem non_success_rejected_iff_missing :
    ∃ outcome after, (Operation.read "swis://orion.test/Orion/Orion.Nodes/NodeID=7").run
        { server := .text "orion.test" } (refusingServer 404) {} = (outcome, after) ∧
      after.sent.length = 1 ∧ ¬IsSuccess 404 ∧
      ∃ message url, outcome = .error (.rejected 404 message url) := by
  obtain ⟨outcome, after, run, sent, -, rejected, -⟩ :=
    non_success_rejected_iff (.read "swis://orion.test/Orion/Orion.Nodes/NodeID=7")
      { server := .text "orion.test" } (refusingServer 404) {} rfl rfl
  exact ⟨outcome, after, run, by rw [sent]; rfl, by decide, _, _, rejected (by decide)⟩

end NodeInventory
