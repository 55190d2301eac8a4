import NodeInventory.Discovery.Status

/-!
# Exchanges with the server

An exchange sends requests, one after the other, to a server that answers each of them as it likes,
and passes time.  It ends with a result or a fault, and leaves a trace: what was sent, how long it
waited and whom it told.  The trace is kept when the exchange fails.
-/

namespace NodeInventory

inductive Method where
  | get | post | delete
  deriving DecidableEq, Repr

/-- The name of a method. -/
def Method.name : Method → String
  | .get => "GET"
  | .post => "POST"
  | .delete => "DELETE"

/-- A request to the server. -/
structure Request where
  method : Method
  url : String
  payload : Option Value

/-- What a request leads to: a response with its body, or none at all. -/
inductive Answer where
  | response (status : Int) (body : String)
  | failure (reason : String)

/-- An answer and the seconds that it took. -/
structure Reply where
  answer : Answer
  took : Rat := 0

/-- Everything around an exchange that it cannot know beforehand. -/
structure Remote where
  /-- The reply to the last one of the requests sent so far. -/
  reply : List Request → Reply
  /-- The seconds by which the next pause, after so many, is longer than asked for. -/
  oversleep : Nat → Rat := fun _ => 0
  /-- The number of polls for which a wait is followed. -/
  horizon : Nat

/-- What a listener is told about a wait. -/
structure Notice where
  label : String
  job : Value
  polls : Nat
  status : Status
  elapsed : Rat

/-- What has happened so far. -/
structure Trace where
  sent : List Request := []
  /-- The seconds that have passed. -/
  clock : Rat := 0
  /-- The pauses, as asked for. -/
  pauses : List Value := []
  notices : List Notice := []

/-- A computation that exchanges messages with the server. -/
def Exchange (α : Type) : Type := Remote → Trace → Outcome α × Trace

namespace Exchange

/-- Goes on with a result; a fault ends the exchange. -/
def andThen {α β : Type} (m : Exchange α) (f : α → Exchange β) : Exchange β := fun remote trace =>
  match m remote trace with
  | (.ok a, trace) => f a remote trace
  | (.error fault, trace) => (.error fault, trace)

/-- An outcome that needs no exchange. -/
def ofOutcome {α : Type} (outcome : Outcome α) : Exchange α := fun _ trace => (outcome, trace)

instance : Monad Exchange where
  pure a := ofOutcome (.ok a)
  bind := andThen

instance : MonadLift Outcome Exchange where
  monadLift := ofOutcome

/-- Fails. -/
def fail {α : Type} (fault : Fault) : Exchange α := ofOutcome (.error fault)

/-- The outcome of an exchange, so that a fault can be dealt with. -/
def attempt {α : Type} (m : Exchange α) : Exchange (Outcome α) := fun remote trace =>
  match m remote trace with
  | (outcome, trace) => (.ok outcome, trace)

/-- The seconds that have passed. -/
def clock : Exchange Rat := fun _ trace => (.ok trace.clock, trace)

/-- The number of polls for which a wait is followed. -/
def horizon : Exchange Nat := fun remote trace => (.ok remote.horizon, trace)

/-- Sends a request and takes the response. -/
def send (request : Request) : Exchange (Int × String) := fun remote trace =>
  let sent := trace.sent ++ [request]
  let reply := remote.reply sent
  let trace := { trace with sent := sent, clock := trace.clock + reply.took }
  match reply.answer with
  | .response status body => (.ok (status, body), trace)
  | .failure reason => (.error (.lost reason), trace)

/-- Pauses for some seconds. -/
def pause (seconds : Value) : Exchange Unit := fun remote trace =>
  match seconds.number?.bind Number.toRat? with
  | some s =>
      (.ok (),
        { trace with
          clock := trace.clock + s + remote.oversleep trace.pauses.length
          pauses := trace.pauses ++ [seconds] })
  | none => (.error .wrongType, trace)

/-- Notes that a listener was told something. -/
def note (notice : Notice) : Exchange Unit := fun _ trace =>
  (.ok (), { trace with notices := trace.notices ++ [notice] })

end Exchange

end NodeInventory
