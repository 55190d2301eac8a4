import NodeInventory.Remote.Client
import Mathlib.Data.List.Forall2

/-!
# What an exchange sends

`m.Sends remote post` says of every run of the exchange `m` that it keeps the requests that were
sent before it, adds some of its own, and ends so that `post` holds of the requests before it, its
outcome and the added ones.  `SendsOnly p m` is the case where all that matters is that each added
request is a `p`; it is kept by every way of putting exchanges together.

A request to the server is followed by one answer, and `Connection.outcomeOf` is what the answer
makes of it.  The operations of `Connection` are specified here by the one request that each sends.
-/

namespace NodeInventory

theorem Outcome.bind_eq_ok {α β : Type} {outcome : Outcome α} {f : α → Outcome β} {b : β} :
    outcome >>= f = .ok b ↔ ∃ a, outcome = .ok a ∧ f a = .ok b := by
  cases outcome with
  | error fault =>
      constructor
      · intro h
        cases h
      · rintro ⟨_, ⟨⟩, _⟩
  | ok a =>
      constructor
      · intro h
        exact ⟨a, rfl, h⟩
      · rintro ⟨_, ⟨⟩, h⟩
        exact h

theorem map_eq_ok {ε α β : Type} {r : Except ε α} {f : α → β} {b : β} :
    r.map f = .ok b ↔ ∃ a, r = .ok a ∧ f a = b := by
  cases r <;> simp [Except.map]

theorem Outcome.eq_ok_of_toOption {α : Type} {outcome : Outcome α} {a : α}
    (h : outcome.toOption = some a) : outcome = .ok a := by
  cases outcome with
  | error fault => cases h
  | ok b => exact congrArg Except.ok (Option.some.inj h)

theorem forall₂_of_mapM_eq_ok {α β : Type} {f : α → Outcome β} : ∀ {as : List α} {bs : List β},
    as.mapM f = .ok bs → List.Forall₂ (fun a b => f a = .ok b) as bs
  | [], bs, h => by
      cases h
      exact .nil
  | a :: rest, bs, h => by
      rw [List.mapM_cons] at h
      obtain ⟨b, first, h⟩ := Outcome.bind_eq_ok.mp h
      obtain ⟨more, later, h⟩ := Outcome.bind_eq_ok.mp h
      cases h
      exact .cons first (forall₂_of_mapM_eq_ok later)

/-- The response in an answer. -/
def Answer.received : Answer → Outcome (Int × String)
  | .response status body => .ok (status, body)
  | .failure reason => .error (.lost reason)

namespace Exchange

variable {α β : Type} {remote : Remote}

theorem bind_run (m : Exchange α) (f : α → Exchange β) (trace : Trace) :
    (m >>= f) remote trace = match m remote trace with
      | (.ok a, mid) => f a remote mid
      | (.error fault, mid) => (.error fault, mid) := rfl

instance : LawfulMonad Exchange := by
  refine LawfulMonad.mk' Exchange ?_ ?_ ?_
  · intro α m
    funext remote trace
    show (m >>= pure) remote trace = m remote trace
    rw [bind_run]
    rcases m remote trace with ⟨_ | _, after⟩ <;> rfl
  · intro α β a f
    rfl
  · intro α β γ m f g
    funext remote trace
    rw [bind_run, bind_run, bind_run]
    rcases m remote trace with ⟨_ | _, after⟩ <;> rfl

theorem bind_eq_ok {m : Exchange α} {f : α → Exchange β} {trace after : Trace} {b : β} :
    (m >>= f) remote trace = (.ok b, after) ↔
      ∃ a mid, m remote trace = (.ok a, mid) ∧ f a remote mid = (.ok b, after) := by
  rw [bind_run]
  rcases m remote trace with ⟨_ | a, mid⟩
  · simp
  · constructor
    · intro run
      exact ⟨a, mid, rfl, run⟩
    · rintro ⟨_, _, ⟨⟩, run⟩
      exact run

theorem ofOutcome_bind (outcome : Outcome α) (f : α → Outcome β) :
    ofOutcome (outcome >>= f) = ofOutcome outcome >>= fun a => ofOutcome (f a) := by
  cases outcome <;> rfl

/-! ### Specifications -/

/-- Every run adds requests to those before it, and `post` holds of the requests before it, its
outcome and the added ones. -/
def Sends (m : Exchange α) (remote : Remote)
    (post : List Request → Outcome α → List Request → Prop) : Prop :=
  ∀ trace : Trace, ∃ added : List Request,
    (m remote trace).2.sent = trace.sent ++ added ∧ post trace.sent (m remote trace).1 added

theorem Sends.mono {m : Exchange α} {post post' : List Request → Outcome α → List Request → Prop}
    (h : m.Sends remote post)
    (weaker : ∀ before outcome added, post before outcome added → post' before outcome added) :
    m.Sends remote post' := by
  intro trace
  obtain ⟨added, sent, holds⟩ := h trace
  exact ⟨added, sent, weaker _ _ _ holds⟩

theorem Sends.and {m : Exchange α} {post post' : List Request → Outcome α → List Request → Prop}
    (h : m.Sends remote post) (h' : m.Sends remote post') :
    m.Sends remote fun before outcome added =>
      post before outcome added ∧ post' before outcome added := by
  intro trace
  obtain ⟨added, sent, holds⟩ := h trace
  obtain ⟨added', sent', holds'⟩ := h' trace
  obtain rfl := List.append_cancel_left (sent.symm.trans sent')
  exact ⟨added, sent, holds, holds'⟩

theorem sends_ofOutcome (outcome : Outcome α) :
    (ofOutcome outcome).Sends remote fun _ o added => o = outcome ∧ added = [] := by
  intro trace
  exact ⟨[], by simp [ofOutcome], rfl, rfl⟩

/-- Two exchanges, one after the other: `goal` has to hold when the first one fails, and when what
the second one adds comes after what the first one added. -/
theorem Sends.bind {m : Exchange α} {f : α → Exchange β}
    {post : List Request → Outcome α → List Request → Prop}
    {goal : List Request → Outcome β → List Request → Prop} (first : m.Sends remote post)
    (post' : α → List Request → Outcome β → List Request → Prop)
    (second : ∀ a, (f a).Sends remote (post' a))
    (failed : ∀ before fault added, post before (.error fault) added →
      goal before (.error fault) added)
    (both : ∀ before a outcome added more, post before (.ok a) added →
      post' a (before ++ added) outcome more → goal before outcome (added ++ more)) :
    (m >>= f).Sends remote goal := by
  intro trace
  obtain ⟨added, sent, holds⟩ := first trace
  rw [bind_run]
  cases run : m remote trace with
  | mk outcome mid =>
      rw [run] at sent holds
      cases outcome with
      | error fault => exact ⟨added, sent, failed _ _ _ holds⟩
      | ok a =>
          obtain ⟨more, sent', holds'⟩ := second a mid
          have before : mid.sent = trace.sent ++ added := sent
          rw [before] at sent' holds'
          exact ⟨added ++ more, by rw [sent', List.append_assoc], both _ _ _ _ _ holds holds'⟩

/-- Two exchanges, one after the other: either the first one fails, or what the second one adds
comes after what the first one added.  Of the second one a specification is needed only for the
results that the first one can have. -/
theorem Sends.seq {m : Exchange α} {f : α → Exchange β}
    {post : List Request → Outcome α → List Request → Prop} (first : m.Sends remote post)
    (post' : α → List Request → Outcome β → List Request → Prop)
    (second : ∀ before a lead, post before (.ok a) lead → (f a).Sends remote (post' a)) :
    (m >>= f).Sends remote fun before outcome added =>
      (∃ fault, outcome = .error fault ∧ post before (.error fault) added) ∨
        ∃ a lead more, added = lead ++ more ∧ post before (.ok a) lead ∧
          post' a (before ++ lead) outcome more := by
  intro trace
  obtain ⟨lead, sent, holds⟩ := first trace
  rw [bind_run]
  cases run : m remote trace with
  | mk outcome mid =>
      rw [run] at sent holds
      cases outcome with
      | error fault => exact ⟨lead, sent, .inl ⟨fault, rfl, holds⟩⟩
      | ok a =>
          obtain ⟨more, sent', holds'⟩ := second _ a lead holds mid
          have before : mid.sent = trace.sent ++ lead := sent
          rw [before] at sent' holds'
          exact ⟨lead ++ more, by rw [sent', List.append_assoc],
            .inr ⟨a, lead, more, rfl, holds, holds'⟩⟩

/-- What is done with a result without an exchange adds nothing. -/
theorem Sends.bind_ofOutcome {m : Exchange α} {f : α → Outcome β}
    {post : List Request → Outcome α → List Request → Prop} (h : m.Sends remote post) :
    (m >>= fun a => ofOutcome (f a)).Sends remote fun before o added =>
      ∃ outcome, post before outcome added ∧ o = outcome >>= f := by
  refine h.bind _ (fun a => sends_ofOutcome (f a)) ?_ ?_
  · intro before fault added holds
    exact ⟨.error fault, holds, rfl⟩
  · rintro before a _ added _ holds ⟨rfl, rfl⟩
    exact ⟨.ok a, by rwa [List.append_nil], rfl⟩

theorem Sends.bind_silent {m : Exchange α} {f : α → Exchange β}
    {post : List Request → List Request → Prop}
    (first : m.Sends remote fun before _ added => post before added)
    (silent : ∀ a, (f a).Sends remote fun _ _ added => added = []) :
    (m >>= f).Sends remote fun before _ added => post before added := by
  refine first.bind _ silent (fun _ _ _ holds => holds) ?_
  rintro before _ _ added _ holds rfl
  rwa [List.append_nil]

theorem sends_pure (a : α) : (pure a : Exchange α).Sends remote fun _ _ added => added = [] :=
  (sends_ofOutcome _).mono fun _ _ _ holds => holds.2

theorem Sends.bind_pure {m : Exchange α} {f : α → Exchange β}
    {post : List Request → List Request → Prop}
    (first : m.Sends remote fun before o added => (∃ a, o = .ok a) ∧ post before added)
    (done : ∀ a, ∃ b, f a = pure b) :
    (m >>= f).Sends remote fun before o added => (∃ b, o = .ok b) ∧ post before added := by
  refine first.bind (fun _ _ o added => (∃ b, o = .ok b) ∧ added = []) (fun a => ?_) ?_ ?_
  · obtain ⟨b, same⟩ := done a
    rw [same]
    exact (sends_ofOutcome _).mono fun _ _ _ holds => ⟨⟨b, holds.1⟩, holds.2⟩
  · rintro _ _ _ ⟨⟨_, ⟨⟩⟩, -⟩
  · rintro before _ _ added _ ⟨-, holds⟩ ⟨ended, rfl⟩
    exact ⟨ended, by rwa [List.append_nil]⟩

theorem Sends.attempt {m : Exchange α} {post : List Request → Outcome α → List Request → Prop}
    (h : m.Sends remote post) :
    (m.attempt).Sends remote fun before o added =>
      ∃ outcome, o = .ok outcome ∧ post before outcome added := by
  intro trace
  obtain ⟨added, sent, holds⟩ := h trace
  exact ⟨added, sent, _, rfl, holds⟩

theorem sends_send (request : Request) :
    (send request).Sends remote fun before outcome added =>
      added = [request] ∧ outcome = (remote.reply (before ++ added)).answer.received := by
  intro trace
  refine ⟨[request], ?_⟩
  unfold send
  dsimp only
  cases (remote.reply (trace.sent ++ [request])).answer <;> exact ⟨rfl, rfl, rfl⟩

/-! ### Requests of one sort -/

/-- Every added request is a `p`. -/
def SendsOnly (p : Request → Prop) (m : Exchange α) : Prop :=
  ∀ remote, m.Sends remote fun _ _ added => ∀ r ∈ added, p r

section only

variable {p : Request → Prop}

theorem SendsOnly.mono {q : Request → Prop} {m : Exchange α} (h : SendsOnly p m)
    (weaker : ∀ r, p r → q r) : SendsOnly q m := by
  intro remote
  refine (h remote).mono ?_
  intro _ _ _ holds r member
  exact weaker r (holds r member)

theorem SendsOnly.bind {m : Exchange α} {f : α → Exchange β} (first : SendsOnly p m)
    (second : ∀ a, SendsOnly p (f a)) : SendsOnly p (m >>= f) := by
  intro remote
  refine (first remote).bind _ (fun a => second a remote) (fun _ _ _ holds => holds) ?_
  intro _ _ _ added more holds holds' r member
  rcases List.mem_append.mp member with early | late
  · exact holds r early
  · exact holds' r late

theorem sendsOnly_of_sent_eq {m : Exchange α}
    (h : ∀ remote trace, (m remote trace).2.sent = trace.sent) : SendsOnly p m := by
  intro remote trace
  exact ⟨[], by rw [h, List.append_nil], by simp⟩

theorem sendsOnly_ofOutcome (outcome : Outcome α) : SendsOnly p (ofOutcome outcome) :=
  sendsOnly_of_sent_eq fun _ _ => rfl

theorem sendsOnly_pure (a : α) : SendsOnly p (pure a : Exchange α) := sendsOnly_ofOutcome _

theorem sendsOnly_fail (fault : Fault) : SendsOnly p (fail fault : Exchange α) :=
  sendsOnly_ofOutcome _

theorem sendsOnly_clock : SendsOnly p clock := sendsOnly_of_sent_eq fun _ _ => rfl

theorem sendsOnly_horizon : SendsOnly p horizon := sendsOnly_of_sent_eq fun _ _ => rfl

theorem sendsOnly_note (notice : Notice) : SendsOnly p (note notice) :=
  sendsOnly_of_sent_eq fun _ _ => rfl

theorem sendsOnly_pause (seconds : Value) : SendsOnly p (pause seconds) := by
  refine sendsOnly_of_sent_eq fun remote trace => ?_
  unfold pause
  split <;> rfl

theorem SendsOnly.attempt {m : Exchange α} (h : SendsOnly p m) : SendsOnly p m.attempt := by
  intro remote
  refine (h remote).attempt.mono ?_
  rintro _ _ _ ⟨_, _, holds⟩
  exact holds

theorem SendsOnly.forM {f : α → Exchange Unit} (h : ∀ a, SendsOnly p (f a)) (as : List α) :
    SendsOnly p (as.forM f) := by
  induction as with
  | nil => exact sendsOnly_pure ()
  | cons a rest ih => exact (h a).bind fun _ => ih

end only

end Exchange

/-! ### The server's operations -/

namespace Connection

open Exchange

/-- The value of a response, unless its status is that of a fault. -/
def valueOf (c : Connection) (path : String) (response : Int × String) : Outcome Value :=
  if faultStatus ≤ response.1 then
    .error (.rejected response.1 (faultMessage response.2) (c.url path))
  else bodyValue response.2

/-- What an answer makes of a request. -/
def outcomeOf (c : Connection) (path : String) (answer : Answer) : Outcome Value :=
  answer.received >>= c.valueOf path

/-- The rows in the result of a query. -/
def rowsOf (result : Value) : Outcome Value := do
  let rows ← (result.orElse (.object [])).getOr "results" (.list [])
  let _ ← rows.size
  pure rows

/-- The request that runs a query. -/
def queryRequest (c : Connection) (text : String) (parameters : Fields) : Request :=
  ⟨.post, c.url "Query",
    some (.object [("query", .text text), ("parameters", .object parameters)])⟩

/-- The rows of a query that is sent after some requests. -/
def queried (c : Connection) (remote : Remote) (before : List Request) (text : String)
    (parameters : Fields) : Outcome Value :=
  c.outcomeOf "Query" (remote.reply (before ++ [c.queryRequest text parameters])).answer >>= rowsOf

variable (c : Connection) {remote : Remote}

theorem url_injective : Function.Injective c.url := by
  intro path path' same
  unfold url at same
  simpa using same

theorem request_eq (method : Method) (path : String) (payload : Option Value) :
    c.request method path payload =
      send ⟨method, c.url path, payload⟩ >>= fun response =>
        ofOutcome (c.valueOf path response) := by
  unfold request
  refine congrArg (send _ >>= ·) (funext fun response => ?_)
  obtain ⟨status, body⟩ := response
  by_cases rejected : faultStatus ≤ status
  · simp only [valueOf, if_pos rejected]
    rfl
  · simp only [valueOf, if_neg rejected]

/-- A request is sent once, and its outcome is what the answer makes of it. -/
theorem request_sends (method : Method) (path : String) (payload : Option Value) :
    (c.request method path payload).Sends remote fun before outcome added =>
      added = [⟨method, c.url path, payload⟩] ∧
        outcome = c.outcomeOf path (remote.reply (before ++ added)).answer := by
  rw [request_eq]
  refine (sends_send _).bind_ofOutcome.mono ?_
  rintro before _ _ ⟨_, ⟨rfl, rfl⟩, rfl⟩
  exact ⟨rfl, rfl⟩

theorem request_sendsOnly {p : Request → Prop} {method : Method} {path : String}
    {payload : Option Value} (h : p ⟨method, c.url path, payload⟩) :
    SendsOnly p (c.request method path payload) := by
  intro remote
  refine (c.request_sends method path payload).mono ?_
  rintro _ _ _ ⟨rfl, -⟩
  simpa using h

/-- A query that names none of its own arguments is a request and a look at the answer. -/
theorem query_eq (text : String) {parameters : Fields}
    (accepted : refuse "query" ["self", "query"] parameters = .ok ()) :
    c.query text parameters =
      c.request .post "Query" (c.queryRequest text parameters).payload >>=
        fun result => ofOutcome (rowsOf result) := by
  unfold query
  rw [accepted]
  refine congrArg (c.request .post "Query" _ >>= ·) (funext fun result => ?_)
  unfold rowsOf
  rw [ofOutcome_bind]
  refine congrArg (ofOutcome _ >>= ·) (funext fun rows => ?_)
  rw [ofOutcome_bind]
  rfl

/-- A query is one request, and its outcome is the rows in the answer. -/
theorem query_sends (text : String) {parameters : Fields}
    (accepted : refuse "query" ["self", "query"] parameters = .ok ()) :
    (c.query text parameters).Sends remote fun before outcome added =>
      added = [c.queryRequest text parameters] ∧
        outcome = c.queried remote before text parameters := by
  rw [c.query_eq text accepted]
  refine (c.request_sends _ _ _).bind_ofOutcome.mono ?_
  rintro before _ _ ⟨_, ⟨rfl, rfl⟩, rfl⟩
  exact ⟨rfl, rfl⟩

end Connection

/-! ### The first failure -/

/-- What an answer makes of a request, whichever it is. -/
def Request.outcomeOf (r : Request) (answer : Answer) : Outcome Value :=
  answer.received >>= fun response =>
    if faultStatus ≤ response.1 then
      .error (.rejected response.1 (faultMessage response.2) r.url)
    else bodyValue response.2

namespace Exchange

variable {α β : Type} {remote : Remote}

/-- A request that fails is the last one, and its fault is the outcome. -/
def Stops (remote : Remote) (before : List Request) (outcome : Outcome α)
    (added : List Request) : Prop :=
  ∀ (lead : List Request) (r : Request) (more : List Request) (fault : Fault),
    added = lead ++ r :: more →
    r.outcomeOf (remote.reply (before ++ lead ++ [r])).answer = .error fault →
    more = [] ∧ outcome = .error fault

theorem stops_ofOutcome (outcome : Outcome α) :
    (ofOutcome outcome).Sends remote (Stops remote) := by
  refine (sends_ofOutcome outcome).mono ?_
  rintro _ _ _ ⟨rfl, rfl⟩ lead r more fault split
  exact absurd split.symm (by simp)

theorem Sends.stops_bind {m : Exchange α} {f : α → Exchange β}
    (first : m.Sends remote (Stops remote)) (second : ∀ a, (f a).Sends remote (Stops remote)) :
    (m >>= f).Sends remote (Stops remote) := by
  refine (first.seq _ fun _ a _ _ => second a).mono ?_
  rintro before outcome _ (⟨fault, rfl, stops⟩ | ⟨a, sent, later, rfl, early, late⟩)
  · intro lead r more fault' split failed
    obtain ⟨last, ⟨⟩⟩ := stops lead r more fault' split failed
    exact ⟨last, rfl⟩
  · intro lead r more fault split failed
    rcases List.append_eq_append_iff.mp split with ⟨rest, rfl, rest_split⟩ | ⟨rest, rfl, rest_split⟩
    · refine late rest r more fault rest_split ?_
      rwa [← List.append_assoc] at failed
    · cases rest with
      | nil =>
          exact late [] r more fault rest_split.symm (by simpa using failed)
      | cons r' rest =>
          obtain ⟨rfl, rfl⟩ := List.cons.inj rest_split
          -- the failing request belongs to an exchange that has ended well
          obtain ⟨-, ⟨⟩⟩ := early lead r rest fault rfl failed

end Exchange

theorem Connection.request_stops (c : Connection) {remote : Remote} (method : Method)
    (path : String) (payload : Option Value) :
    (c.request method path payload).Sends remote (Exchange.Stops remote) := by
  refine (c.request_sends method path payload).mono ?_
  rintro before _ _ ⟨rfl, rfl⟩ lead r more fault split failed
  obtain ⟨rfl, h⟩ | ⟨_, _, ⟨⟩⟩ := List.singleton_eq_append_iff.mp split
  obtain ⟨rfl, rfl⟩ := List.cons.inj h
  exact ⟨rfl, by rwa [List.append_nil] at failed⟩

theorem Connection.query_stops (c : Connection) {remote : Remote} (text : String)
    {parameters : Fields} (accepted : refuse "query" ["self", "query"] parameters = .ok ()) :
    (c.query text parameters).Sends remote (Exchange.Stops remote) := by
  rw [c.query_eq text accepted]
  exact (c.request_stops _ _ _).stops_bind fun _ => Exchange.stops_ofOutcome _

/-! ### A server that answers from a list -/

/-- The server answers with some bodies, one after the other, and is lost after the last one; a
wait is followed for as many polls as there are bodies. -/
def Remote.answering (bodies : List String) : Remote where
  reply sent :=
    { answer := match bodies[sent.length - 1]? with
        | some body => .response 200 body
        | none => .failure "no further answer" }
  horizon := bodies.length

end NodeInventory
