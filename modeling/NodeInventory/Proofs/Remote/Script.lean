import NodeInventory.Proofs.Remote.Sending

/-!
# Exchanges that only ask

`Script p m` says that the exchange `m` is put together from requests that are `p`, from outcomes
and from attempts, so that nothing but the answers decides how it runs.  Three facts follow by
induction on how it is put together, whatever it does with the answers: it sends nothing but what
is `p` (`Script.sendsOnly`); if the server's answer to each `p` depends on the request alone, it
always sends the same and ends the same (`Script.uniform`); and what the server would have answered
to requests that it does not send has no effect on it (`Script.unmoved`).
-/

namespace NodeInventory

/-- The answer to each request that is `p` depends on the request alone. -/
def Remote.Answers (remote : Remote) (p : Request → Prop) (answer : Request → Answer) : Prop :=
  ∀ (before : List Request) (r : Request), p r →
    (remote.reply (before ++ [r])).answer = answer r

/-- Two servers differ at most in the answer to the last one of some requests. -/
structure Remote.SameBut (asked : List Request) (remote remote' : Remote) : Prop where
  reply : ∀ sent, sent ≠ asked → remote'.reply sent = remote.reply sent
  took : (remote'.reply asked).took = (remote.reply asked).took
  oversleep : remote'.oversleep = remote.oversleep
  horizon : remote'.horizon = remote.horizon

/-- A trace without what the listeners were told. -/
def Trace.mute (trace : Trace) : Trace := { trace with notices := [] }

theorem Trace.eq_of_mute {trace trace' : Trace} (h : trace'.mute = trace.mute) :
    ∃ told, trace' = { trace with notices := told } := by
  cases trace
  cases trace'
  cases h
  exact ⟨_, rfl⟩

theorem Trace.sent_eq_of_mute {trace trace' : Trace} (h : trace'.mute = trace.mute) :
    trace'.sent = trace.sent := by
  obtain ⟨_, rfl⟩ := Trace.eq_of_mute h
  rfl

/-- A trace after one more request. -/
def Trace.ask (remote : Remote) (request : Request) (trace : Trace) : Trace :=
  { trace with
    sent := trace.sent ++ [request]
    clock := trace.clock + (remote.reply (trace.sent ++ [request])).took }

theorem Trace.ask_mute {remote remote' : Remote} {request : Request} {trace trace' : Trace}
    (quiet : trace'.mute = trace.mute)
    (took : (remote'.reply (trace.sent ++ [request])).took =
      (remote.reply (trace.sent ++ [request])).took) :
    (trace'.ask remote' request).mute = (trace.ask remote request).mute := by
  obtain ⟨told, rfl⟩ := Trace.eq_of_mute quiet
  unfold ask mute
  dsimp only
  rw [took]

namespace Exchange

theorem send_run {remote : Remote} (request : Request) (trace : Trace) :
    send request remote trace =
      ((remote.reply (trace.sent ++ [request])).answer.received, trace.ask remote request) := by
  unfold send Trace.ask
  dsimp only
  cases (remote.reply (trace.sent ++ [request])).answer <;> rfl

theorem bind_ofOutcome_run {α β : Type} {remote : Remote} (m : Exchange α) (f : α → Outcome β)
    (trace : Trace) :
    (m >>= fun a => ofOutcome (f a)) remote trace =
      ((m remote trace).1 >>= f, (m remote trace).2) := by
  rw [bind_run]
  rcases m remote trace with ⟨_ | _, after⟩ <;> rfl

theorem attempt_run {α : Type} {remote : Remote} (m : Exchange α) (trace : Trace) :
    m.attempt remote trace = (.ok (m remote trace).1, (m remote trace).2) := rfl

/-- An exchange that is put together from requests that are `p`. -/
inductive Script (p : Request → Prop) : {α : Type} → Exchange α → Prop
  | outcome {α : Type} (outcome : Outcome α) : Script p (ofOutcome outcome)
  | send {request : Request} : p request → Script p (send request)
  | bind {α β : Type} {m : Exchange α} {f : α → Exchange β} :
      Script p m → (∀ a, Script p (f a)) → Script p (m >>= f)
  | attempt {α : Type} {m : Exchange α} : Script p m → Script p m.attempt

namespace Script

variable {α β : Type} {p : Request → Prop} {m : Exchange α}

theorem pure (a : α) : Script p (Pure.pure a : Exchange α) := .outcome _

theorem fail (fault : Fault) : Script p (fail fault : Exchange α) := .outcome _

theorem mono {q : Request → Prop} (h : Script p m) (weaker : ∀ r, p r → q r) : Script q m := by
  induction h with
  | outcome outcome => exact .outcome outcome
  | send asks => exact .send (weaker _ asks)
  | bind _ _ first second => exact .bind first second
  | attempt _ ih => exact .attempt ih

theorem mapM {f : β → Exchange α} (h : ∀ b, Script p (f b)) (bs : List β) :
    Script p (bs.mapM f) := by
  induction bs with
  | nil => exact pure []
  | cons b rest ih =>
      rw [List.mapM_cons]
      exact (h b).bind fun _ => ih.bind fun _ => pure _

theorem sendsOnly (h : Script p m) : SendsOnly p m := by
  induction h with
  | outcome outcome => exact sendsOnly_ofOutcome outcome
  | send asks =>
      intro remote
      refine (sends_send _).mono ?_
      rintro _ _ _ ⟨rfl, -⟩
      simpa using asks
  | bind _ _ first second => exact first.bind second
  | attempt _ ih => exact ih.attempt

/-- Answers that depend on the requests alone decide what a script sends and how it ends,
whatever was sent before it. -/
theorem uniform (h : Script p m) (answer : Request → Answer) :
    ∃ (outcome : Outcome α) (added : List Request), ∀ remote : Remote, remote.Answers p answer →
      m.Sends remote fun _ o sent => o = outcome ∧ sent = added := by
  induction h with
  | outcome outcome => exact ⟨outcome, [], fun remote _ => sends_ofOutcome outcome⟩
  | @send request asks =>
      refine ⟨(answer request).received, [request], fun remote answers => ?_⟩
      refine (sends_send request).mono ?_
      rintro before _ _ ⟨rfl, rfl⟩
      exact ⟨by rw [answers before request asks], rfl⟩
  | bind _ _ first second =>
      obtain ⟨outcome, lead, runs⟩ := first
      cases outcome with
      | error fault =>
          refine ⟨.error fault, lead, fun remote answers => ?_⟩
          refine ((runs remote answers).seq (fun _ _ _ _ => False) ?_).mono ?_
          · rintro _ _ _ ⟨⟨⟩, -⟩
          · rintro _ _ _ (⟨_, rfl, ⟨⟩, rfl⟩ | ⟨_, _, _, _, ⟨⟨⟩, -⟩, -⟩)
            exact ⟨rfl, rfl⟩
      | ok a =>
          obtain ⟨outcome, more, runs'⟩ := second a
          refine ⟨outcome, lead ++ more, fun remote answers => ?_⟩
          refine ((runs remote answers).seq
            (fun _ _ o sent => o = outcome ∧ sent = more) ?_).mono ?_
          · rintro _ _ _ ⟨⟨⟩, -⟩
            exact runs' remote answers
          · rintro _ _ _ (⟨_, _, ⟨⟩, _⟩ | ⟨_, _, _, rfl, ⟨-, rfl⟩, ended, rfl⟩)
            exact ⟨ended, rfl⟩
  | attempt _ ih =>
      obtain ⟨outcome, added, runs⟩ := ih
      refine ⟨.ok outcome, added, fun remote answers => ?_⟩
      refine (runs remote answers).attempt.mono ?_
      rintro _ _ _ ⟨_, rfl, rfl, rfl⟩
      exact ⟨rfl, rfl⟩

/-- A script takes back nothing that was sent. -/
theorem length_le (h : Script p m) {remote : Remote} {trace after : Trace} {outcome : Outcome α}
    (run : m remote trace = (outcome, after)) : trace.sent.length ≤ after.sent.length := by
  obtain ⟨added, sent, -⟩ := h.sendsOnly remote trace
  rw [run] at sent
  exact sent ▸ (List.prefix_append trace.sent added).length_le

/-- What the server would answer to requests that a script does not send has no effect on it, and
neither has what the listeners were told before. -/
theorem unmoved (h : Script p m) {asked : List Request} {remote remote' : Remote}
    (same : Remote.SameBut asked remote remote') :
    ∀ {trace trace' after : Trace} {outcome : Outcome α}, trace'.mute = trace.mute →
      m remote trace = (outcome, after) →
      asked.length ≤ trace.sent.length ∨ after.sent.length < asked.length →
      ∃ after', m remote' trace' = (outcome, after') ∧ after'.mute = after.mute := by
  induction h with
  | outcome o =>
      intro trace trace' after outcome quiet run _
      cases run
      exact ⟨trace', rfl, quiet⟩
  | @send request _ =>
      intro trace trace' after outcome quiet run unasked
      rw [send_run] at run
      cases run
      have other : trace.sent ++ [request] ≠ asked := by
        intro asks
        have length := congrArg List.length asks
        simp only [Trace.ask, List.length_append, List.length_singleton] at length unasked
        omega
      have kept := same.reply _ other
      refine ⟨trace'.ask remote' request, ?_, Trace.ask_mute quiet (congrArg Reply.took kept)⟩
      rw [send_run, Trace.sent_eq_of_mute quiet, kept]
  | @bind _ _ m f first second ih ih' =>
      intro trace trace' after outcome quiet run unasked
      cases begun : m remote trace with
      | mk o mid =>
          rw [bind_run, begun] at run
          cases o with
          | error fault =>
              cases run
              obtain ⟨mid', begun', quiet'⟩ := ih quiet begun unasked
              refine ⟨mid', ?_, quiet'⟩
              rw [bind_run, begun']
          | ok a =>
              have early := first.length_le begun
              have late := (second a).length_le run
              obtain ⟨mid', begun', quiet'⟩ := ih quiet begun (by omega)
              obtain ⟨after', run', quiet'⟩ := ih' a quiet' run (by omega)
              refine ⟨after', ?_, quiet'⟩
              rw [bind_run, begun']
              exact run'
  | @attempt _ m _ ih =>
      intro trace trace' after outcome quiet run unasked
      rw [attempt_run] at run
      cases run
      obtain ⟨after', run', quiet'⟩ := ih quiet rfl unasked
      refine ⟨after', ?_, quiet'⟩
      rw [attempt_run, run']

end Script

end Exchange

/-! ### The server's operations -/

namespace Connection

open Exchange

variable (c : Connection) {p : Request → Prop}

theorem query_run {remote : Remote} (text : String) {parameters : Fields}
    (accepted : refuse "query" ["self", "query"] parameters = .ok ()) (trace : Trace) :
    c.query text parameters remote trace =
      (c.queried remote trace.sent text parameters,
        trace.ask remote (c.queryRequest text parameters)) := by
  rw [c.query_eq text accepted, bind_ofOutcome_run, c.request_eq, bind_ofOutcome_run, send_run]
  rfl

theorem request_script {method : Method} {path : String} {payload : Option Value}
    (h : p ⟨method, c.url path, payload⟩) : Script p (c.request method path payload) := by
  rw [request_eq]
  exact (Script.send h).bind fun _ => .outcome _

theorem query_script {text : String} {parameters : Fields}
    (h : p (c.queryRequest text parameters)) : Script p (c.query text parameters) := by
  unfold query
  refine (Script.outcome _).bind fun _ => ?_
  refine (c.request_script h).bind fun result => ?_
  refine (Script.outcome _).bind fun rows => ?_
  exact (Script.outcome _).bind fun _ => .pure _

theorem update_script {uri : String} {properties : Fields}
    (h : p ⟨.post, c.url uri, some (.object properties)⟩) : Script p (c.update uri properties) := by
  unfold update
  refine (Script.outcome _).bind fun _ => ?_
  exact (c.request_script h).bind fun _ => .pure _

theorem updateFrom_script {uri : String} (properties : Value)
    (h : ∀ fields, p ⟨.post, c.url uri, some (.object fields)⟩) :
    Script p (c.updateFrom uri properties) := by
  unfold updateFrom
  split
  · exact c.update_script (h _)
  · exact .fail _

theorem delete_script {uri : String} (h : p ⟨.delete, c.url uri, none⟩) :
    Script p (c.delete uri) := by
  unfold delete
  exact (c.request_script h).bind fun _ => .pure _

end Connection

end NodeInventory
