import NodeInventory.Service.Service

/-!
# Calls to a service

In its life a service is started and stopped, asked for rows and told to add nodes, in any order.
Every session that it opens is kept count of, with whether it is still open.
-/

namespace NodeInventory

/-- A call to a service. -/
inductive Call where
  /-- Starting it, where `opens` says whether a session can be opened. -/
  | start (opens : SessionOptions → Outcome Unit)
  | stop
  | rows (subject : Subject) (f : Filter) (now : DateTime)
  | addNodes (now : DateTime) (addresses credential name : Value) (options : ReconcileOptions)

/-- A service between two calls. -/
structure Life where
  service : Service
  /-- The sessions that it has opened, in order. -/
  sessions : List SessionState := []
  /-- The place of the session that it holds. -/
  held : Option Nat := none
  trace : Trace := {}

namespace Life

/-- The sessions after the one that is held has been closed, if it is open. -/
def closing (l : Life) : List SessionState :=
  match l.service.session, l.held with
  | some .opened, some place => l.sessions.set place .closed
  | _, _ => l.sessions

/-- A service after a call. -/
def next (remote : Remote) (l : Life) : Call → Life
  | .start opens =>
      let started := l.service.start opens
      if started.opened.isSome then
        { l with
          service := started.service
          sessions := l.sessions ++ [.opened]
          held := some l.sessions.length }
      else { l with service := started.service }
  | .stop => { l with service := l.service.stop, sessions := l.closing, held := none }
  | .rows subject f now => { l with trace := (l.service.rows subject f now remote l.trace).2 }
  | .addNodes now addresses credential name options =>
      { l with
        trace := (l.service.addNodes now addresses credential name options remote l.trace).2 }

/-- A new service after some calls. -/
def after (remote : Remote) (config : Value) (calls : List Call) : Life :=
  calls.foldl (next remote) { service := { config := config } }

end Life

end NodeInventory
