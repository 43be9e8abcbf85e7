import IceTcp.Session

/-!
# Server

A server has listeners and the sessions of the clients that connected to them, all on one clock.
Clients are numbered in the order in which they connect. What happens to a server is a sequence of
steps, and each step answers with what happened in the sessions.

`run` of the source serves one listener, and a task of its own every session. Here all of them are
one state, and a step is what one of them meets.

Main results:

* `run_append`: a sequence of steps may be cut anywhere.
* `listeners_run`: what a server listens on never changes.
-/

namespace IceTcp

/-- The state of a server. -/
structure Server where
  /-- How each listener serves its connections. -/
  listeners : List Session.Settings
  /-- The time, in milliseconds. -/
  now : Nat
  /-- The session of each client, open or closed. -/
  sessions : List Session
  deriving DecidableEq, Repr

namespace Server

/-- What can happen to a server. -/
inductive Step where
  /-- A new client connects to the listener with this number. -/
  | connect (listener : Nat)
  | send (client : Nat) (bytes : Bytes)
  /-- The client ends its stream. -/
  | finish (client : Nat)
  /-- The connection of the client breaks. -/
  | reset (client : Nat)
  /-- Time passes. -/
  | wait (duration : Nat)
  deriving DecidableEq, Repr

/-- What a step answers. -/
inductive Answer where
  /-- What happened to which client. -/
  | trace (entries : List (Nat × Session.Entry))
  /-- The client has no open session. -/
  | notConnected
  /-- There is no such listener. -/
  | refused
  deriving DecidableEq, Repr

/-- The server that has just begun to listen. -/
def listening (listeners : List Session.Settings) : Server := ⟨listeners, 0, []⟩

/-- Lets something happen in the session of a client, if that is open. -/
def act (server : Server) (client : Nat) (action : Session → Session × List Session.Entry) :
    Server × Answer :=
  match server.sessions[client]? with
  | some session =>
    if session.isOpen then
      let (after, entries) := action session
      ({ server with sessions := server.sessions.set client after },
        .trace (entries.map fun entry => (client, entry)))
    else (server, .notConnected)
  | none => (server, .notConnected)

/-- One round of the loop of `run`: takes a connection. That none can be taken is no step: it ends
the server. -/
def connect (server : Server) (listener : Nat) : Server × Answer :=
  match server.listeners[listener]? with
  | some settings =>
    let (session, entries) := Session.start listener settings server.now
    ({ server with sessions := server.sessions ++ [session] },
      .trace (entries.map fun entry => (server.sessions.length, entry)))
  | none => (server, .refused)

/-- Lets time pass. Sessions that have been silent for too long close, in the order of their
clients. -/
def wait (server : Server) (duration : Nat) : Server × Answer :=
  let now := server.now + duration
  let expired := server.sessions.map (Session.expire now)
  ({ server with now, sessions := expired.map Prod.fst },
    .trace ((expired.zipIdx.map fun ((_, entries), client) =>
      entries.map fun entry => (client, entry)).flatten))

/-- Carries one step out. -/
def step (server : Server) : Step → Server × Answer
  | .connect listener => server.connect listener
  | .send client bytes => server.act client fun session => session.send server.now bytes
  | .finish client => server.act client fun session => session.close none
  | .reset client => server.act client fun session => session.close (some .reset)
  | .wait duration => server.wait duration

/-- Carries out steps in order. -/
def run (server : Server) : List Step → Server × List Answer
  | [] => (server, [])
  | step :: steps =>
    let (stepped, answer) := server.step step
    let (final, answers) := stepped.run steps
    (final, answer :: answers)

/-- A sequence of steps may be cut anywhere. -/
theorem run_append (server : Server) (first second : List Step) :
    server.run (first ++ second) =
      (((server.run first).1.run second).1,
        (server.run first).2 ++ ((server.run first).1.run second).2) := by
  induction first generalizing server with
  | nil => rfl
  | cons step steps ih => simp only [List.cons_append, run, ih]

theorem length_sessions_act (server : Server) (client : Nat)
    (action : Session → Session × List Session.Entry) :
    (server.act client action).1.sessions.length = server.sessions.length := by
  unfold act
  split
  · split
    · simp only [List.length_set]
    · rfl
  · rfl

theorem listeners_act (server : Server) (client : Nat)
    (action : Session → Session × List Session.Entry) :
    (server.act client action).1.listeners = server.listeners ∧
      (server.act client action).1.now = server.now := by
  unfold act
  split
  · split <;> exact ⟨rfl, rfl⟩
  · exact ⟨rfl, rfl⟩

theorem listeners_step (server : Server) (step : Step) :
    (server.step step).1.listeners = server.listeners := by
  cases step with
  | connect listener =>
    simp only [Server.step, connect]
    split <;> rfl
  | send client bytes => exact (listeners_act server client _).1
  | finish client => exact (listeners_act server client _).1
  | reset client => exact (listeners_act server client _).1
  | wait duration => rfl

/-- What a server listens on never changes. -/
theorem listeners_run (server : Server) (steps : List Step) :
    (server.run steps).1.listeners = server.listeners := by
  induction steps generalizing server with
  | nil => rfl
  | cons step steps ih => exact (ih _).trans (listeners_step server step)

end Server

end IceTcp
