import IceTcp.Config
import IceTcp.Host
import IceTcp.Log
import IceTcp.Net.Address
import IceTcp.Server

/-!
# A server from its start to its end

A server binds the interfaces of its configuration in order and gives up at the first one that its
host refuses. Without interfaces it is done at once. It serves until taking a connection fails at
one of its listeners; then all of it ends. Listeners and most of what happens in a session leave log
lines.

The definitions are models of `start_server` of the source, of the end of `run`, and of the log
lines of both and of `session`.

Main results:

* `Host.bound_start_isPrefix`, `Host.refused_start_iff`: interfaces are bound in order, and all of
  them unless one is refused.
* `Host.eq_serving_of_start`: a server that has been started is the one of its configuration.
* `Service.run_of_acceptFailed`: a server does what it would do until the first listener stops, and
  from then on nothing.
-/

namespace IceTcp

/-! ## Starting -/

/-- How connections to an interface are served. -/
def Config.settings (config : Config) (interface : Interface) : Session.Settings :=
  ⟨interface.idleTimeout, config.server.maxBufferSize, config.policy⟩

/-- What a server listens on. -/
def Config.endpoints (config : Config) : List Endpoint :=
  config.server.interfaces.map Interface.listen

/-- The server of a configuration once all its interfaces are bound. -/
def Config.serving (config : Config) : Server :=
  .listening (config.server.interfaces.map config.settings)

namespace Server

/-- How the start of a server ends. -/
inductive Outcome where
  /-- There was nothing to listen on. -/
  | finished
  /-- An interface was refused. -/
  | refused (error : SystemError)
  | serving (server : Server)
  deriving DecidableEq, Repr

/-- The start of a server. -/
structure Start where
  /-- What is listened on, in order. -/
  bound : List Endpoint
  outcome : Outcome
  deriving DecidableEq, Repr

end Server

/-- What the start comes to once interfaces have been bound up to a refusal, if there was one. -/
def Config.outcome (config : Config) (refusal : Option SystemError) : Server.Outcome :=
  match refusal with
  | some error => .refused error
  | none => if config.server.interfaces.isEmpty then .finished else .serving config.serving

theorem Config.exists_outcome_eq_refused_iff (config : Config) (refusal : Option SystemError) :
    (∃ error, config.outcome refusal = .refused error) ↔ refusal ≠ none := by
  unfold Config.outcome
  cases refusal with
  | some error => exact iff_of_true ⟨error, rfl⟩ nofun
  | none =>
    refine iff_of_false ?_ (fun h => h rfl)
    rintro ⟨error, h⟩
    dsimp only at h
    split at h <;> cases h

/-- Model of `start_server`, up to the point where all listeners run: starts the server of a
configuration on any machine that can listen. -/
def Config.start {m : Type → Type} [Monad m] {β : Type} (config : Config)
    (listen : Interface → m (Except SystemError β)) : m (List β × Server.Outcome) := do
  let (bound, refusal) ← bindInOrder listen config.server.interfaces
  pure (bound, config.outcome refusal)

namespace Host

/-- Starts the server of a configuration on a host on which nothing is listened on. -/
def start (host : Host) (config : Config) : Server.Start :=
  let ((bound, outcome), _) := (config.start fun interface => host.listen interface.listen).run []
  ⟨bound, outcome⟩

theorem start_eq (host : Host) (config : Config) :
    host.start config =
      let listened := (host.listenInOrder Interface.listen config.server.interfaces []).1
      ⟨listened.1, config.outcome listened.2⟩ := rfl

/-- Interfaces are bound in order. -/
theorem bound_start_isPrefix (host : Host) (config : Config) :
    (host.start config).bound <+: config.endpoints :=
  host.bound_listenInOrder_isPrefix Interface.listen config.server.interfaces []

/-- A start is refused exactly when not all interfaces have been bound. -/
theorem refused_start_iff (host : Host) (config : Config) :
    (∃ error, (host.start config).outcome = .refused error) ↔
      (host.start config).bound ≠ config.endpoints := by
  have hbound := host.listenInOrder_eq_none_iff Interface.listen config.server.interfaces []
  rw [start_eq]
  exact (config.exists_outcome_eq_refused_iff _).trans (not_congr hbound)

end Host

/-! ## Stopping -/

/-- The end of `start_server`: as soon as the `run` of one listener is over, those of the others and
all sessions are given up. -/
inductive Service where
  | serving (server : Server)
  /-- A listener has stopped, and all else with it. -/
  | ended
  deriving DecidableEq, Repr

namespace Service

/-- What can happen while a server is up. -/
inductive Event where
  | step (step : Server.Step)
  /-- Taking a connection fails at the listener with this number. -/
  | acceptFailed (listener : Nat)
  deriving DecidableEq, Repr

/-- What comes of an event. -/
inductive Reply where
  | answer (answer : Server.Answer)
  /-- The listener with this number has stopped. -/
  | stopped (listener : Nat)
  /-- There is no server any more. -/
  | gone
  deriving DecidableEq, Repr

/-- Lets something happen. -/
def next : Service → Event → Service × Reply
  | .serving server, .step step =>
    let (stepped, answer) := server.step step
    (.serving stepped, .answer answer)
  | .serving server, .acceptFailed listener =>
    if listener < server.listeners.length then (.ended, .stopped listener)
    else (.serving server, .answer .refused)
  | .ended, _ => (.ended, .gone)

/-- Lets events happen in order. -/
def run (service : Service) : List Event → Service × List Reply
  | [] => (service, [])
  | event :: events =>
    let (after, reply) := service.next event
    let (final, replies) := after.run events
    (final, reply :: replies)

theorem run_append (service : Service) (first second : List Event) :
    service.run (first ++ second) =
      (((service.run first).1.run second).1,
        (service.run first).2 ++ ((service.run first).1.run second).2) := by
  induction first generalizing service with
  | nil => rfl
  | cons event events ih => simp only [List.cons_append, run, ih]

theorem run_steps (server : Server) (steps : List Server.Step) :
    (Service.serving server).run (steps.map .step) =
      (.serving (server.run steps).1, (server.run steps).2.map .answer) := by
  induction steps generalizing server with
  | nil => rfl
  | cons step steps ih => simp only [List.map_cons, run, next, Server.run, ih]

theorem run_ended (events : List Event) :
    Service.ended.run events = (.ended, events.map fun _ => .gone) := by
  induction events with
  | nil => rfl
  | cons event events ih => simp only [run, next, ih, List.map_cons]

/-- A server does what it would do until taking a connection fails at one of its listeners. From
then on there is nothing that answers, neither a listener nor a session. -/
theorem run_of_acceptFailed (server : Server) (steps : List Server.Step) {listener : Nat}
    (h : listener < server.listeners.length) (later : List Event) :
    (Service.serving server).run (steps.map .step ++ .acceptFailed listener :: later) =
      (.ended, (server.run steps).2.map .answer ++
        .stopped listener :: later.map fun _ => .gone) := by
  have hstopped : (Service.serving (server.run steps).1).next (.acceptFailed listener) =
      (.ended, .stopped listener) := by
    rw [next, Server.listeners_run, if_pos h]
  rw [run_append, run_steps]
  simp only [run, hstopped, run_ended]

end Service

/-! ## Log lines

A line names clients and listeners by their addresses, which only the network knows; so the names
are given from outside.
-/

/-- How clients and listeners are called in log lines. -/
structure Naming where
  client : Nat → String
  listener : Nat → String

/-- The log line of a record of the demultiplexer. -/
def Record.logLine (record : Record) : LogLine := ⟨record.level, .demux, record.text⟩

namespace Session

/-- The log line of a cause for which the session of the client closes. -/
def Cause.logLine (client : String) : Cause → LogLine
  | .idle => ⟨.info, .server, s!"tcp socket idle timeout: addr={client}"⟩
  | .reset =>
    ⟨.warn, .server,
      s!"tcp socket read failed: addr={client}, err={SystemError.connectionReset.message}"⟩
  | .malformed framing =>
    ⟨.warn, .server,
      s!"tcp stream demultiplex failed: addr={client}, connection_type={framing.logName}"⟩
  | .overfull size limit =>
    ⟨.warn, .server,
      s!"tcp buffered size too large: size={size}, max={limit}, addr={client}"⟩

/-- The log line of what happens in the session of the client, if it leaves one. -/
def Entry.logLine? (naming : Naming) (client : Nat) : Entry → Option LogLine
  | .accepted listener =>
    some ⟨.info, .server,
      s!"tcp socket accept: addr={naming.client client}, " ++
        s!"interface=Some({naming.listener listener})"⟩
  | .recorded record => some record.logLine
  | .broken cause => some (cause.logLine (naming.client client))
  | .disconnected =>
    some ⟨.info, .server, s!"tcp socket disconnect: addr={naming.client client}"⟩
  | .connected | .received _ | .closed => none

end Session

/-- The log line of a connection that cannot be told to send at once. It is served all the same. -/
def Session.noDelayLine (client : String) (error : SystemError) : LogLine :=
  ⟨.error, .server, s!"tcp socket set nodelay failed!: addr={client}, err={error.message}"⟩

/-! ### Listeners -/

/-- The log line of a listener that has begun to listen. -/
def Endpoint.listeningLine (naming : Naming) (listener : Nat) (endpoint : Endpoint) : LogLine :=
  ⟨.info, .program,
    s!"ice-tcp demux listening: listen={endpoint.text}, local_addr={naming.listener listener}"⟩

/-- The log lines of the listeners. -/
def listeningLines (naming : Naming) (bound : List Endpoint) : List LogLine :=
  bound.zipIdx.map fun (endpoint, listener) => endpoint.listeningLine naming listener

/-- The log line of a listener that has stopped. -/
def Server.stoppedLine (naming : Naming) (listener : Nat) : LogLine :=
  ⟨.error, .server, s!"tcp server close: interface=Some({naming.listener listener})"⟩

end IceTcp
