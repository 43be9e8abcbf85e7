import IceTcp.Demux

/-!
# Sessions

A session serves one connection. It reads what arrives, in pieces of bounded size, hands each piece
to a demultiplexer and delivers the packets; it closes when the client is silent for too long, when
the stream ends or breaks, and when too many bytes stay unresolved. Time is given from outside, in
milliseconds.

The definitions are a model of `session` of the source, cut at the places where it waits: what it
does before its loop, in one round for each outcome of a read, and behind the loop.

Main results:

* `receive_append`: pieces may be received in two goes.
* `receive_of_closed`: a closed session reads nothing.
* `close_isOpen`, `expire_isOpen`: what closes a session.
-/

namespace IceTcp

namespace Session

/-- Model of `ListenOptions`: how the connections of a listener are served. -/
structure Settings where
  /-- The seconds without a byte after which a session closes. -/
  idleTimeout : Nat
  /-- The number of unresolved bytes beyond which a session closes. -/
  maxBufferSize : Nat
  policy : Policy
  deriving DecidableEq, Repr

/-- Why a session closes although the client has not ended the stream. -/
inductive Cause where
  /-- Nothing has arrived for too long. -/
  | idle
  /-- The connection was reset. -/
  | reset
  /-- The stream, of this framing, is malformed. -/
  | malformed (framing : Framing)
  /-- More bytes stay unresolved than the limit allows. -/
  | overfull (size limit : Nat)
  deriving DecidableEq, Repr

/-- What happens in a session: what its observer is told, by `on_connected`, `on_packet` and
`on_closed`, and what is logged. -/
inductive Entry where
  /-- The listener with this number took the connection. -/
  | accepted (listener : Nat)
  | connected
  | recorded (record : Record)
  | received (packet : Packet)
  | broken (cause : Cause)
  | closed
  | disconnected
  deriving DecidableEq, Repr

/-- The number of bytes that one read takes at most. -/
def readSize : Nat := 4096

end Session

/-- The state of a session. -/
structure Session where
  settings : Session.Settings
  demux : Demux
  /-- When the last byte arrived; before that, when the connection was made. -/
  lastActivity : Nat
  isOpen : Bool
  deriving DecidableEq, Repr

namespace Session

/-- The end of `session`, behind its loop: closes the session, for a cause if there is one. -/
def close (session : Session) (cause : Option Cause) : Session × List Entry :=
  ({ session with isOpen := false }, (cause.map Entry.broken).toList ++ [.closed, .disconnected])

@[simp] theorem close_isOpen (session : Session) (cause : Option Cause) :
    (session.close cause).1.isOpen = false := rfl

/-! ## Time -/

/-- When the session will have been silent for too long. -/
def deadline (session : Session) : Nat := session.lastActivity + session.settings.idleTimeout * 1000

/-- The timeout around the read in `session`: closes an open session that has been silent for too
long. -/
def expire (now : Nat) (session : Session) : Session × List Entry :=
  if session.isOpen ∧ session.deadline ≤ now then session.close (some .idle) else (session, [])

/-- A session is open afterwards exactly when it was and its deadline lies ahead. -/
theorem expire_isOpen (now : Nat) (session : Session) :
    (session.expire now).1.isOpen = true ↔ session.isOpen = true ∧ now < session.deadline := by
  unfold expire
  split
  · rename_i h
    simp only [close_isOpen, Bool.false_eq_true, false_iff, not_and, Nat.not_lt]
    exact fun _ => h.2
  · rename_i h
    constructor
    · intro hopen
      exact ⟨hopen, Nat.not_le.mp fun hle => h ⟨hopen, hle⟩⟩
    · exact fun hopen => hopen.1

/-- The beginning of `session`: the session of a connection that a listener has just taken. Without
any patience it closes at once. -/
def start (listener : Nat) (settings : Settings) (now : Nat) : Session × List Entry :=
  let (session, entries) := expire now ⟨settings, .withPolicy settings.policy, now, true⟩
  (session, .accepted listener :: .connected :: entries)

/-! ## Bytes -/

/-- What the session cannot go on with. -/
def fault? (session : Session) : Option Cause :=
  if session.demux.failed then some (.malformed session.demux.framing)
  else if session.settings.maxBufferSize < session.demux.buffer.length then
    some (.overfull session.demux.buffer.length session.settings.maxBufferSize)
  else none

/-- One round of the loop of `session`: takes the bytes of one read. The packets that they complete
are delivered, also those in front of something malformed; after that the session closes if it
cannot go on. -/
def read (now : Nat) (session : Session) (bytes : Bytes) : Session × List Entry :=
  let (appended, records) := session.demux.append bytes
  let (packets, drained) := appended.popAll
  let active := { session with demux := drained, lastActivity := now }
  let entries := records.map Entry.recorded ++ packets.map Entry.received
  match active.fault? with
  | some cause =>
    let (closed, last) := active.close (some cause)
    (closed, entries ++ last)
  | none => (active, entries)

/-- Reads pieces one after the other, as long as the session is open. -/
def receive (now : Nat) (session : Session) : List Bytes → Session × List Entry
  | [] => (session, [])
  | piece :: pieces =>
    if session.isOpen then
      let (after, entries) := session.read now piece
      let (final, more) := after.receive now pieces
      (final, entries ++ more)
    else (session, [])

/-- A closed session reads nothing. -/
theorem receive_of_closed {session : Session} (h : session.isOpen = false) (now : Nat)
    (pieces : List Bytes) : session.receive now pieces = (session, []) := by
  cases pieces <;> simp [receive, h]

/-- Pieces may be received in two goes. -/
theorem receive_append (now : Nat) (session : Session) (first second : List Bytes) :
    session.receive now (first ++ second) =
      (((session.receive now first).1.receive now second).1,
        (session.receive now first).2 ++ ((session.receive now first).1.receive now second).2) := by
  induction first generalizing session with
  | nil => rfl
  | cons piece pieces ih =>
    by_cases hopen : session.isOpen
    · simp only [List.cons_append, receive, hopen, if_true, ih, List.append_assoc]
    · have hclosed : session.isOpen = false := by simpa using hopen
      simp only [receive_of_closed hclosed, List.append_nil]

/-- What a client sends at once arrives in reads of bounded size. -/
def send (now : Nat) (session : Session) (bytes : Bytes) : Session × List Entry :=
  session.receive now (bytes.chunks readSize)

end Session

end IceTcp
