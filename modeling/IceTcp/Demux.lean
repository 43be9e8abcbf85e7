import IceTcp.Framing
import IceTcp.Framing.Cut
import IceTcp.Log
import IceTcp.Text.Digits

/-!
# Demultiplexer

A demultiplexer holds the bytes of one stream that are not yet resolved into packets, and the
packets that wait to be taken. Bytes go in by `append`: the framing is decided once the bytes allow
it, and then every complete message moves to the queue. A stream that turns out malformed has
failed, and a failed demultiplexer takes no more bytes. Packets go out by `pop`, one at a time.

A history is a sequence of operations on one demultiplexer: bytes are appended and packets are
taken, in any order.

The definitions are models of `IceTcpDemultiplexer` of the source: `append`, `parse` and
`detect_connection_type`, the loops of `parse`, and `pop_packet`. What the source logs on the way is
part of what an operation gives.

Main results:

* `Demux.append_of_failed`: after a failure nothing changes and nothing is recorded.
* `Demux.append_of_undecided`, `Demux.append_of_decided`: the two ways that an append goes.
* `Demux.queue_append`, `Demux.queue_pop`: packets join the queue at its end and leave it at its
  front.
* `Demux.append_eq_append_emptied`: nothing else about an append depends on the queue.
* `Demux.popAll_eq`: taking packets one by one takes the whole queue.
* `Demux.run_append`: a history may be cut anywhere.
-/

namespace IceTcp

/-! ## Log records

A demultiplexer records how the framing was decided, every frame that it cuts off, and what makes
it give up. A record is a value; `level` and `text` say how it is shown.
-/

/-- A log record of a demultiplexer. -/
inductive Record where
  /-- The first bytes showed the framing. -/
  | recognized (evidence : Evidence)
  /-- They did not, and the stream is taken to be framed. -/
  | assumedDirect (buffered : Nat)
  /-- They did not, and the stream is taken to be bare. -/
  | assumedRelay (buffered : Nat)
  /-- They did not, and the stream is taken to be broken. -/
  | undetected (buffered : Nat)
  /-- A frame was cut off. -/
  | frame (length : Nat) (kind : MessageKind)
  /-- The buffer starts with something malformed. -/
  | fault (fault : Fault)
  deriving DecidableEq, Repr

/-- What a fault is called in log lines. -/
def Fault.text : Fault → String
  | .frameLength length => s!"rfc4571: invalid frame length: length={length}"
  | .firstByte first => s!"turn relay: unexpected packet type: first_byte=0x{Hex.octet first}"
  | .stunHeader => "turn relay: invalid stun message header"
  | .channelDataHeader => "turn relay: invalid channel data header"

/-- What an evidence is called in log lines. -/
def Evidence.text : Evidence → String
  | .frame => "detected ice-tcp direct connection (rfc4571 framing)"
  | .stun => "detected turn relay connection (raw stun)"
  | .channelData => "detected turn relay connection (channel data)"

namespace Record

def level : Record → LogLevel
  | .recognized _ | .frame _ _ => .debug
  | .assumedDirect _ | .assumedRelay _ => .warn
  | .undetected _ | .fault _ => .error

def text : Record → String
  | .recognized evidence => evidence.text
  | .assumedDirect buffered =>
    "could not detect tcp connection type, assuming ice-tcp direct (rfc4571): " ++
      s!"buffered={buffered}"
  | .assumedRelay buffered =>
    s!"could not detect tcp connection type, assuming turn relay: buffered={buffered}"
  | .undetected buffered => s!"could not detect tcp connection type: buffered={buffered}"
  | .frame length kind => s!"rfc4571: extracted frame: length={length}, type={kind.name}"
  | .fault cause => cause.text

end Record

/-! ## Deciding and draining -/

/-- Model of `IceTcpDemultiplexer`: the state of the demultiplexer of one stream. -/
structure Demux where
  policy : Policy
  framing : Framing
  /-- The bytes received and not yet resolved into packets. -/
  buffer : Bytes
  /-- The packets that wait to be taken, in stream order. -/
  queue : List Packet
  /-- Whether the stream can no longer be cut into messages. -/
  failed : Bool
  deriving DecidableEq, Repr

/-- What an undecided stream turns out to be. -/
inductive Decision where
  /-- More bytes have to arrive. -/
  | wait
  /-- The framing is decided, and the record says how. -/
  | framed (framing : Framing) (record : Record)
  /-- The framing is not known, and the policy gives the stream up. -/
  | reject
  deriving DecidableEq, Repr

/-- The first part of `parse`, with its fallbacks: decides on the framing of the bytes that have
arrived. -/
def Policy.decision (policy : Policy) (buffer : Bytes) : Decision :=
  match recognize buffer with
  | some evidence => .framed evidence.framing (.recognized evidence)
  | none =>
    if buffer.length < policy.threshold then .wait
    else
      match policy.fallback with
      | .direct => .framed .direct (.assumedDirect buffer.length)
      | .relay => .framed .relay (.assumedRelay buffer.length)
      | .reject => .reject

/-- What one attempt to cut a message off the buffer records: a frame, with the length that its
header announces, or what is malformed. A bare message leaves nothing. -/
def Cut.records (framing : Framing) (buffer : Bytes) : Cut → List Record
  | .packet message _ =>
    match framing, buffer with
    | .direct, high :: low :: _ => [.frame (be16 high low) message.kind]
    | _, _ => []
  | .wait => []
  | .malformed fault => [.fault fault]

/-- What cutting off every message that the buffer holds records, attempt by attempt. -/
def Framing.drainRecords (framing : Framing) (buffer : Bytes) : List Record :=
  match _h : framing.cut buffer with
  | .packet packet rest =>
    Cut.records framing buffer (.packet packet rest) ++ framing.drainRecords rest
  | .wait => Cut.records framing buffer .wait
  | .malformed fault => Cut.records framing buffer (.malformed fault)
termination_by buffer.length
decreasing_by exact Framing.length_rest_lt_of_cut (by assumption)

theorem Framing.drainRecords_of_packet {framing : Framing} {buffer rest : Bytes} {packet : Packet}
    (h : framing.cut buffer = .packet packet rest) :
    framing.drainRecords buffer =
      Cut.records framing buffer (.packet packet rest) ++ framing.drainRecords rest := by
  rw [Framing.drainRecords]
  split <;> simp_all

theorem Framing.drainRecords_of_wait {framing : Framing} {buffer : Bytes}
    (h : framing.cut buffer = .wait) : framing.drainRecords buffer = [] := by
  rw [Framing.drainRecords]
  split <;> simp_all [Cut.records]

theorem Framing.drainRecords_of_malformed {framing : Framing} {buffer : Bytes} {fault : Fault}
    (h : framing.cut buffer = .malformed fault) : framing.drainRecords buffer = [.fault fault] := by
  rw [Framing.drainRecords]
  split <;> simp_all [Cut.records]

namespace Demux

/-- Model of `with_policy`: the demultiplexer of a stream of which nothing has arrived. -/
def withPolicy (policy : Policy) : Demux := ⟨policy, .undecided, [], [], false⟩

/-- Model of `with_connection_type`: the demultiplexer of a stream whose framing is known from the
start. -/
def withFraming (framing : Framing) : Demux := ⟨.standard, framing, [], [], false⟩

instance : Inhabited Demux := ⟨withPolicy .standard⟩

/-! ### Bytes in -/

/-- The loops of `parse`: cuts every complete message off the buffer. -/
def extract (demux : Demux) : Demux × List Record :=
  let drained := demux.framing.drain demux.buffer
  ({ demux with
      buffer := drained.rest
      queue := demux.queue ++ drained.packets
      failed := drained.fault.isSome },
    demux.framing.drainRecords demux.buffer)

/-- Model of `parse`: decides on the framing, if that is still open, and cuts off what the buffer
holds. -/
def parse (demux : Demux) : Demux × List Record :=
  match demux.framing with
  | .undecided =>
    match demux.policy.decision demux.buffer with
    | .wait => (demux, [])
    | .framed framing record =>
      let (extracted, records) := { demux with framing }.extract
      (extracted, record :: records)
    | .reject => ({ demux with failed := true }, [.undetected demux.buffer.length])
  | .relay | .direct => demux.extract

/-- Model of `append`: takes bytes of the stream. Afterwards `failed` says whether the stream has
turned out malformed; then and later no bytes are taken any more. -/
def append (demux : Demux) (bytes : Bytes) : Demux × List Record :=
  if demux.failed then (demux, []) else { demux with buffer := demux.buffer ++ bytes }.parse

@[simp] theorem append_of_failed {demux : Demux} (h : demux.failed = true) (bytes : Bytes) :
    demux.append bytes = (demux, []) := by
  simp [append, h]

/-- On an open stream of known framing an append cuts off what the buffer holds. -/
theorem append_of_decided {demux : Demux} (hopen : demux.failed = false)
    (hframing : demux.framing ≠ .undecided) (bytes : Bytes) :
    demux.append bytes = { demux with buffer := demux.buffer ++ bytes }.extract := by
  simp only [append, hopen, Bool.false_eq_true, if_false, parse]
  split
  · rename_i h
    exact absurd h hframing
  · rfl
  · rfl

/-- On an open stream of unknown framing an append first decides. -/
theorem append_of_undecided {demux : Demux} (hopen : demux.failed = false)
    (hframing : demux.framing = .undecided) (bytes : Bytes) :
    demux.append bytes =
      match demux.policy.decision (demux.buffer ++ bytes) with
      | .wait => ({ demux with buffer := demux.buffer ++ bytes }, [])
      | .framed framing record =>
        let (extracted, records) :=
          { demux with buffer := demux.buffer ++ bytes, framing }.extract
        (extracted, record :: records)
      | .reject =>
        ({ demux with buffer := demux.buffer ++ bytes, failed := true },
          [.undetected (demux.buffer ++ bytes).length]) := by
  simp [append, parse, hopen, hframing]

/-- The packets that already wait make no difference to an append: the new ones stand behind
them. -/
theorem append_eq_append_emptied (demux : Demux) (bytes : Bytes) :
    demux.append bytes =
      let (after, records) := { demux with queue := [] }.append bytes
      ({ after with queue := demux.queue ++ after.queue }, records) := by
  obtain ⟨policy, framing, buffer, queue, failed⟩ := demux
  cases failed with
  | true => simp [append]
  | false =>
    cases framing with
    | undecided =>
      simp only [append, parse, Bool.false_eq_true, if_false]
      cases policy.decision (buffer ++ bytes) <;> simp [extract]
    | relay | direct => simp [append, parse, extract]

/-- An append leaves the packets that already wait where they are. -/
theorem queue_append (demux : Demux) (bytes : Bytes) :
    ∃ packets, (demux.append bytes).1.queue = demux.queue ++ packets := by
  rw [append_eq_append_emptied]
  exact ⟨_, rfl⟩

/-! ### Packets out -/

/-- Model of `pop_packet`: takes the packet that has waited longest. -/
def pop (demux : Demux) : Option Packet × Demux :=
  (demux.queue.head?, { demux with queue := demux.queue.tail })

theorem queue_pop (demux : Demux) : demux.pop.1.toList ++ demux.pop.2.queue = demux.queue := by
  cases h : demux.queue <;> simp [pop, h]

theorem length_queue_pop {demux : Demux} {packet : Packet} (h : demux.pop.1 = some packet) :
    demux.pop.2.queue.length < demux.queue.length := by
  have hqueue := congrArg List.length demux.queue_pop
  rw [h, List.length_append, Option.toList_some, List.length_singleton] at hqueue
  omega

/-- Takes packets one by one until none waits. -/
def popAll (demux : Demux) : List Packet × Demux :=
  match _h : demux.pop.1 with
  | some packet =>
    let (packets, emptied) := demux.pop.2.popAll
    (packet :: packets, emptied)
  | none => ([], demux.pop.2)
termination_by demux.queue.length
decreasing_by exact length_queue_pop (by assumption)

/-- Taking packets one by one takes the whole queue, in its order, and changes nothing else. -/
theorem popAll_eq (demux : Demux) : demux.popAll = (demux.queue, { demux with queue := [] }) := by
  obtain ⟨policy, framing, buffer, queue, failed⟩ := demux
  induction queue with
  | nil =>
    rw [popAll]
    rfl
  | cons packet queue ih =>
    rw [popAll]
    show (packet :: (popAll ⟨policy, framing, buffer, queue, failed⟩).1,
      (popAll ⟨policy, framing, buffer, queue, failed⟩).2) = _
    rw [ih]

end Demux

/-! ## Histories -/

namespace Demux

/-- An operation on a demultiplexer. -/
inductive Op where
  | append (bytes : Bytes)
  | pop
  deriving DecidableEq, Repr

/-- What an operation answers. -/
inductive Result where
  /-- Whether the stream is still sound, and what was recorded. -/
  | appended (sound : Bool) (records : List Record)
  /-- The packet taken, if one was waiting. -/
  | popped (packet : Option Packet)
  deriving DecidableEq, Repr

/-- Carries one operation out. -/
def step (demux : Demux) : Op → Demux × Result
  | .append bytes =>
    let (appended, records) := demux.append bytes
    (appended, .appended (!appended.failed) records)
  | .pop =>
    let (packet, popped) := demux.pop
    (popped, .popped packet)

/-- Carries out the operations of a history in order. -/
def run (demux : Demux) : List Op → Demux × List Result
  | [] => (demux, [])
  | op :: ops =>
    let (stepped, result) := demux.step op
    let (final, results) := stepped.run ops
    (final, result :: results)

theorem run_cons (demux : Demux) (op : Op) (ops : List Op) :
    demux.run (op :: ops) =
      (((demux.step op).1.run ops).1, (demux.step op).2 :: ((demux.step op).1.run ops).2) := rfl

/-- A history may be cut anywhere: the second part goes on where the first one ended. -/
theorem run_append (demux : Demux) (first second : List Op) :
    demux.run (first ++ second) =
      (((demux.run first).1.run second).1,
        (demux.run first).2 ++ ((demux.run first).1.run second).2) := by
  induction first generalizing demux with
  | nil => rfl
  | cons op ops ih => simp only [List.cons_append, run, ih]

end Demux

end IceTcp
