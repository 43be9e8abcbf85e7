import IceTcp.Proofs.Codec.Access
import IceTcp.Proofs.Demux.Fragmentation

/-!
# A demultiplexer stays within its buffer

Detection, both ways of cutting messages off and the record of an unknown first octet look at octets
of the buffer by their positions and split it at computed lengths. Carried out with checked
accesses, where `none` stands for one that fails, every operation gives what it gives without: no
access of any history fails. What guards an access is a comparison of lengths that was made before
it, in the probe or in the loop, and so it does in every state.

Main results:

* `recognizeChecked_eq`: detection.
* `Framing.cutChecked_eq`, `Framing.drainChecked_eq`: one message, and the loop.
* `Demux.appendChecked_eq`: one append, in any state.
* `Demux.runChecked_eq`: any history, and what else reads the messages of a stream.
-/

namespace IceTcp

/-! ## Detection -/

/-- Whether there are three octets that start a frame of a STUN message. -/
def startsFrame : Bytes → Bool
  | first :: low :: third :: _ => first = 0x00 ∧ third ≤ 0x03 ∧ 20 ≤ low
  | _ => false

/-- Detection that looks at the first octet by its position. -/
def recognizeChecked (bytes : Bytes) : Option (Option Evidence) :=
  if bytes.length < frameHeaderSize then some none
  else if startsFrame bytes then some (some .frame)
  else do
    let first ← bytes[0]?
    if first = 0x00 ∧ bytes.length = frameHeaderSize then some none
    else if first ≤ 0x03 then some (some .stun)
    else if 0x40 ≤ first ∧ first ≤ 0x4F then some (some .channelData)
    else some none

/-- Detection looks at the first octet only where there is one. -/
theorem recognizeChecked_eq (bytes : Bytes) : recognizeChecked bytes = some (recognize bytes) := by
  match bytes with
  | [] | [_] => rfl
  | [first, second] =>
    have hlength : ¬ [first, second].length < frameHeaderSize := Nat.lt_irrefl 2
    have hshort : [first, second].length = frameHeaderSize := rfl
    have hframe : startsFrame [first, second] = false := rfl
    rw [recognizeChecked, if_neg hlength, hframe, hshort]
    simp only [recognize, List.getElem?_cons_zero, Option.bind_eq_bind, Option.bind_some, and_true,
      Bool.false_eq_true, if_false, apply_ite some]
  | first :: second :: third :: rest =>
    have hlength : ¬ (first :: second :: third :: rest).length < frameHeaderSize := by
      simp only [List.length_cons, frameHeaderSize]
      omega
    have hlonger : ¬ (first :: second :: third :: rest).length = frameHeaderSize := by
      simp only [List.length_cons, frameHeaderSize]
      omega
    rw [recognizeChecked, if_neg hlength]
    simp only [startsFrame, recognize, List.getElem?_cons_zero, Option.bind_eq_bind,
      Option.bind_some, hlonger, and_false, if_false, decide_eq_true_eq]
    by_cases hzero : first = 0x00
    · have hstun : first ≤ 0x03 := by rw [hzero]; decide
      by_cases hframe : 20 ≤ second ∧ third ≤ 0x03
      · rw [if_pos ⟨hzero, hframe.2, hframe.1⟩, if_pos hzero, if_pos hframe]
      · rw [if_neg fun h => hframe ⟨h.2.2, h.2.1⟩, if_pos hstun, if_pos hzero, if_neg hframe]
    · rw [if_neg fun h => hzero h.1, if_neg hzero]
      simp only [apply_ite some]

/-! ## One message -/

/-- Cuts a frame off: reads its prefix by position, splits the buffer behind it, and strips the
prefix. -/
def cutFrameChecked (bytes : Bytes) : Option Cut :=
  if bytes.length < frameHeaderSize then some .wait
  else do
    let high ← bytes[0]?
    let low ← bytes[1]?
    let length := be16 high low
    if length < minimumFrameSize then some (.malformed (.frameLength length))
    else if bytes.length < frameHeaderSize + length then some .wait
    else do
      let (frame, rest) ← bytes.splitTo? (frameHeaderSize + length)
      let payload ← frame.advance? frameHeaderSize
      some (.packet (.ofPayload payload) rest)

/-- Cuts off a bare message of a known kind, as long as its probe says, by splitting the buffer. -/
def cutProbedChecked (kind : MessageKind) (probe : Probe) (fault : Fault) (bytes : Bytes) :
    Option Cut :=
  match probe with
  | .complete size =>
    if bytes.length < size then some .wait
    else do
      let (message, rest) ← bytes.splitTo? size
      some (.packet ⟨kind, message⟩ rest)
  | .notEnough => some .wait
  | .invalid => some (.malformed fault)

/-- Cuts a bare message off. The fault of an unknown message tells its first octet. -/
def cutMessageChecked (bytes : Bytes) : Option Cut :=
  if bytes.length ≤ minimumPacketHeader then some .wait
  else
    match MessageKind.identify bytes with
    | .stun => do
      let probe ← Stun.probeChecked bytes
      cutProbedChecked .stun probe .stunHeader bytes
    | .channelData => do
      let probe ← ChannelData.probeChecked true bytes
      cutProbedChecked .channelData probe .channelDataHeader bytes
    | .unknown => do
      let first ← bytes[0]?
      some (.malformed (.firstByte first))

/-- Cuts one message off, as the framing says. -/
def Framing.cutChecked : Framing → Bytes → Option Cut
  | .undecided, _ => some .wait
  | .relay, bytes => cutMessageChecked bytes
  | .direct, bytes => cutFrameChecked bytes

theorem cutFrameChecked_eq (bytes : Bytes) : cutFrameChecked bytes = some (cutFrame bytes) := by
  match bytes with
  | [] | [_] => rfl
  | high :: low :: rest =>
    have hsize : (high :: low :: rest).length = rest.length + 2 := rfl
    have hlength : ¬ (high :: low :: rest).length < frameHeaderSize := by
      rw [hsize, frameHeaderSize]
      omega
    rw [cutFrameChecked, if_neg hlength]
    simp only [cutFrame, List.getElem?_cons_zero, List.getElem?_cons_succ, Option.bind_eq_bind,
      Option.bind_some]
    by_cases hshort : be16 high low < minimumFrameSize
    · rw [if_pos hshort, if_pos hshort]
    · rw [if_neg hshort, if_neg hshort]
      by_cases hwait : rest.length < be16 high low
      · have hbuffer : (high :: low :: rest).length < frameHeaderSize + be16 high low := by
          rw [hsize, frameHeaderSize]
          omega
        rw [if_pos hbuffer, if_pos hwait]
      · have hbuffer : frameHeaderSize + be16 high low ≤ (high :: low :: rest).length := by
          rw [hsize, frameHeaderSize]
          omega
        have hprefix : frameHeaderSize ≤
            ((high :: low :: rest).take (frameHeaderSize + be16 high low)).length := by
          rw [List.length_take, Nat.min_eq_left hbuffer]
          exact Nat.le_add_right _ _
        have hpayload : ((high :: low :: rest).take (frameHeaderSize + be16 high low)).drop
            frameHeaderSize = rest.take (be16 high low) := by
          rw [List.drop_take, Nat.add_sub_cancel_left]
          rfl
        have hrest : (high :: low :: rest).drop (frameHeaderSize + be16 high low) =
            rest.drop (be16 high low) := by
          rw [← List.drop_drop]
          rfl
        rw [if_neg (Nat.not_lt.mpr hbuffer), if_neg hwait, Bytes.splitTo?_of_le hbuffer]
        simp only [Option.bind_some]
        rw [Bytes.advance?_of_le hprefix, hpayload, hrest, Option.bind_some]

theorem cutProbedChecked_eq (kind : MessageKind) (probe : Probe) (fault : Fault) (bytes : Bytes) :
    cutProbedChecked kind probe fault bytes = some (cutProbed kind probe fault bytes) := by
  cases probe with
  | complete size =>
    unfold cutProbedChecked cutProbed
    by_cases hwait : bytes.length < size
    · simp only [if_pos hwait]
    · simp only [if_neg hwait, Bytes.splitTo?_of_le (Nat.not_lt.mp hwait), Option.bind_eq_bind,
        Option.bind_some]
  | notEnough | invalid => rfl

theorem cutMessageChecked_eq (bytes : Bytes) :
    cutMessageChecked bytes = some (cutMessage bytes) := by
  by_cases hlength : bytes.length ≤ minimumPacketHeader
  · rw [cutMessageChecked, if_pos hlength, cutMessage_of_length_le hlength]
  · match bytes with
    | [] => exact absurd (Nat.zero_le _) hlength
    | first :: rest =>
      rw [cutMessageChecked, if_neg hlength, cutMessage_of_length_gt hlength, MessageKind.identify]
      cases MessageKind.ofByte first with
      | stun =>
        simp only [Stun.probeChecked_eq, Option.bind_eq_bind, Option.bind_some, cutProbedChecked_eq]
      | channelData =>
        simp only [ChannelData.probeChecked_eq, Option.bind_eq_bind, Option.bind_some,
          cutProbedChecked_eq]
      | unknown => rfl

/-- An attempt to cut a message off stays within the buffer, whatever the framing. -/
theorem Framing.cutChecked_eq (framing : Framing) (bytes : Bytes) :
    framing.cutChecked bytes = some (framing.cut bytes) := by
  cases framing with
  | undecided => rfl
  | relay => exact cutMessageChecked_eq bytes
  | direct => exact cutFrameChecked_eq bytes

/-! ## All messages -/

/-- Cuts off every message that the buffer holds, as long as no access fails. -/
def Framing.drainChecked (framing : Framing) (bytes : Bytes) : Option Drained :=
  match _h : framing.cutChecked bytes with
  | none => none
  | some (.packet packet rest) => do
    let drained ← framing.drainChecked rest
    some { drained with packets := packet :: drained.packets }
  | some .wait => some ⟨[], bytes, none⟩
  | some (.malformed fault) => some ⟨[], bytes, some fault⟩
termination_by bytes.length
decreasing_by
  rw [framing.cutChecked_eq] at _h
  exact Framing.length_rest_lt_of_cut (Option.some.inj _h)

/-- What an attempt records, where the header of a frame is read by position. -/
def Cut.recordsChecked (framing : Framing) (buffer : Bytes) : Cut → Option (List Record)
  | .packet message _ =>
    match framing with
    | .direct => do
      let high ← buffer[0]?
      let low ← buffer[1]?
      some [.frame (be16 high low) message.kind]
    | .relay | .undecided => some []
  | .wait => some []
  | .malformed fault => some [.fault fault]

/-- What cutting off every message records, as long as no access fails. -/
def Framing.drainRecordsChecked (framing : Framing) (buffer : Bytes) : Option (List Record) :=
  match _h : framing.cutChecked buffer with
  | none => none
  | some (.packet packet rest) => do
    let recorded ← Cut.recordsChecked framing buffer (.packet packet rest)
    let later ← framing.drainRecordsChecked rest
    some (recorded ++ later)
  | some .wait => Cut.recordsChecked framing buffer .wait
  | some (.malformed fault) => Cut.recordsChecked framing buffer (.malformed fault)
termination_by buffer.length
decreasing_by
  rw [framing.cutChecked_eq] at _h
  exact Framing.length_rest_lt_of_cut (Option.some.inj _h)

/-- One round of the loop, where the cut is known not to fail. -/
theorem Framing.drainChecked_of_cut (framing : Framing) (bytes : Bytes) :
    framing.drainChecked bytes =
      match framing.cut bytes with
      | .packet packet rest => (framing.drainChecked rest).map fun drained =>
          { drained with packets := packet :: drained.packets }
      | .wait => some ⟨[], bytes, none⟩
      | .malformed fault => some ⟨[], bytes, some fault⟩ := by
  have hchecked := framing.cutChecked_eq bytes
  rw [Framing.drainChecked]
  split
  · next hnone => exact nomatch hnone.symm.trans hchecked
  · next packet rest hcut =>
    rw [← Option.some.inj (hcut.symm.trans hchecked)]
    exact Option.map_eq_bind.symm
  · next hcut => rw [← Option.some.inj (hcut.symm.trans hchecked)]
  · next fault hcut => rw [← Option.some.inj (hcut.symm.trans hchecked)]

/-- The loop stays within the buffer, however often it goes round. -/
theorem Framing.drainChecked_eq (framing : Framing) (bytes : Bytes) :
    framing.drainChecked bytes = some (framing.drain bytes) := by
  induction bytes using Framing.drain.induct framing with
  | case1 bytes packet rest hcut ih =>
    rw [drainChecked_of_cut, hcut, drain_of_packet hcut]
    simp only [ih, Option.map_some]
  | case2 bytes hcut => rw [drainChecked_of_cut, hcut, drain_of_wait hcut]
  | case3 bytes fault hcut => rw [drainChecked_of_cut, hcut, drain_of_malformed hcut]

theorem Cut.recordsChecked_of_packet {framing : Framing} {buffer rest : Bytes} {packet : Packet}
    (h : framing.cut buffer = .packet packet rest) :
    Cut.recordsChecked framing buffer (.packet packet rest) =
      some (Cut.records framing buffer (.packet packet rest)) := by
  cases framing with
  | undecided | relay => rfl
  | direct =>
    obtain ⟨high, low, rfl, -, -, -⟩ := eq_of_cutFrame h
    rfl

theorem Framing.drainRecordsChecked_of_cut (framing : Framing) (buffer : Bytes) :
    framing.drainRecordsChecked buffer =
      match framing.cut buffer with
      | .packet packet rest =>
        (Cut.recordsChecked framing buffer (.packet packet rest)).bind fun recorded =>
          (framing.drainRecordsChecked rest).map (recorded ++ ·)
      | .wait => some []
      | .malformed fault => some [.fault fault] := by
  have hchecked := framing.cutChecked_eq buffer
  rw [Framing.drainRecordsChecked]
  split
  · next hnone => exact nomatch hnone.symm.trans hchecked
  · next packet rest hcut =>
    rw [← Option.some.inj (hcut.symm.trans hchecked)]
    simp only [Option.map_eq_bind]
    rfl
  · next hcut =>
    rw [← Option.some.inj (hcut.symm.trans hchecked)]
    rfl
  · next fault hcut =>
    rw [← Option.some.inj (hcut.symm.trans hchecked)]
    rfl

theorem Framing.drainRecordsChecked_eq (framing : Framing) (buffer : Bytes) :
    framing.drainRecordsChecked buffer = some (framing.drainRecords buffer) := by
  induction buffer using Framing.drain.induct framing with
  | case1 buffer packet rest hcut ih =>
    rw [drainRecordsChecked_of_cut, hcut, drainRecords_of_packet hcut]
    simp only [Cut.recordsChecked_of_packet hcut, ih, Option.bind_some, Option.map_some]
  | case2 buffer hcut => rw [drainRecordsChecked_of_cut, hcut, drainRecords_of_wait hcut]
  | case3 buffer fault hcut =>
    rw [drainRecordsChecked_of_cut, hcut, drainRecords_of_malformed hcut]

/-! ## Operations -/

/-- Decides on the framing by checked detection. -/
def Policy.decisionChecked (policy : Policy) (buffer : Bytes) : Option Decision := do
  match ← recognizeChecked buffer with
  | some evidence => some (.framed evidence.framing (.recognized evidence))
  | none =>
    if buffer.length < policy.threshold then some .wait
    else
      match policy.fallback with
      | .direct => some (.framed .direct (.assumedDirect buffer.length))
      | .relay => some (.framed .relay (.assumedRelay buffer.length))
      | .reject => some .reject

theorem Policy.decisionChecked_eq (policy : Policy) (buffer : Bytes) :
    policy.decisionChecked buffer = some (policy.decision buffer) := by
  unfold decisionChecked decision
  rw [recognizeChecked_eq]
  simp only [Option.bind_eq_bind, Option.bind_some]
  cases recognize buffer with
  | some evidence => rfl
  | none =>
    simp only [apply_ite some]
    cases policy.fallback <;> rfl

namespace Demux

/-- Cuts every complete message off the buffer, as long as no access fails. -/
def extractChecked (demux : Demux) : Option (Demux × List Record) := do
  let drained ← demux.framing.drainChecked demux.buffer
  let records ← demux.framing.drainRecordsChecked demux.buffer
  some ({ demux with
      buffer := drained.rest
      queue := demux.queue ++ drained.packets
      failed := drained.fault.isSome },
    records)

/-- Decides on the framing, if that is still open, and cuts off what the buffer holds. -/
def parseChecked (demux : Demux) : Option (Demux × List Record) :=
  match demux.framing with
  | .undecided => do
    match ← demux.policy.decisionChecked demux.buffer with
    | .wait => some (demux, [])
    | .framed framing record =>
      let (extracted, records) ← { demux with framing }.extractChecked
      some (extracted, record :: records)
    | .reject => some ({ demux with failed := true }, [.undetected demux.buffer.length])
  | .relay | .direct => demux.extractChecked

/-- Takes bytes of the stream, as long as no access fails. -/
def appendChecked (demux : Demux) (bytes : Bytes) : Option (Demux × List Record) :=
  if demux.failed then some (demux, [])
  else { demux with buffer := demux.buffer ++ bytes }.parseChecked

/-- Carries one operation out, as long as no access fails. -/
def stepChecked (demux : Demux) : Op → Option (Demux × Result)
  | .append bytes => do
    let (appended, records) ← demux.appendChecked bytes
    some (appended, .appended (!appended.failed) records)
  | .pop =>
    let (packet, popped) := demux.pop
    some (popped, .popped packet)

/-- Carries out the operations of a history in order, as long as no access fails. -/
def runChecked (demux : Demux) : List Op → Option (Demux × List Result)
  | [] => some (demux, [])
  | op :: ops => do
    let (stepped, result) ← demux.stepChecked op
    let (final, results) ← stepped.runChecked ops
    some (final, result :: results)

theorem extractChecked_eq (demux : Demux) : demux.extractChecked = some demux.extract := by
  rw [extractChecked, Framing.drainChecked_eq, Framing.drainRecordsChecked_eq]
  rfl

theorem parseChecked_eq (demux : Demux) : demux.parseChecked = some demux.parse := by
  unfold parseChecked parse
  cases demux.framing with
  | undecided =>
    simp only [Policy.decisionChecked_eq, Option.bind_eq_bind, Option.bind_some, extractChecked_eq]
    cases demux.policy.decision demux.buffer <;> rfl
  | relay | direct => exact extractChecked_eq _

/-- No access of an append fails, whatever the state and whatever the bytes. -/
theorem appendChecked_eq (demux : Demux) (bytes : Bytes) :
    demux.appendChecked bytes = some (demux.append bytes) := by
  rw [appendChecked, append, parseChecked_eq, apply_ite some]

theorem stepChecked_eq (demux : Demux) (op : Op) : demux.stepChecked op = some (demux.step op) := by
  cases op with
  | append bytes =>
    rw [stepChecked, appendChecked_eq]
    rfl
  | pop => rfl

/-- A history whose steps cannot fail cannot fail. -/
theorem runChecked_eq_run (demux : Demux) (ops : List Op) :
    demux.runChecked ops = some (demux.run ops) := by
  induction ops generalizing demux with
  | nil => rfl
  | cons op ops ih =>
    rw [runChecked, stepChecked_eq, run_cons]
    simp only [Option.bind_eq_bind, Option.bind_some, ih]

/-- No access fails, and what is read is what the operations give without checks: in any history of
any stream, when the channel of any packet is told, and when any byte string is probed or decoded.
The fields that the decoder takes always have the size of a field. -/
theorem runChecked_eq (origin : Origin) (ops : List Op) :
    origin.demux.runChecked ops = some (origin.demux.run ops) ∧
      (∀ packet : Packet, packet.channelNumberChecked = some packet.channelNumber) ∧
      ∀ bytes : Bytes,
        Stun.probeChecked bytes = some (Stun.probe bytes) ∧
          (∀ padded, ChannelData.probeChecked padded bytes = some (ChannelData.probe padded bytes)) ∧
          ChannelData.decodeChecked bytes = some (ChannelData.decode bytes) ∧
          ChannelData.decode bytes ≠ .error .fieldSize := by
  refine ⟨runChecked_eq_run origin.demux ops, Packet.channelNumberChecked_eq, fun bytes => ?_⟩
  exact ⟨Stun.probeChecked_eq bytes, fun padded => ChannelData.probeChecked_eq padded bytes,
    ChannelData.decodeChecked_eq bytes, ChannelData.decode_ne_fieldSize bytes⟩

end Demux

end IceTcp
