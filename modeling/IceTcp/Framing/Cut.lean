import IceTcp.Framing
import IceTcp.Message

/-!
# Cutting messages off a buffer

Once the framing is known, messages are cut off the front of the buffer until the rest is too short
to hold another one, or until the front is malformed.

The definitions are models of `extract_rfc4571_frame`, `extract_stun_message`,
`extract_channel_message` and `extract` of the source, and of the two loops of `parse` that call
them.

Main results:

* `length_rest_lt_of_cut`: each cut leaves less, so cutting everything off ends.
* `drain_of_packet`, `drain_of_wait`, `drain_of_malformed`: what cutting everything off does, by
  what the first attempt gives.
* `cut_append_of_length_lt`: with fewer bytes than are waited for nothing is cut off.
-/

namespace IceTcp

/-- The size of the length prefix of a frame. -/
def frameHeaderSize : Nat := 2

/-- The shortest message that a frame may carry: a STUN header. -/
def minimumFrameSize : Nat := Stun.headerSize

/-- A bare message is looked at once more bytes than this have arrived. -/
def minimumPacketHeader : Nat := 4

/-- What is wrong with the front of a buffer. -/
inductive Fault where
  /-- A frame header announces less than a STUN header. -/
  | frameLength (length : Nat)
  /-- A bare message starts with an octet of neither STUN nor ChannelData. -/
  | firstByte (first : UInt8)
  /-- A STUN header is malformed. -/
  | stunHeader
  /-- A ChannelData header is malformed. -/
  | channelDataHeader
  deriving DecidableEq, Repr

/-- Model of `Extract`: one attempt to cut a message off the front of a buffer. What is cut off, and
what is wrong, are part of the answer. -/
inductive Cut where
  /-- A message, and what remains behind it. -/
  | packet (packet : Packet) (rest : Bytes)
  /-- More bytes have to arrive. -/
  | wait
  /-- No message can start here. -/
  | malformed (fault : Fault)
  deriving DecidableEq, Repr

/-! ## One message -/

/-- Model of `extract_rfc4571_frame`: cuts a frame off and strips its length prefix. -/
def cutFrame : Bytes → Cut
  | high :: low :: rest =>
    let length := be16 high low
    if length < minimumFrameSize then .malformed (.frameLength length)
    else if rest.length < length then .wait
    else .packet (.ofPayload (rest.take length)) (rest.drop length)
  | _ => .wait

/-- Model of `extract_stun_message` and `extract_channel_message`, which differ in the probe and in
the fault, and of `extract`: cuts off a bare message of a known kind, as long as its probe says. -/
def cutProbed (kind : MessageKind) (probe : Probe) (fault : Fault) (bytes : Bytes) : Cut :=
  match probe with
  | .complete size =>
    if bytes.length < size then .wait else .packet ⟨kind, bytes.take size⟩ (bytes.drop size)
  | .notEnough => .wait
  | .invalid => .malformed fault

/-- One round of the second loop of `parse`: cuts a bare STUN or ChannelData message off. -/
def cutMessage : Bytes → Cut
  | [] => .wait
  | first :: rest =>
    let bytes := first :: rest
    if bytes.length ≤ minimumPacketHeader then .wait
    else
      match MessageKind.ofByte first with
      | .stun => cutProbed .stun (Stun.probe bytes) .stunHeader bytes
      | .channelData =>
        cutProbed .channelData (ChannelData.probe true bytes) .channelDataHeader bytes
      | .unknown => .malformed (.firstByte first)

/-- Cuts one message off, as the framing says; nothing is cut while it is unknown. -/
def Framing.cut : Framing → Bytes → Cut
  | .undecided, _ => .wait
  | .relay, bytes => cutMessage bytes
  | .direct, bytes => cutFrame bytes

/-- A frame that is cut off: its prefix, its payload and what follows. -/
theorem eq_of_cutFrame {bytes rest : Bytes} {packet : Packet}
    (h : cutFrame bytes = .packet packet rest) :
    ∃ high low, bytes = high :: low :: (packet.data ++ rest) ∧
      packet = .ofPayload packet.data ∧ packet.data.length = be16 high low ∧
      20 ≤ packet.data.length := by
  match bytes with
  | [] | [_] => cases h
  | high :: low :: behind =>
    simp only [cutFrame] at h
    split at h
    · cases h
    · rename_i hminimum
      split at h
      · cases h
      · rename_i hlong
        obtain ⟨rfl, rfl⟩ := Cut.packet.inj h
        have hlength : (behind.take (be16 high low)).length = be16 high low := by
          rw [List.length_take]
          omega
        refine ⟨high, low, ?_, rfl, hlength, ?_⟩
        · simp only [Packet.ofPayload, List.take_append_drop]
        · simp only [Packet.ofPayload]
          rw [hlength]
          exact Nat.not_lt.mp hminimum

theorem length_rest_lt_of_cutFrame {bytes rest : Bytes} {packet : Packet}
    (h : cutFrame bytes = .packet packet rest) : rest.length < bytes.length := by
  obtain ⟨high, low, rfl, -, -, -⟩ := eq_of_cutFrame h
  simp only [List.length_cons, List.length_append]
  omega

theorem eq_of_cutProbed {kind : MessageKind} {probe : Probe} {fault : Fault}
    {bytes rest : Bytes} {packet : Packet}
    (h : cutProbed kind probe fault bytes = .packet packet rest) :
    bytes = packet.data ++ rest ∧ packet.kind = kind ∧
      probe = .complete packet.data.length := by
  cases probe with
  | complete size =>
    simp only [cutProbed] at h
    split at h
    · cases h
    · rename_i hlong
      obtain ⟨rfl, rfl⟩ := Cut.packet.inj h
      refine ⟨(List.take_append_drop size bytes).symm, rfl, ?_⟩
      rw [List.length_take, Nat.min_eq_left (Nat.not_lt.mp hlong)]
  | notEnough => cases h
  | invalid => cases h

theorem length_rest_lt_of_cutMessage {bytes rest : Bytes} {packet : Packet}
    (h : cutMessage bytes = .packet packet rest) : rest.length < bytes.length := by
  unfold cutMessage at h
  split at h
  · cases h
  · dsimp only at h
    split at h
    · cases h
    · split at h
      · obtain ⟨hbytes, -, hprobe⟩ := eq_of_cutProbed h
        have := Stun.size_of_probe hprobe
        rw [hbytes, List.length_append]
        omega
      · obtain ⟨hbytes, -, hprobe⟩ := eq_of_cutProbed h
        have := ChannelData.size_of_probe hprobe
        rw [hbytes, List.length_append]
        omega
      · cases h

/-- What a cut leaves is shorter than what it was cut from. -/
theorem Framing.length_rest_lt_of_cut {framing : Framing} {bytes rest : Bytes} {packet : Packet}
    (h : framing.cut bytes = .packet packet rest) : rest.length < bytes.length := by
  cases framing with
  | undecided => cases h
  | relay => exact length_rest_lt_of_cutMessage h
  | direct => exact length_rest_lt_of_cutFrame h

/-! ## All messages -/

/-- What is left when no further message can be cut off a buffer. -/
structure Drained where
  /-- The messages that were cut off, in stream order. -/
  packets : List Packet
  /-- The bytes that remain. -/
  rest : Bytes
  /-- What is wrong with the remaining bytes, unless they wait for more. -/
  fault : Option Fault
  deriving DecidableEq, Repr

/-- Cuts off every message that the buffer holds. -/
def Framing.drain (framing : Framing) (bytes : Bytes) : Drained :=
  match _h : framing.cut bytes with
  | .packet packet rest =>
    let drained := framing.drain rest
    { drained with packets := packet :: drained.packets }
  | .wait => ⟨[], bytes, none⟩
  | .malformed fault => ⟨[], bytes, some fault⟩
termination_by bytes.length
decreasing_by exact Framing.length_rest_lt_of_cut (by assumption)

theorem Framing.drain_of_packet {framing : Framing} {bytes rest : Bytes} {packet : Packet}
    (h : framing.cut bytes = .packet packet rest) :
    framing.drain bytes =
      { framing.drain rest with packets := packet :: (framing.drain rest).packets } := by
  rw [Framing.drain]
  split <;> simp_all

theorem Framing.drain_of_wait {framing : Framing} {bytes : Bytes} (h : framing.cut bytes = .wait) :
    framing.drain bytes = ⟨[], bytes, none⟩ := by
  rw [Framing.drain]
  split <;> simp_all

theorem Framing.drain_of_malformed {framing : Framing} {bytes : Bytes} {fault : Fault}
    (h : framing.cut bytes = .malformed fault) : framing.drain bytes = ⟨[], bytes, some fault⟩ := by
  rw [Framing.drain]
  split <;> simp_all

/-! ## How many bytes a message waits for

As soon as a header has arrived it is known how many bytes the message at the front of a buffer
takes, and until then how many the header takes. Bytes that do not reach that number make the buffer
longer and nothing else.
-/

/-- The number of bytes that has to be there before anything happens, when the header takes
`header` bytes. Nothing is waited for at the front of something malformed. -/
def Probe.awaited (header : Nat) : Probe → Nat
  | .complete size => size
  | .notEnough => header
  | .invalid => 0

/-- The number of bytes that a frame waits for. -/
def awaitedFrame : Bytes → Nat
  | high :: low :: _ =>
    let length := be16 high low
    if length < minimumFrameSize then 0 else frameHeaderSize + length
  | _ => frameHeaderSize

/-- The number of bytes that a bare message waits for. -/
def awaitedMessage : Bytes → Nat
  | [] => minimumPacketHeader + 1
  | first :: rest =>
    let bytes := first :: rest
    if bytes.length ≤ minimumPacketHeader then minimumPacketHeader + 1
    else
      match MessageKind.ofByte first with
      | .stun => (Stun.probe bytes).awaited Stun.headerSize
      | .channelData => (ChannelData.probe true bytes).awaited ChannelData.headerSize
      | .unknown => 0

/-- The number of bytes that have to be there before something can be cut off or found malformed,
as far as the bytes that are there tell. -/
def Framing.awaited : Framing → Bytes → Nat
  | .undecided, _ => 0
  | .relay, bytes => awaitedMessage bytes
  | .direct, bytes => awaitedFrame bytes

theorem cutFrame_append_of_length_lt {bytes more : Bytes}
    (h : (bytes ++ more).length < awaitedFrame bytes) : cutFrame (bytes ++ more) = .wait := by
  match bytes with
  | [] =>
    match more with
    | [] => rfl
    | [_] => rfl
    | _ :: _ :: _ =>
      simp only [awaitedFrame, frameHeaderSize, List.nil_append, List.length_cons] at h
      omega
  | [_] =>
    match more with
    | [] => rfl
    | _ :: _ =>
      simp only [awaitedFrame, frameHeaderSize, List.length_append, List.length_cons] at h
      omega
  | high :: low :: rest =>
    simp only [awaitedFrame] at h
    split at h
    · exact absurd h (Nat.not_lt_zero _)
    · rename_i hlength
      simp only [List.cons_append, List.length_cons, frameHeaderSize] at h
      simp only [List.cons_append, cutFrame]
      rw [if_neg hlength, if_pos (by omega)]

theorem cutProbed_of_length_lt {kind : MessageKind} {probe : Probe} {fault : Fault} {bytes : Bytes}
    {header : Nat} (h : bytes.length < probe.awaited header) :
    cutProbed kind probe fault bytes = .wait := by
  unfold cutProbed
  split
  · exact if_pos h
  · rfl
  · exact absurd h (Nat.not_lt_zero _)

theorem Stun.length_lt_awaited_append {bytes more : Bytes}
    (h : (bytes ++ more).length < (Stun.probe bytes).awaited Stun.headerSize) :
    (bytes ++ more).length < (Stun.probe (bytes ++ more)).awaited Stun.headerSize := by
  rcases Nat.lt_or_ge bytes.length 20 with hheader | hheader
  · rw [Stun.probe_of_length_lt hheader] at h
    rw [Stun.probe_of_length_lt h]
    exact h
  · rw [Stun.probe_append hheader]
    exact h

theorem cutMessage_of_length_gt {first : UInt8} {rest : Bytes}
    (h : ¬ (first :: rest).length ≤ minimumPacketHeader) :
    cutMessage (first :: rest) =
      match MessageKind.ofByte first with
      | .stun => cutProbed .stun (Stun.probe (first :: rest)) .stunHeader (first :: rest)
      | .channelData =>
        cutProbed .channelData (ChannelData.probe true (first :: rest)) .channelDataHeader
          (first :: rest)
      | .unknown => .malformed (.firstByte first) := by
  unfold cutMessage
  exact if_neg h

theorem cutMessage_of_length_le {bytes : Bytes} (h : bytes.length ≤ minimumPacketHeader) :
    cutMessage bytes = .wait := by
  unfold cutMessage
  split
  · rfl
  · exact if_pos h

theorem cutMessage_append_of_length_lt {bytes more : Bytes}
    (h : (bytes ++ more).length < awaitedMessage bytes) : cutMessage (bytes ++ more) = .wait := by
  match bytes with
  | [] => exact cutMessage_of_length_le (Nat.lt_succ_iff.mp h)
  | first :: rest =>
    simp only [awaitedMessage] at h
    split at h
    · exact cutMessage_of_length_le (Nat.lt_succ_iff.mp h)
    · rename_i hshort
      have hlong : ¬ (first :: (rest ++ more)).length ≤ minimumPacketHeader := by
        simp only [List.length_cons, List.length_append] at hshort ⊢
        omega
      rw [List.cons_append, cutMessage_of_length_gt hlong]
      cases hkind : MessageKind.ofByte first with
      | stun =>
        rw [hkind] at h
        exact cutProbed_of_length_lt (Stun.length_lt_awaited_append h)
      | channelData =>
        rw [hkind] at h
        rw [← List.cons_append, ChannelData.probe_append]
        · exact cutProbed_of_length_lt h
        · simp only [List.length_cons, minimumPacketHeader] at hshort ⊢
          omega
      | unknown =>
        rw [hkind] at h
        exact absurd h (Nat.not_lt_zero _)

/-- With fewer bytes than are waited for nothing is cut off and nothing is found malformed. -/
theorem Framing.cut_append_of_length_lt {framing : Framing} {bytes more : Bytes}
    (h : (bytes ++ more).length < framing.awaited bytes) :
    framing.cut (bytes ++ more) = .wait := by
  cases framing with
  | undecided => rfl
  | relay => exact cutMessage_append_of_length_lt h
  | direct => exact cutFrame_append_of_length_lt h

end IceTcp
