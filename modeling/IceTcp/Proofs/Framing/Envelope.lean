import IceTcp.Bytes
import IceTcp.Proofs.Framing.Streaming

/-!
# What messages occupy on a stream

A packet of a framed stream has lost its length prefix, and a packet of a bare stream is what lay on
the stream. The envelope of a packet is what it occupied there; the envelopes of all packets that
are cut off a buffer, one behind the other, and the rest are the buffer.

Main results:

* `Framing.envelope_append_of_cut`: a cut splits the buffer between envelope and rest.
* `Framing.envelopes_append_rest`: draining loses no byte, and adds and moves none.
* `Framing.length_of_mem_drain_direct`: the payloads of frames have lengths that their prefix can
  say.
* `exists_eq_flatMap_arrived_append`: a front of a stream is what has arrived as a whole and a part
  of a message.
* `isPrefix_of_flatMap_isPrefix`: there is no longer sequence of messages than one behind which no
  message starts.
-/

namespace IceTcp

/-! ## Envelopes -/

/-- The bytes that a packet occupied on the stream that it was cut off. -/
def Framing.envelope : Framing → Packet → Bytes
  | .direct, packet => toBe16 packet.data.length ++ packet.data
  | .relay, packet | .undecided, packet => packet.data

/-- The bytes that packets occupied, one behind the other. -/
def Framing.envelopes (framing : Framing) (packets : List Packet) : Bytes :=
  packets.flatMap framing.envelope

@[simp] theorem Framing.envelopes_nil (framing : Framing) : framing.envelopes [] = [] := rfl

@[simp] theorem Framing.envelopes_cons (framing : Framing) (packet : Packet)
    (packets : List Packet) :
    framing.envelopes (packet :: packets) = framing.envelope packet ++ framing.envelopes packets :=
  List.flatMap_cons

theorem data_append_of_cutMessage {bytes rest : Bytes} {packet : Packet}
    (h : cutMessage bytes = .packet packet rest) : packet.data ++ rest = bytes := by
  by_cases hlength : bytes.length ≤ minimumPacketHeader
  · rw [cutMessage_of_length_le hlength] at h
    cases h
  · match bytes with
    | [] => cases h
    | first :: behind =>
      rw [cutMessage_of_length_gt hlength] at h
      split at h
      · exact (eq_of_cutProbed h).1.symm
      · exact (eq_of_cutProbed h).1.symm
      · cases h

/-- A cut splits the buffer between the envelope of the packet and the rest. -/
theorem Framing.envelope_append_of_cut {framing : Framing} {bytes rest : Bytes} {packet : Packet}
    (h : framing.cut bytes = .packet packet rest) : framing.envelope packet ++ rest = bytes := by
  cases framing with
  | undecided => cases h
  | relay => exact data_append_of_cutMessage h
  | direct =>
    obtain ⟨high, low, rfl, -, hlength, -⟩ := eq_of_cutFrame h
    simp only [envelope, hlength, toBe16_be16, List.cons_append, List.nil_append]

/-- The packets of a drained buffer, each in its envelope, and the rest are the buffer. -/
theorem Framing.envelopes_append_rest (framing : Framing) (bytes : Bytes) :
    framing.envelopes (framing.drain bytes).packets ++ (framing.drain bytes).rest = bytes := by
  induction bytes using Framing.drain.induct framing with
  | case1 bytes packet rest hcut ih =>
    rw [drain_of_packet hcut]
    rw [envelopes_cons, List.append_assoc, ih]
    exact envelope_append_of_cut hcut
  | case2 bytes hcut =>
    rw [drain_of_wait hcut]
    rfl
  | case3 bytes fault hcut =>
    rw [drain_of_malformed hcut]
    rfl

/-- The payload of a frame is at least as long as a STUN header, and its length fits the prefix. -/
theorem Framing.length_of_mem_drain_direct {bytes : Bytes} {packet : Packet}
    (h : packet ∈ (Framing.direct.drain bytes).packets) :
    20 ≤ packet.data.length ∧ packet.data.length ≤ 65535 := by
  refine forall_mem_packets_drain
    (P := fun packet => 20 ≤ packet.data.length ∧ packet.data.length ≤ 65535) ?_ bytes packet h
  intro bytes packet rest hcut
  obtain ⟨high, low, -, -, hlength, hminimum⟩ := eq_of_cutFrame hcut
  have hlt := be16_lt high low
  exact ⟨hminimum, by omega⟩

/-! ## What has arrived of messages

Messages are written on a stream one behind the other, and some front of the stream has arrived. It
holds the first messages as a whole, and behind them a part of the next one. Where no two messages
start alike, these are all messages that can be read off the front.
-/

variable {α : Type} {written : α → Bytes}

/-- The messages that lie wholly within so many octets, when they are written one behind the
other. -/
def arrived (written : α → Bytes) (size : Nat) : List α → List α
  | [] => []
  | message :: messages =>
    if (written message).length ≤ size then
      message :: arrived written (size - (written message).length) messages
    else []

/-- A front of a stream of messages splits into those that have arrived and a part of another one,
which is empty where a message ends. -/
theorem exists_eq_flatMap_arrived_append {messages : List α} {front : Bytes}
    (h : front <+: messages.flatMap written) :
    ∃ part, front = (arrived written front.length messages).flatMap written ++ part ∧
      (part = [] ∨ ∃ message, part <+: written message ∧ part ≠ written message) := by
  induction messages generalizing front with
  | nil => exact ⟨[], List.prefix_nil.mp h, .inl rfl⟩
  | cons message messages ih =>
    have hmessage : written message <+: (message :: messages).flatMap written :=
      List.prefix_append _ _
    by_cases hsize : (written message).length ≤ front.length
    · -- The message has arrived, and what is behind it is a front of the others.
      obtain ⟨behind, rfl⟩ := List.prefix_of_prefix_length_le hmessage h hsize
      rw [List.flatMap_cons, List.prefix_append_right_inj] at h
      obtain ⟨part, hbehind, hpart⟩ := ih h
      refine ⟨part, ?_, hpart⟩
      rw [arrived, if_pos hsize, List.length_append, Nat.add_sub_cancel_left, List.flatMap_cons,
        List.append_assoc, ← hbehind]
    · have hshort : front <+: written message :=
        List.prefix_of_prefix_length_le h hmessage (by omega)
      refine ⟨front, ?_, .inr ⟨message, hshort, ?_⟩⟩
      · rw [arrived, if_neg hsize]
        rfl
      · intro hwhole
        rw [hwhole] at hsize
        exact hsize (Nat.le_refl _)

/-- Where messages that start alike are the same, and none of them starts what is behind some
messages, any sequence of messages that the stream starts with is the front of these. -/
theorem isPrefix_of_flatMap_isPrefix {good : α → Prop} {messages others : List α} {rest : Bytes}
    (hunique : ∀ first second more later, good first → good second →
      written first ++ more = written second ++ later → first = second)
    (hmessages : ∀ message ∈ messages, good message) (hothers : ∀ message ∈ others, good message)
    (hrest : ∀ message, good message → ¬ written message <+: rest)
    (h : others.flatMap written <+: messages.flatMap written ++ rest) : others <+: messages := by
  induction others generalizing messages with
  | nil => exact List.nil_prefix
  | cons other others ih =>
    have hother := hothers other List.mem_cons_self
    rw [List.flatMap_cons] at h
    cases messages with
    | nil =>
      have hstart := (List.prefix_append (written other) (others.flatMap written)).trans h
      exact absurd hstart (hrest other hother)
    | cons message messages =>
      have hmessage := hmessages message List.mem_cons_self
      rw [List.flatMap_cons, List.append_assoc] at h
      obtain ⟨behind, hbehind⟩ := h
      rw [List.append_assoc] at hbehind
      obtain rfl := hunique other message _ _ hother hmessage hbehind
      rw [List.prefix_cons_inj]
      apply ih (fun m hm => hmessages m (List.mem_cons_of_mem _ hm))
        (fun m hm => hothers m (List.mem_cons_of_mem _ hm))
      exact ⟨behind, List.append_cancel_left hbehind⟩

end IceTcp
