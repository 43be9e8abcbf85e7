import IceTcp.Proofs.Framing.BareStream
import IceTcp.Proofs.Framing.Envelope

/-!
# Messages that are written on a bare stream

A peer writes STUN messages and ChannelData messages one behind the other, the latter by the encoder
and with as many octets of padding as reach whole words. The encoder, the padding, the probe that
messages are cut off by and the decoder agree on where such a message ends and on what it says, so
the receiver gets back what was written, as far as it has arrived.

Main results:

* `Outgoing.isBareMessage_written`: what is written is a message of a bare stream.
* `Outgoing.channelNumber_packet`, `Outgoing.decode_packet`: a ChannelData packet says what was
  encoded.
* `Framing.drain_of_isPrefix_written`: what is cut off of a part of what was written.
-/

namespace IceTcp

/-- A message as a peer writes it on a bare stream. -/
inductive Outgoing where
  /-- A well-formed STUN message. -/
  | stun (message : Bytes) (hbare : IsBareMessage message)
      (hkind : MessageKind.identify message = .stun)
  /-- A ChannelData message that the encoder can write, and the octets that pad it. -/
  | channelData (message : ChannelData) (pad : Bytes)
      (hnumber : ChannelData.IsChannel message.number.toNat)
      (hlength : message.payload.length ≤ 65535)
      (hpad : pad.length = ChannelData.padding message.encode.length)

theorem ChannelData.first_of_isChannel {number : UInt16} (h : IsChannel number.toNat) :
    0x40 ≤ UInt8.ofNat (number.toNat / 256) ∧ UInt8.ofNat (number.toNat / 256) ≤ 0x4F := by
  rw [← isChannel_be16_iff _ (UInt8.ofNat number.toNat), be16_toBe16 number.toNat_lt]
  exact h

namespace Outgoing

/-- The octets that lie on the stream. -/
def written : Outgoing → Bytes
  | .stun message _ _ => message
  | .channelData message pad _ _ _ => message.encode ++ pad

/-- The packet that the receiver is to get: all octets of the message, padding included. -/
def packet : Outgoing → Packet
  | .stun message _ _ => ⟨.stun, message⟩
  | .channelData message pad _ _ _ => ⟨.channelData, message.encode ++ pad⟩

/-- The ChannelData message that was encoded, if it is one. -/
def channelData? : Outgoing → Option ChannelData
  | .stun _ _ _ => none
  | .channelData message _ _ _ _ => some message

/-- Whether this is a ChannelData message without data. -/
def isEmpty (message : Outgoing) : Bool := message.channelData?.any (·.payload.isEmpty)

/-- The messages that the receiver is given when so many octets have arrived: those that have
arrived as a whole, save for a ChannelData message without data that ends with the last octet. -/
def given (size : Nat) (messages : List Outgoing) : List Outgoing :=
  let inside := arrived written size messages
  if (inside.flatMap written).length = size ∧ inside.getLast?.any isEmpty then inside.dropLast
  else inside

/-! ## One message -/

theorem isBareMessage_written (message : Outgoing) : IsBareMessage message.written := by
  cases message with
  | stun message hbare hkind => exact hbare
  | channelData message pad hnumber hlength hpad =>
    obtain ⟨number, payload⟩ := message
    have hfield := be16_toBe16 (n := payload.length) (Nat.lt_succ_of_le hlength)
    obtain ⟨hfirst, hlast⟩ := ChannelData.first_of_isChannel hnumber
    show IsBareMessage (UInt8.ofNat (number.toNat / 256) :: UInt8.ofNat number.toNat ::
      UInt8.ofNat (payload.length / 256) :: UInt8.ofNat payload.length :: (payload ++ pad))
    apply IsBareMessage.channelData hfirst hlast
    -- Header, data and padding fill whole words.
    have hwords := ChannelData.add_padding payload.length
    have hpadding : pad.length = ChannelData.padding (4 + payload.length) := by
      rw [hpad, ChannelData.length_encode]
    rw [hfield, List.length_append]
    omega

theorem packet_eq_ofPayload (message : Outgoing) : message.packet = .ofPayload message.written := by
  cases message with
  | stun message hbare hkind =>
    unfold packet written Packet.ofPayload
    rw [hkind]
  | channelData message pad hnumber hlength hpad =>
    have hkind : MessageKind.identify (message.encode ++ pad) = .channelData :=
      (MessageKind.ofByte_eq_channelData_iff _).mpr (ChannelData.first_of_isChannel hnumber)
    unfold packet written Packet.ofPayload
    rw [hkind]

theorem length_written_eq_four_iff (message : Outgoing) :
    message.written.length = 4 ↔ message.isEmpty = true := by
  cases message with
  | stun message hbare hkind =>
    have hlong : 4 < message.length := by
      cases hbare with
      | stun htype hwords hsize =>
        simp only [List.length_cons]
        omega
      | channelData hfirst hlast hsize =>
        rw [(MessageKind.identify_eq_channelData_iff _).mpr ⟨_, _, rfl, hfirst, hlast⟩] at hkind
        cases hkind
    show message.length = 4 ↔ false = true
    exact ⟨fun h => absurd h (Nat.ne_of_gt hlong), Bool.noConfusion⟩
  | channelData message pad hnumber hlength hpad =>
    show (message.encode ++ pad).length = 4 ↔ message.payload.isEmpty = true
    rw [List.length_append, ChannelData.length_encode, List.isEmpty_iff,
      ← List.length_eq_zero_iff]
    constructor
    · omega
    · intro hempty
      rw [ChannelData.length_encode, hempty] at hpad
      rw [hempty, hpad]
      rfl

/-- The receiver decodes what was encoded. -/
theorem decode_packet {message : Outgoing} {channelData : ChannelData}
    (h : message.channelData? = some channelData) :
    ChannelData.decode message.packet.data = .ok channelData := by
  cases message with
  | stun message hbare hkind => cases h
  | channelData message pad hnumber hlength hpad =>
    obtain rfl := Option.some.inj h
    exact ChannelData.decode_encode message pad hnumber (Nat.lt_succ_of_le hlength)

/-- The channel of a packet is the one that was encoded. -/
theorem channelNumber_packet {message : Outgoing} {channelData : ChannelData}
    (h : message.channelData? = some channelData) :
    message.packet.channelNumber = some channelData.number := by
  have hdecode := decode_packet h
  cases message with
  | stun message hbare hkind => cases h
  | channelData message pad hnumber hlength hpad =>
    exact Packet.channelNumber_of_decode rfl hdecode

end Outgoing

/-! ## Draining -/

theorem Framing.cut_written_append (message : Outgoing) {rest : Bytes}
    (hlength : 4 < (message.written ++ rest).length) :
    Framing.relay.cut (message.written ++ rest) = .packet message.packet rest := by
  rw [message.packet_eq_ofPayload]
  exact cutMessage_append_of_isBareMessage message.isBareMessage_written hlength

theorem Framing.drain_written_append (messages : List Outgoing) {rest : Bytes} (hrest : rest ≠ []) :
    Framing.relay.drain (messages.flatMap Outgoing.written ++ rest) =
      { Framing.relay.drain rest with
        packets := messages.map Outgoing.packet ++ (Framing.relay.drain rest).packets } := by
  apply drain_flatMap_append
  intro message _ behind hbehind
  have hbare := message.isBareMessage_written
  exact cut_written_append message (hbare.four_lt_length_append (hbehind.ne_nil hrest))

theorem Framing.cut_eq_wait_of_isPrefix_written {message : Outgoing} {part : Bytes}
    (h : part <+: message.written) (hne : part ≠ message.written) :
    Framing.relay.cut part = .wait := by
  have hlength : 4 < (message.written ++ [0]).length :=
    message.isBareMessage_written.four_lt_length_append (List.cons_ne_nil _ _)
  exact cut_eq_wait_of_isPrefix (cut_written_append message hlength) h hne

theorem Framing.drain_written (message : Outgoing) :
    Framing.relay.drain message.written =
      if message.isEmpty then ⟨[], message.written, none⟩ else ⟨[message.packet], [], none⟩ := by
  by_cases hempty : message.isEmpty = true
  · have hlength := message.length_written_eq_four_iff.mpr hempty
    have hwait : Framing.relay.cut message.written = .wait :=
      cutMessage_of_length_le (Nat.le_of_eq hlength)
    rw [drain_of_wait hwait, if_pos hempty]
  · have hfour := message.isBareMessage_written.four_le_length
    have hlength : 4 < (message.written ++ []).length := by
      rw [List.append_nil]
      exact Nat.lt_of_le_of_ne hfour fun h => hempty (message.length_written_eq_four_iff.mp h.symm)
    have hcut := cut_written_append message hlength
    rw [List.append_nil] at hcut
    rw [drain_of_packet hcut, drain_of_wait rfl, if_neg hempty]

theorem Framing.packets_drain_written (messages : List Outgoing) :
    (Framing.relay.drain (messages.flatMap Outgoing.written)).packets =
        (if messages.getLast?.any Outgoing.isEmpty then messages.dropLast else messages).map
          Outgoing.packet ∧
      (Framing.relay.drain (messages.flatMap Outgoing.written)).fault = none := by
  rcases List.eq_nil_or_concat messages with rfl | ⟨before, last, rfl⟩
  · rw [List.flatMap_nil, drain_of_wait rfl]
    exact ⟨rfl, rfl⟩
  · have hfour := last.isBareMessage_written.four_le_length
    have hne : last.written ≠ [] := List.length_pos_iff.mp (by omega)
    rw [List.concat_eq_append, List.flatMap_append, List.flatMap_singleton,
      drain_written_append before hne, drain_written, List.getLast?_concat, List.dropLast_concat,
      Option.any_some]
    cases last.isEmpty with
    | true => exact ⟨List.append_nil _, rfl⟩
    | false =>
      refine ⟨?_, rfl⟩
      show before.map Outgoing.packet ++ [last.packet] = (before ++ [last]).map Outgoing.packet
      rw [List.map_append, List.map_singleton]

/-- Of a part of what was written the receiver is given the messages that have arrived, and nothing
is at fault. -/
theorem Framing.drain_of_isPrefix_written {messages : List Outgoing} {front : Bytes}
    (h : front <+: messages.flatMap Outgoing.written) :
    (Framing.relay.drain front).packets =
        (Outgoing.given front.length messages).map Outgoing.packet ∧
      (Framing.relay.drain front).fault = none := by
  obtain ⟨part, hfront, hpart⟩ := exists_eq_flatMap_arrived_append h
  unfold Outgoing.given
  generalize arrived Outgoing.written front.length messages = inside at hfront
  by_cases hend : part = []
  · rw [hend, List.append_nil] at hfront
    simp only [hfront, true_and]
    exact packets_drain_written inside
  · have hwait : Framing.relay.cut part = .wait := by
      rcases hpart with hnil | ⟨message, hprefix, hne⟩
      · exact absurd hnil hend
      · exact cut_eq_wait_of_isPrefix_written hprefix hne
    have hlength : (inside.flatMap Outgoing.written).length ≠ front.length := by
      have hpos := List.length_pos_iff.mpr hend
      rw [hfront, List.length_append]
      omega
    have hdrain := drain_written_append inside hend
    rw [← hfront, drain_of_wait hwait, List.append_nil] at hdrain
    simp only [hlength, false_and, if_false]
    rw [hdrain]
    exact ⟨rfl, rfl⟩

end IceTcp
