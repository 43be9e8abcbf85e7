import IceTcp.Proofs.Codec.ChannelData
import IceTcp.Proofs.Framing.BareStream
import IceTcp.Proofs.Framing.FrameStream

/-!
# Packets that are cut off are well-formed

The length of a message is found by a probe of the buffer, its kind by the first octet, and its
channel by the decoder, which checks the length again. On a packet of a bare stream all of them
agree: the probe finds the packet complete, and a ChannelData message decodes to as much data as its
header declares. The payload of a frame is not looked at when it is cut off, so what starts like a
ChannelData message need not be one.

Main results:

* `Packet.isSome_channelNumber_iff`: which packets tell a channel.
* `IsBareMessage.isWhole`, `IsBareMessage.length_mod_four`: what a packet of a bare stream is.
* `Payload.channelNumber_packet`: which payloads of frames tell a channel.
* `Framing.wellFormed_of_mem_drain`: what is cut off of any buffer.
-/

namespace IceTcp

/-! ## What a packet is -/

/-- A packet is a whole message by all that looks at it: the probe of its kind finds it complete,
and a ChannelData message decodes as its header declares, to a channel that the packet tells. -/
def Packet.IsWhole (packet : Packet) : Prop :=
  match packet.kind with
  | .stun => Stun.probe packet.data = .complete packet.data.length
  | .channelData =>
    ChannelData.probe true packet.data = .complete packet.data.length ∧
      ∃ message, ChannelData.decode packet.data = .ok message ∧
        ChannelData.DeclaredBy packet.data message ∧
        packet.channelNumber = some message.number ∧
        ChannelData.IsChannel message.number.toNat
  | .unknown => False

/-- What is true of the packets of a stream of this framing. -/
def Packet.WellFormed (packet : Packet) : Framing → Prop
  | .undecided => False
  | .relay => packet.IsWhole ∧ packet.data.length % 4 = 0
  | .direct =>
    20 ≤ packet.data.length ∧ packet.data.length ≤ 65535 ∧
      packet.kind = MessageKind.identify packet.data ∧
      (packet.channelNumber.isSome = true ↔ ChannelData.Fits packet.data)

/-! ## Channels -/

theorem ChannelData.Fits.identify {bytes : Bytes} (h : Fits bytes) :
    MessageKind.identify bytes = .channelData := by
  obtain ⟨hfirst, hlast, -⟩ := h
  exact (MessageKind.ofByte_eq_channelData_iff _).mpr ⟨hfirst, hlast⟩

/-- A packet tells a channel exactly if it is ChannelData and decodes. -/
theorem Packet.isSome_channelNumber_iff {packet : Packet} :
    packet.channelNumber.isSome = true ↔
      packet.kind = .channelData ∧ ∃ message, ChannelData.decode packet.data = .ok message := by
  constructor
  · intro h
    by_cases hkind : packet.kind = .channelData
    · refine ⟨hkind, ?_⟩
      unfold channelNumber at h
      rw [hkind] at h
      cases hdecode : ChannelData.decode packet.data with
      | ok message => exact ⟨message, rfl⟩
      | error cause =>
        rw [hdecode] at h
        cases h
    · rw [channelNumber_of_kind_ne hkind] at h
      cases h
  · rintro ⟨hkind, message, hdecode⟩
    rw [channelNumber_of_decode hkind hdecode]
    rfl

/-! ## Packets of a bare stream -/

theorem IsBareMessage.length_mod_four {message : Bytes} (h : IsBareMessage message) :
    message.length % 4 = 0 := by
  cases h with
  | stun htype hwords hsize =>
    simp only [List.length_cons]
    omega
  | channelData hfirst hlast hsize =>
    simp only [List.length_cons]
    omega

/-- The octets of a message are a whole message to the probe and to the decoder. -/
theorem IsBareMessage.isWhole {message : Bytes} (h : IsBareMessage message) :
    (Packet.ofPayload message).IsWhole := by
  cases h with
  | @stun type₀ type₁ length₀ length₁ rest htype hwords hsize =>
    have hkind := (MessageKind.ofByte_eq_stun_iff type₀).mpr htype
    have hheader : 12 ≤ rest.length := by omega
    unfold Packet.IsWhole
    simp only [Packet.ofPayload, MessageKind.identify, hkind]
    rw [Stun.probe_cons_of_le_three _ _ _ _ _ _ _ hheader htype, if_pos ⟨rfl, hwords⟩]
    simp only [List.length_cons, Probe.complete.injEq]
    omega
  | @channelData number₀ number₁ length₀ length₁ rest hfirst hlast hsize =>
    have hkind := (MessageKind.ofByte_eq_channelData_iff number₀).mpr ⟨hfirst, hlast⟩
    -- The padding is all that can stand behind the data.
    have hlength : be16 length₀ length₁ ≤ rest.length := by omega
    obtain ⟨message, hdecode⟩ := ChannelData.exists_decode_iff.mpr
      (.header hfirst hlast hlength : ChannelData.Fits (_ :: number₁ :: _ :: _ :: rest))
    obtain ⟨hdeclared, hchannel⟩ := ChannelData.declaredBy_of_decode hdecode
    have htold : Packet.channelNumber
        ⟨.channelData, number₀ :: number₁ :: length₀ :: length₁ :: rest⟩ = some message.number :=
      Packet.channelNumber_of_decode rfl hdecode
    unfold Packet.IsWhole
    simp only [Packet.ofPayload, MessageKind.identify, hkind]
    refine ⟨?_, message, hdecode, hdeclared, htold, hchannel⟩
    rw [ChannelData.probe_cons_of_channel _ _ _ _ hfirst hlast]
    simp only [List.length_cons, Probe.complete.injEq]
    omega

/-! ## Payloads of frames -/

/-- The payload of a frame tells a channel exactly if it starts with a ChannelData message; whether
it does was not checked when it was cut off. -/
theorem Payload.channelNumber_packet (payload : Payload) :
    payload.packet.channelNumber.isSome = true ↔ ChannelData.Fits payload.bytes := by
  rw [Packet.isSome_channelNumber_iff]
  show MessageKind.identify payload.bytes = .channelData ∧
    (∃ message, ChannelData.decode payload.bytes = .ok message) ↔ _
  rw [ChannelData.exists_decode_iff]
  constructor
  · exact And.right
  · intro h
    exact ⟨h.identify, h⟩

/-! ## Draining -/

/-- Whatever is cut off is well-formed by its framing. -/
theorem Framing.wellFormed_of_mem_drain {framing : Framing} {bytes : Bytes} {packet : Packet}
    (h : packet ∈ (framing.drain bytes).packets) : packet.WellFormed framing := by
  cases framing with
  | undecided =>
    rw [drain_undecided] at h
    cases h
  | relay =>
    obtain ⟨hbare, hpacket⟩ := isBareMessage_of_mem_drain h
    have hwhole := hbare.isWhole
    rw [← hpacket] at hwhole
    exact ⟨hwhole, hbare.length_mod_four⟩
  | direct =>
    obtain ⟨payloads, hpackets, -⟩ := exists_payloads_drain bytes
    rw [hpackets] at h
    obtain ⟨payload, -, rfl⟩ := List.mem_map.mp h
    exact ⟨payload.minimum_le, payload.le_maximum, rfl, payload.channelNumber_packet⟩

end IceTcp
