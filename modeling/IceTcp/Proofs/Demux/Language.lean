import IceTcp.Proofs.Demux.Fragmentation
import IceTcp.Proofs.Framing.BareStream
import IceTcp.Proofs.Framing.FrameStream
import IceTcp.Proofs.Framing.Outgoing

/-!
# The languages of streams whose framing is known

A demultiplexer that knows from the start that its stream is bare refuses a stream exactly where
messages are followed by something that no message can start with. Of any other stream it gives the
messages that are there, one behind the other, as soon as more than four bytes have arrived. One
that knows that its stream is framed refuses a stream exactly where frames are followed by a length
that is too small for one.

Main results:

* `Demux.observed_run_relay`: a history shows what draining the whole stream gives.
* `Demux.relay_run_refused_iff_isDead`: what is refused of a bare stream, and which packets are
  given.
* `Demux.direct_run_refused_iff_isUndersized`: what is refused of a framed stream, and which packets
  are given.
* `Demux.relay_run_outgoing`: the packets of any part of what was written, in any pieces.
-/

namespace IceTcp.Demux

/-! ## Bare streams -/

/-- What a history on a bare stream shows is what draining the whole stream gives. -/
theorem observed_run_relay (ops : List Op) :
    let outcome := (Demux.withFraming .relay).run ops
    let drained := Framing.relay.drain (fed ops)
    emitted outcome = drained.packets ∧ refused outcome.2 = drained.fault.isSome ∧
      (refused outcome.2 = false → outcome.1.buffer = drained.rest) :=
  observed_run_withFraming Framing.noConfusion ops

/-- A bare stream is refused exactly if behind some messages it goes on with what is dead, and then
the packets are these messages. Otherwise the packets are the messages of the longest sequence that
the stream starts with, but for a ChannelData message without data at the very end; the buffer holds
the bytes behind them. -/
theorem relay_run_refused_iff_isDead (ops : List Op) :
    let outcome := (Demux.withFraming .relay).run ops
    (refused outcome.2 = true ↔
        ∃ messages dead, fed ops = List.flatten messages ++ dead ∧
          (∀ message ∈ messages, IsBareMessage message) ∧ IsDead dead) ∧
      (∀ messages dead, fed ops = List.flatten messages ++ dead →
        (∀ message ∈ messages, IsBareMessage message) → IsDead dead →
        emitted outcome = messages.map .ofPayload) ∧
      (refused outcome.2 = false →
        ∃ messages, IsLongest (fed ops) messages ∧
          emitted outcome = (cutOff (fed ops) messages).map .ofPayload ∧
          (cutOff (fed ops) messages).flatten ++ outcome.1.buffer = fed ops) := by
  intro outcome
  obtain ⟨hemitted, hrefused, hbuffer⟩ := observed_run_relay ops
  refine ⟨?_, ?_, ?_⟩
  · constructor
    · intro h
      -- What draining leaves behind a fault is dead.
      rw [hrefused] at h
      obtain ⟨fault, hfault⟩ := Option.isSome_iff_exists.mp h
      obtain ⟨messages, hbare, -, hbytes⟩ := Framing.exists_messages_drain (fed ops)
      have hcut := Framing.cut_rest_drain .relay (fed ops)
      rw [Drained.verdict, hfault] at hcut
      exact ⟨messages, _, hbytes.symm, hbare, isDead_of_cutMessage hcut⟩
    · rintro ⟨messages, dead, hfed, hbare, hdead⟩
      obtain ⟨fault, hdrain⟩ := Framing.drain_of_isDead hbare hdead
      rw [hrefused, hfed, hdrain, Option.isSome_some]
  · intro messages dead hfed hbare hdead
    obtain ⟨fault, hdrain⟩ := Framing.drain_of_isDead hbare hdead
    rw [hemitted, hfed, hdrain]
  · intro h
    have hsound : (Framing.relay.drain (fed ops)).fault = none := by
      rw [hrefused] at h
      exact Option.not_isSome_iff_eq_none.mp (Bool.eq_false_iff.mp h)
    rw [hemitted, hbuffer h]
    exact Framing.exists_isLongest hsound

/-! ## Framed streams

Whatever the stream, the packets are the payloads of its frames. So payloads that are framed by the
sender come out as they went in, each of them as soon as the last octet of its frame has arrived.
-/

/-- A framed stream is refused exactly if behind some frames it goes on with a length below that of
a STUN header. The packets are the payloads of the longest sequence of frames that the stream starts
with, whether it is refused or not; the buffer of a stream that is not holds the bytes behind them.
Of a part of a stream of frames nothing is refused, and the packets are the payloads of the frames
that lie wholly within it. -/
theorem direct_run_refused_iff_isUndersized (ops : List Op) :
    let outcome := (Demux.withFraming .direct).run ops
    (refused outcome.2 = true ↔
        ∃ payloads rest, fed ops = List.flatMap Payload.frame payloads ++ rest ∧
          IsUndersized rest) ∧
      (∃ payloads, IsLongestFrames (fed ops) payloads ∧
        emitted outcome = payloads.map Payload.packet ∧
        (refused outcome.2 = false →
          payloads.flatMap Payload.frame ++ outcome.1.buffer = fed ops)) ∧
      ∀ payloads : List Payload, fed ops <+: payloads.flatMap Payload.frame →
        refused outcome.2 = false ∧
          emitted outcome =
            (arrived Payload.frame (fed ops).length payloads).map Payload.packet := by
  intro outcome
  have hframing : Framing.direct ≠ .undecided := Framing.noConfusion
  obtain ⟨hemitted, hrefused, hbuffer⟩ := observed_run_withFraming hframing ops
  obtain ⟨payloads, hlongest, hpackets, hbytes, hfault⟩ := Framing.exists_isLongestFrames (fed ops)
  refine ⟨?_, ⟨payloads, hlongest, hemitted.trans hpackets, ?_⟩, ?_⟩
  · rw [hrefused]
    constructor
    · intro h
      exact ⟨payloads, _, hbytes.symm, hfault.mp h⟩
    · rintro ⟨others, rest, hfed, hundersized⟩
      obtain ⟨fault, hcut⟩ := exists_cutFrame_eq_malformed_iff.mpr hundersized
      have hdirect : Framing.direct.cut rest = .malformed fault := hcut
      rw [hfed, Framing.drain_frames_append, Framing.drain_of_malformed hdirect, Option.isSome_some]
  · intro h
    rw [hbuffer h]
    exact hbytes
  · intro sent hsent
    obtain ⟨harrived, hsound⟩ := Framing.drain_of_isPrefix_frames hsent
    rw [hrefused, hsound, hemitted, harrived]
    exact ⟨rfl, rfl⟩

/-- Two frames of which the second one lacks its last octet, cut within both of their prefixes: the
first payload is given, and nothing is refused. -/
theorem direct_run_refused_iff_isUndersized_cut :
    let first : Payload := ⟨List.replicate 20 0x01, by decide, by decide⟩
    let second : Payload := ⟨0x40 :: List.replicate 20 0x02, by decide, by decide⟩
    let ops : List Op :=
      [.append [0x00], .append (0x14 :: List.replicate 20 0x01 ++ [0x00]), .pop,
        .append (0x15 :: 0x40 :: List.replicate 19 0x02)]
    fed ops <+: [first, second].flatMap Payload.frame ∧
      refused ((Demux.withFraming .direct).run ops).2 = false ∧
      emitted ((Demux.withFraming .direct).run ops) = [⟨.stun, first.bytes⟩] := by
  intro first second ops
  have hpart : fed ops <+: [first, second].flatMap Payload.frame := by decide
  obtain ⟨hrefused, hemitted⟩ := (direct_run_refused_iff_isUndersized ops).2.2 [first, second] hpart
  exact ⟨hpart, hrefused, hemitted⟩

/-! ## What was written on a bare stream is given back

A peer writes messages, and the stream arrives in pieces, perhaps not all of it. Whatever the pieces
are and whenever packets are taken, the demultiplexer gives the messages that have arrived, and what
it gives decodes to what was encoded.
-/

/-- Of messages of which some part has arrived, in any pieces, no append is refused, and the packets
are the messages that lie wholly inside the part, save for a ChannelData message without data at its
very end. Each has all octets of its message, and a ChannelData packet tells the channel and decodes
to the message that was encoded. -/
theorem relay_run_outgoing {messages : List Outgoing} {ops : List Op}
    (h : fed ops <+: messages.flatMap Outgoing.written) :
    let outcome := (Demux.withFraming .relay).run ops
    let given := Outgoing.given (fed ops).length messages
    refused outcome.2 = false ∧ emitted outcome = given.map Outgoing.packet ∧
      ∀ message ∈ given, message.packet.data = message.written ∧
        ∀ channelData, message.channelData? = some channelData →
          message.packet.channelNumber = some channelData.number ∧
            ChannelData.decode message.packet.data = .ok channelData := by
  intro outcome given
  obtain ⟨hemitted, hrefused, -⟩ := observed_run_relay ops
  obtain ⟨hpackets, hfault⟩ := Framing.drain_of_isPrefix_written h
  refine ⟨?_, ?_, ?_⟩
  · rw [hrefused, hfault, Option.isSome_none]
  · rw [hemitted, hpackets]
  · intro message _
    refine ⟨congrArg Packet.data message.packet_eq_ofPayload, ?_⟩
    intro channelData hchannel
    exact ⟨Outgoing.channelNumber_packet hchannel, Outgoing.decode_packet hchannel⟩

/-- A padded message and a STUN message are given, and an empty one behind them is not yet. -/
theorem relay_run_outgoing_cut :
    let sample : ChannelData := ⟨0x4001, [0xAA]⟩
    let padded : Outgoing :=
      .channelData sample [0x01, 0x02, 0x03] (by decide) (by decide) (by decide)
    let header : Bytes := [0x00, 0x01, 0x00, 0x00, 0x21, 0x12, 0xA4, 0x42]
    let binding : Outgoing :=
      .stun (header ++ List.replicate 12 0x07) (.stun (by decide) rfl rfl) (by decide)
    let last : Outgoing := .channelData ⟨0x4FFF, []⟩ [] (by decide) (by decide) (by decide)
    let ops : List Op :=
      [.append [0x40, 0x01, 0x00], .append [0x01, 0xAA, 0x01], .pop,
        .append ([0x02, 0x03] ++ header), .pop,
        .append (List.replicate 12 0x07 ++ [0x4F, 0xFF, 0x00, 0x00])]
    fed ops <+: [padded, binding, last].flatMap Outgoing.written ∧
      refused ((Demux.withFraming .relay).run ops).2 = false ∧
      emitted ((Demux.withFraming .relay).run ops) = [padded.packet, binding.packet] ∧
      padded.packet.channelNumber = some 0x4001 ∧
      ChannelData.decode padded.packet.data = .ok sample := by
  intro sample padded header binding last ops
  have hpart : fed ops <+: [padded, binding, last].flatMap Outgoing.written := by decide
  have hgiven : Outgoing.given (fed ops).length [padded, binding, last] = [padded, binding] := rfl
  obtain ⟨hrefused, hemitted, hdecoded⟩ := relay_run_outgoing hpart
  rw [hgiven] at hemitted hdecoded
  obtain ⟨hnumber, hdecode⟩ := (hdecoded padded List.mem_cons_self).2 sample rfl
  exact ⟨hpart, hrefused, hemitted, hnumber, hdecode⟩

end IceTcp.Demux
