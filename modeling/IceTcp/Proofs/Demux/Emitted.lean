import IceTcp.Proofs.Demux.Fragmentation
import IceTcp.Proofs.Framing.Envelope
import IceTcp.Proofs.Framing.WellFormed

/-!
# What a demultiplexer gives

No byte of a stream is lost, doubled or moved: what was taken of it is what its packets occupied on
it, one behind the other, and behind them what is still buffered. This holds at every moment of a
history, also behind a failure, and while the framing is not known everything is still buffered.

Every packet of a history was cut off the stream by the framing that is known in the end, so it is
what the framing says of its packets.

Main results:

* `Demux.held_append`: an append adds its bytes to what a demultiplexer holds.
* `Demux.envelopes_emitted_append_buffer`: no byte of a history is lost.
* `Demux.wellFormed_of_mem_emitted`: every packet of every history, and where the packets of a bare
  stream end.
-/

namespace IceTcp

/-! ## Byte conservation -/

namespace Demux

/-- The part of the stream that a demultiplexer holds, in its queue and in its buffer. -/
def held (demux : Demux) : Bytes := demux.framing.envelopes demux.queue ++ demux.buffer

/-- An append adds its bytes to what is held, unless packets wait that a framing decided now would
put in other envelopes. -/
theorem held_append {demux : Demux} (hopen : demux.failed = false) (hqueue : demux.queue = [])
    (bytes : Bytes) : (demux.append bytes).1.held = demux.held ++ bytes := by
  obtain ⟨hpackets, hbuffer⟩ := append_eq_drained hopen bytes
  calc (demux.append bytes).1.held
      = (demux.append bytes).1.framing.envelopes
            ((demux.append bytes).1.framing.drain (demux.buffer ++ bytes)).packets ++
          ((demux.append bytes).1.framing.drain (demux.buffer ++ bytes)).rest := by
        rw [held, hpackets, hbuffer, hqueue, List.nil_append]
    _ = demux.buffer ++ bytes := Framing.envelopes_append_rest _ _
    _ = demux.held ++ bytes := by rw [held, hqueue, Framing.envelopes_nil, List.nil_append]

theorem Origin.held_demux (origin : Origin) : origin.demux.held = [] := by
  rw [held, queue_demux, buffer_demux, Framing.envelopes_nil, List.append_nil]

/-- The packets of a history are what draining all that was taken gives, by the framing that is
known at the end. -/
theorem emitted_run (origin : Origin) (ops : List Op) :
    emitted (origin.demux.run ops) =
      ((origin.demux.run ops).1.framing.drain
        (taken ops (origin.demux.run ops).2)).packets := by
  have hstate := run_eq_append_taken origin.failed_demux origin.settled_demux ops
  have hpackets := (append_eq_drained origin.failed_demux
    (taken ops (origin.demux.run ops).2)).1
  rw [← hstate, origin.queue_demux, origin.buffer_demux, List.nil_append, List.nil_append]
    at hpackets
  exact hpackets

/-- Byte conservation. The bytes that were taken are the packets of the history, each in its
envelope, and what is buffered behind them. While the framing is not known there are no packets.
The lengths of frames fit the prefixes that the envelopes write them in. -/
theorem envelopes_emitted_append_buffer (origin : Origin) (ops : List Op) :
    let outcome := origin.demux.run ops
    taken ops outcome.2 = outcome.1.framing.envelopes (emitted outcome) ++ outcome.1.buffer ∧
      (outcome.1.framing = .undecided →
        emitted outcome = [] ∧ outcome.1.buffer = taken ops outcome.2) ∧
      (outcome.1.framing = .direct →
        ∀ packet ∈ emitted outcome, 20 ≤ packet.data.length ∧ packet.data.length ≤ 65535) := by
  intro outcome
  have hstate := run_eq_append_taken origin.failed_demux origin.settled_demux ops
  have hheld := held_append origin.failed_demux origin.queue_demux (taken ops outcome.2)
  rw [← hstate, origin.held_demux, List.nil_append] at hheld
  have hemitted := emitted_run origin ops
  refine ⟨hheld.symm, ?_, ?_⟩
  · intro hundecided
    rw [hundecided, Framing.drain_undecided] at hemitted
    refine ⟨hemitted, ?_⟩
    rw [held] at hheld
    simp only [hemitted, Framing.envelopes_nil, List.nil_append] at hheld
    exact hheld
  · intro hdirect packet hmem
    rw [hemitted, hdirect] at hmem
    exact Framing.length_of_mem_drain_direct hmem

end Demux

/-! ## Packets are well-formed

The messages of a bare stream fill whole words, hence each of them begins and ends at a multiple of
four octets of the stream.
-/

theorem length_flatMap_data_mod_four {packets : List Packet}
    (h : ∀ packet ∈ packets, packet.data.length % 4 = 0) :
    (packets.flatMap Packet.data).length % 4 = 0 := by
  induction packets with
  | nil => rfl
  | cons packet packets ih =>
    have hfirst := h packet List.mem_cons_self
    have hlater := ih fun later hmem => h later (List.mem_cons_of_mem _ hmem)
    rw [List.flatMap_cons, List.length_append]
    omega

namespace Demux

/-- Every packet that a history gives, taken or not, is well-formed by the framing of the stream;
while the framing is not known there is none. Any number of packets of a bare stream from the first
one on are a front of the stream that ends at a multiple of four octets. -/
theorem wellFormed_of_mem_emitted (origin : Origin) (ops : List Op) :
    let outcome := origin.demux.run ops
    (∀ packet ∈ emitted outcome, packet.WellFormed outcome.1.framing) ∧
      (outcome.1.framing = .relay →
        ∀ front, front <+: emitted outcome →
          front.flatMap Packet.data <+: fed ops ∧ (front.flatMap Packet.data).length % 4 = 0) := by
  intro outcome
  have hwell : ∀ packet ∈ emitted outcome, packet.WellFormed outcome.1.framing := by
    intro packet hmem
    rw [emitted_run origin ops] at hmem
    exact Framing.wellFormed_of_mem_drain hmem
  refine ⟨hwell, ?_⟩
  intro hrelay front hfront
  constructor
  · have hdecided : outcome.1.framing ≠ .undecided := by
      rw [hrelay]
      exact Framing.noConfusion
    obtain ⟨hemitted, -, -⟩ := observed_run_of_decided origin hdecided
    rw [show (origin.demux.run ops).1.framing = .relay from hrelay] at hemitted
    -- The packets lie on the stream as they are, one behind the other.
    have hstream : (emitted outcome).flatMap Packet.data <+: fed ops := by
      have hparts := Framing.envelopes_append_rest .relay (fed ops)
      rw [← hemitted] at hparts
      exact ⟨_, hparts⟩
    obtain ⟨behind, hall⟩ := hfront
    rw [← hall, List.flatMap_append] at hstream
    exact (List.prefix_append _ _).trans hstream
  · apply length_flatMap_data_mod_four
    intro packet hmem
    have hrelayed := hwell packet (hfront.subset hmem)
    rw [hrelay] at hrelayed
    exact hrelayed.2

/-- A padded message is whole on a bare stream, and two of them end at an octet that is a multiple
of four. A payload that declares one octet more than it has is given by a frame, and tells no
channel. -/
theorem wellFormed_of_mem_emitted_overlong :
    let padded : Packet := ⟨.channelData, [0x40, 0x01, 0x00, 0x01, 0xAA, 0x00, 0x00, 0x00]⟩
    let binding : Packet :=
      ⟨.stun, [0x00, 0x01, 0x00, 0x00, 0x21, 0x12, 0xA4, 0x42] ++ List.replicate 12 0x07⟩
    let overlong : Packet := ⟨.channelData, [0x40, 0x01, 0x00, 0x11] ++ List.replicate 16 0x00⟩
    let relayed := (Demux.withFraming .relay).run
      [.append (padded.data.take 5), .append (padded.data.drop 5 ++ binding.data), .pop]
    let framed := (Demux.withFraming .direct).run [.append [0x00, 0x14], .append overlong.data]
    emitted relayed = [padded, binding] ∧ padded.WellFormed .relay ∧
      ([padded, binding].flatMap Packet.data).length % 4 = 0 ∧
      emitted framed = [overlong] ∧ overlong.WellFormed .direct ∧ overlong.channelNumber = none := by
  intro padded binding overlong relayed framed
  have hrelayed : emitted relayed = [padded, binding] := by decide +kernel
  have hframed : emitted framed = [overlong] := by decide +kernel
  obtain ⟨hwhole, hfronts⟩ := wellFormed_of_mem_emitted (.withFraming .relay)
    [.append (padded.data.take 5), .append (padded.data.drop 5 ++ binding.data), .pop]
  have hrelay : relayed.1.framing = .relay := by decide +kernel
  have hdirect : framed.1.framing = .direct := by decide +kernel
  have hpadded : padded ∈ emitted relayed := by
    rw [hrelayed]
    exact List.mem_cons_self
  have hfirst : padded.WellFormed relayed.1.framing := hwhole padded hpadded
  rw [hrelay] at hfirst
  obtain ⟨-, hwords⟩ := hfronts hrelay [padded, binding] ⟨[], hrelayed.symm⟩
  have hoverlong : overlong ∈ emitted framed := by
    rw [hframed]
    exact List.mem_cons_self
  have hpayload : overlong.WellFormed framed.1.framing :=
    (wellFormed_of_mem_emitted (.withFraming .direct)
      [.append [0x00, 0x14], .append overlong.data]).1 overlong hoverlong
  rw [hdirect] at hpayload
  exact ⟨hrelayed, hfirst, hwords, hframed, hpayload, by decide⟩

end Demux

end IceTcp
