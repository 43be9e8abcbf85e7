import IceTcp.Proofs.Demux.Capacity
import IceTcp.Proofs.Demux.Streaming
import IceTcp.Proofs.Framing.BareStream
import IceTcp.Proofs.Framing.FrameStream
import IceTcp.Proofs.Framing.Progress

/-!
# What an append may leave and what it may give

What a sound stream leaves in the buffer is all but the last byte of a message at most, and before
the framing is known one byte less than the threshold. Each framing has its longest message, and
each of the three bounds is reached, whatever the policy. The messages that an append cuts off are
bounded by the bytes that are in the buffer when it starts.

Main results:

* `Demux.append_of_incomplete`: all but the last byte of a message stay in the buffer, and with the
  last one nothing does.
* `Demux.length_buffer_run_le_remainder`: the bounds for what is left, and streams that reach them.
* `Demux.cuts_bounded`: progress, the end, the bounds for what is given, and streams that reach
  them.
-/

namespace IceTcp

/-! ## The largest remainder of each framing -/

/-- The longest frame but for its last byte. -/
def longestFrame : Bytes := [0xFF, 0xFF] ++ List.replicate 65534 0

theorem length_longestFrame : longestFrame.length = 65536 := by
  rw [longestFrame, List.length_append, List.length_replicate]
  rfl

theorem exists_cut_longestFrame :
    ∃ packet, Framing.direct.cut (longestFrame ++ [0]) = .packet packet [] := by
  have hlength : (List.replicate 65535 (0 : UInt8)).length = 65535 := List.length_replicate
  have hminimum : 20 ≤ (List.replicate 65535 (0 : UInt8)).length := by omega
  let payload : Payload := ⟨List.replicate 65535 0, hminimum, Nat.le_of_eq hlength⟩
  have hframe : longestFrame ++ [0] = payload.frame := by
    rw [Payload.frame, hlength, longestFrame, List.append_assoc, ← List.replicate_succ']
    rfl
  have hcut := payload.cutFrame_frame_append []
  rw [List.append_nil, ← hframe] at hcut
  exact ⟨_, hcut⟩

namespace Demux

/-- A stream that shows its framing and goes on, behind whole messages, with all but the last byte
of another one leaves these in the buffer; the last byte leaves nothing. -/
theorem append_of_incomplete {policy : Policy} {framing : Framing} {record : Record}
    {front part : Bytes} {packets : List Packet} {last : UInt8} {packet : Packet}
    (hdecision : policy.decision (front ++ part) = .framed framing record)
    (hfront : framing.drain (front ++ part) =
      { framing.drain part with packets := packets ++ (framing.drain part).packets })
    (hlast : framing.cut (part ++ [last]) = .packet packet []) :
    let after := ((Demux.withPolicy policy).append (front ++ part)).1
    after.failed = false ∧ after.framing = framing ∧ after.buffer = part ∧
      (after.append [last]).1.buffer = [] := by
  intro after
  have hframing := Policy.framing_ne_undecided hdecision
  have hafter : after = (Demux.withPolicy policy).drained framing (front ++ part) :=
    fst_append_of_framed rfl rfl hdecision
  rw [Framing.drain_of_wait (Framing.cut_eq_wait_of_last hlast)] at hfront
  have hfailed : after.failed = false := by
    simp only [hafter, drained, hfront, Option.isSome_none]
  have hbuffer : after.buffer = part := by
    simp only [hafter, drained, hfront]
  have hknown : after.framing = framing := by
    rw [hafter]
    rfl
  refine ⟨hfailed, hknown, hbuffer, ?_⟩
  have hempty : framing.cut [] = .wait := by
    cases framing <;> rfl
  rw [← hknown] at hframing
  rw [fst_append_of_decided hfailed hframing]
  simp only [drained, hknown, hbuffer, Framing.drain_of_packet hlast,
    Framing.drain_of_wait hempty]

/-- Whatever the policy, some stream leaves as much as its framing allows; where the framing is
known, that is a message which one more byte completes. -/
theorem exists_length_eq_remainder (policy : Policy) (framing : Framing) :
    ∃ bytes,
      let after := ((Demux.withPolicy policy).append bytes).1
      after.failed = false ∧ after.framing = framing ∧
        after.buffer.length = policy.remainder framing ∧
        (framing ≠ .undecided → ∃ last, (after.append [last]).1.buffer = []) := by
  cases framing with
  | undecided =>
    refine ⟨obscure policy, ?_⟩
    rw [fst_append_of_wait rfl rfl (decision_obscure policy)]
    exact ⟨rfl, rfl, length_obscure policy, fun h => absurd rfl h⟩
  | relay =>
    obtain ⟨packet, hlast⟩ := exists_cut_longestStun
    have hnone : ∀ message ∈ ([] : List Bytes), IsBareMessage message := nofun
    have hfront := Framing.drain_flatten_append hnone (List.cons_ne_nil _ _ : longestStun ≠ [])
    have hdecision : policy.decision (([] : List Bytes).flatten ++ longestStun) =
        .framed .relay (.recognized .stun) := rfl
    obtain ⟨hsound, hknown, hbuffer, hempty⟩ := append_of_incomplete hdecision hfront hlast
    refine ⟨([] : List Bytes).flatten ++ longestStun, hsound, hknown, ?_, fun _ => ⟨0, hempty⟩⟩
    rw [hbuffer, length_longestStun]
    rfl
  | direct =>
    -- The longest frame shows no framing itself, so a short one goes in front of it.
    obtain ⟨packet, hlast⟩ := exists_cut_longestFrame
    have hshown : recognize (shortestPayload.frame ++ longestFrame) = some .frame := rfl
    have hdecision : policy.decision (shortestPayload.frame ++ longestFrame) =
        .framed .direct (.recognized .frame) := by
      rw [Policy.decision, hshown]
      rfl
    have hfront := Framing.drain_frames_append [shortestPayload] longestFrame
    rw [List.flatMap_singleton] at hfront
    obtain ⟨hsound, hknown, hbuffer, hempty⟩ := append_of_incomplete hdecision hfront hlast
    refine ⟨shortestPayload.frame ++ longestFrame, hsound, hknown, ?_, fun _ => ⟨0, hempty⟩⟩
    rw [hbuffer, length_longestFrame]
    rfl

/-- In any history, an append that is not refused leaves at most all but one byte of the longest
frame or of the longest bare message in the buffer, by the framing, and less than the threshold
while the framing is open; so it never leaves more than the capacity, however much is appended at
once. Under each policy and for each framing some stream reaches the bound. -/
theorem length_buffer_run_le_remainder :
    (∀ (origin : Origin) (ops : List Op) (bytes : Bytes),
      let policy := origin.demux.policy
      let after := ((origin.demux.run ops).1.append bytes).1
      after.failed = false →
        after.buffer.length ≤ policy.remainder after.framing ∧
          after.buffer.length ≤ policy.capacity) ∧
      ∀ (policy : Policy) (framing : Framing), ∃ bytes,
        let after := ((Demux.withPolicy policy).append bytes).1
        after.failed = false ∧ after.framing = framing ∧
          after.buffer.length = policy.remainder framing ∧
          (framing ≠ .undecided → ∃ last, (after.append [last]).1.buffer = []) := by
  refine ⟨?_, exists_length_eq_remainder⟩
  intro origin ops bytes policy after hsound
  have hopen : (origin.demux.run ops).1.failed = false := sound_of_append hsound
  have hpolicy : (origin.demux.run ops).1.policy = policy := policy_run origin.demux ops
  have hbound := length_buffer_append_le_remainder hopen hsound
  rw [hpolicy] at hbound
  exact ⟨hbound, Nat.le_trans hbound (policy.remainder_le_capacity _)⟩

/-- Three bytes that show no framing are held below a threshold of four, and no more can be. -/
theorem length_buffer_run_le_remainder_obscure :
    let policy := Policy.ofThreshold 4 .reject
    let after := (((Demux.withPolicy policy).run [.append [0x80], .pop]).1.append [0x81, 0x82]).1
    after.failed = false ∧ after.framing = .undecided ∧ after.buffer = [0x80, 0x81, 0x82] ∧
      after.buffer.length ≤ 3 := by
  intro policy after
  have hsound : after.failed = false := by decide
  have hundecided : after.framing = .undecided := by decide
  obtain ⟨hbound, -⟩ := length_buffer_run_le_remainder.1 (.withPolicy policy)
    [.append [0x80], .pop] [0x81, 0x82] hsound
  rw [show (((Origin.withPolicy policy).demux.run [.append [0x80], .pop]).1.append
    [0x81, 0x82]).1.framing = .undecided from hundecided] at hbound
  exact ⟨hsound, hundecided, by decide, hbound⟩

end Demux

/-! ## Every append ends and gives few packets

An append cuts messages off until none is left in front. Each of them takes bytes away for good, so
the append ends, and the packets that it gives are bounded by the bytes that are in the buffer when
it starts to cut them off.
-/

namespace Demux

theorem exists_queue_append_le (demux : Demux) (bytes : Bytes) :
    ∃ packets, (demux.append bytes).1.queue = demux.queue ++ packets ∧
      packets.length ≤
        (demux.append bytes).1.framing.mostPackets (demux.buffer ++ bytes).length := by
  cases hfailed : demux.failed with
  | true =>
    rw [append_of_failed hfailed]
    exact ⟨[], (List.append_nil _).symm, Nat.zero_le _⟩
  | false =>
    have hcuts := (demux.append bytes).1.framing.cuts_drain (demux.buffer ++ bytes)
    exact ⟨_, (append_eq_drained hfailed bytes).1, hcuts.length_le⟩

/-- The loop that cuts messages off makes progress and ends. A message that is cut off takes at
least the shortest message's length from the front and gives one packet, in front of those that the
rest gives. Messages that are cut off one after the other are no more than the length of the buffer
allows; draining cuts off such a sequence, behind which there is no further message. So an append
gives no more packets than the bytes allow that are in the buffer when it starts to cut off. Some
stream of each length gives as many in one append, and every number of packets is the greatest for
some length. -/
theorem cuts_bounded :
    (∀ (framing : Framing) (bytes rest : Bytes) (packet : Packet),
      framing.cut bytes = .packet packet rest →
        (∃ removed, bytes = removed ++ rest ∧ framing.leastSize ≤ removed.length) ∧
          (framing.drain bytes).packets = packet :: (framing.drain rest).packets) ∧
      (∀ (framing : Framing) (bytes : Bytes),
        (∀ packets rest, framing.Cuts bytes packets rest →
          packets.length ≤ framing.mostPackets bytes.length) ∧
        framing.Cuts bytes (framing.drain bytes).packets (framing.drain bytes).rest ∧
        ∀ packet behind, framing.cut (framing.drain bytes).rest ≠ .packet packet behind) ∧
      (∀ (demux : Demux) (bytes : Bytes),
        let after := (demux.append bytes).1
        ∃ packets, after.queue = demux.queue ++ packets ∧
          packets.length ≤ after.framing.mostPackets (demux.buffer ++ bytes).length) ∧
      ∀ framing : Framing, framing ≠ .undecided →
        (∀ length, ∃ stream : Bytes, stream.length = length ∧
          let after := ((Demux.withFraming framing).append stream).1
          after.failed = false ∧ after.queue.length = framing.mostPackets length) ∧
        ∀ count, ∃ length, framing.mostPackets length = count := by
  refine ⟨?_, ?_, exists_queue_append_le, ?_⟩
  · intro framing bytes rest packet hcut
    refine ⟨Framing.exists_removed_of_cut hcut, ?_⟩
    rw [Framing.drain_of_packet hcut]
  · intro framing bytes
    exact ⟨fun packets rest hcuts => hcuts.length_le, framing.cuts_drain bytes,
      framing.cut_rest_ne_packet bytes⟩
  · intro framing hframing
    refine ⟨fun length => ?_, Framing.exists_mostPackets_eq hframing⟩
    obtain ⟨hcount, hsound⟩ := Framing.drain_busiest hframing length
    refine ⟨framing.busiest length, Framing.length_busiest hframing length, ?_⟩
    have hafter : ((Demux.withFraming framing).append (framing.busiest length)).1 =
        (Demux.withFraming framing).drained framing (framing.busiest length) :=
      fst_append_of_decided rfl hframing _
    rw [hafter]
    simp only [drained, hsound, withFraming, List.nil_append]
    exact ⟨rfl, hcount⟩

end Demux

end IceTcp
