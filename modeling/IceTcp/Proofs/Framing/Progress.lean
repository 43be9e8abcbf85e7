import IceTcp.Proofs.Framing.BareStream
import IceTcp.Proofs.Framing.FrameStream

/-!
# Cutting off makes progress

Every message that is cut off takes at least as many bytes from the front of the buffer as the
shortest one of its framing has: a frame of a STUN header, or a ChannelData message without data. So
the number of messages in a buffer is bounded by its length. A bare message is looked at once more
than four bytes have arrived, so the last four of them count for nothing. A stream of shortest
messages reaches the bound, whatever its length.

Main results:

* `Framing.exists_removed_of_cut`: what one message takes.
* `Framing.Cuts.length_le`: how many messages can be cut off one after the other.
* `Framing.cuts_drain`, `Framing.cut_rest_ne_packet`: draining cuts off as many as there are.
* `Framing.drain_busiest`: streams that reach the bound.
-/

namespace IceTcp.Framing

/-- The length of the shortest message on a stream of this framing. -/
def leastSize : Framing → Nat
  | .undecided => 0
  | .relay => 4
  | .direct => 22

/-- The greatest number of messages that can be cut off a buffer of this length. -/
def mostPackets : Framing → Nat → Nat
  | .undecided, _ => 0
  | .relay, length => (length - 1) / 4
  | .direct, length => length / 22

/-! ## One message -/

/-- A message that is cut off takes at least as many bytes from the front as the shortest one
has. -/
theorem exists_removed_of_cut {framing : Framing} {bytes rest : Bytes} {packet : Packet}
    (h : framing.cut bytes = .packet packet rest) :
    ∃ removed, bytes = removed ++ rest ∧ framing.leastSize ≤ removed.length := by
  refine ⟨framing.envelope packet, (envelope_append_of_cut h).symm, ?_⟩
  cases framing with
  | undecided => cases h
  | relay => exact (isBareMessage_of_cutMessage h).1.four_le_length
  | direct =>
    obtain ⟨-, -, -, -, -, hminimum⟩ := eq_of_cutFrame h
    show 22 ≤ (toBe16 packet.data.length ++ packet.data).length
    rw [List.length_append, length_toBe16]
    omega

theorem mostPackets_lt_of_cut {framing : Framing} {bytes rest : Bytes} {packet : Packet}
    (h : framing.cut bytes = .packet packet rest) :
    framing.mostPackets rest.length < framing.mostPackets bytes.length := by
  obtain ⟨removed, hbytes, hleast⟩ := exists_removed_of_cut h
  have hlength := congrArg List.length hbytes
  rw [List.length_append] at hlength
  cases framing with
  | undecided => cases h
  | relay =>
    have hguard : ¬ bytes.length ≤ 4 := not_length_le_of_cutMessage fun hwait => by
      rw [show cutMessage bytes = .packet packet rest from h] at hwait
      cases hwait
    simp only [leastSize, mostPackets] at hleast ⊢
    omega
  | direct =>
    simp only [leastSize, mostPackets] at hleast ⊢
    omega

/-! ## Message after message -/

/-- Messages that can be cut off a buffer one after the other, and what remains behind them. -/
inductive Cuts (framing : Framing) : Bytes → List Packet → Bytes → Prop
  | nil (bytes : Bytes) : Cuts framing bytes [] bytes
  | cons {bytes behind rest : Bytes} {packet : Packet} {packets : List Packet}
      (hcut : framing.cut bytes = .packet packet behind) (hlater : Cuts framing behind packets rest) :
      Cuts framing bytes (packet :: packets) rest

/-- No more messages can be cut off one after the other than the length of the buffer allows. -/
theorem Cuts.length_le {framing : Framing} {bytes rest : Bytes} {packets : List Packet}
    (h : framing.Cuts bytes packets rest) : packets.length ≤ framing.mostPackets bytes.length := by
  -- The number of messages that the length allows is the measure: every cut lowers it.
  induction h with
  | nil bytes => exact Nat.zero_le _
  | cons hcut _ ih => exact Nat.lt_of_le_of_lt ih (mostPackets_lt_of_cut hcut)

/-- Draining cuts messages off one after the other. -/
theorem cuts_drain (framing : Framing) (bytes : Bytes) :
    framing.Cuts bytes (framing.drain bytes).packets (framing.drain bytes).rest := by
  induction bytes using Framing.drain.induct framing with
  | case1 bytes packet rest hcut ih =>
    rw [drain_of_packet hcut]
    exact .cons hcut ih
  | case2 bytes hcut =>
    rw [drain_of_wait hcut]
    exact .nil bytes
  | case3 bytes fault hcut =>
    rw [drain_of_malformed hcut]
    exact .nil bytes

/-- Draining stops only where no further message can be cut off. -/
theorem cut_rest_ne_packet (framing : Framing) (bytes : Bytes) (packet : Packet) (behind : Bytes) :
    framing.cut (framing.drain bytes).rest ≠ .packet packet behind := by
  rw [cut_rest_drain, Drained.verdict]
  split <;> exact Cut.noConfusion

/-! ## Streams of shortest messages -/

/-- The shortest message on a stream of this framing: a ChannelData message without data, or the
frame of a payload as short as can be. -/
def shortest : Framing → Bytes
  | .undecided => []
  | .relay => [0x40, 0x00, 0x00, 0x00]
  | .direct => shortestPayload.frame

theorem length_shortest (framing : Framing) : framing.shortest.length = framing.leastSize := by
  cases framing <;> rfl

/-- A stream of a given length that holds as many messages as it can: shortest ones, and as many
bytes of another one as are left. -/
def busiest (framing : Framing) (length : Nat) : Bytes :=
  (List.replicate (framing.mostPackets length) framing.shortest).flatten ++
    framing.shortest.take (length - framing.mostPackets length * framing.leastSize)

theorem sub_mostPackets_le {framing : Framing} (hframing : framing ≠ .undecided) (length : Nat) :
    framing.mostPackets length * framing.leastSize ≤ length ∧
      length - framing.mostPackets length * framing.leastSize ≤ framing.leastSize := by
  cases framing with
  | undecided => exact absurd rfl hframing
  | relay | direct =>
    simp only [mostPackets, leastSize]
    omega

theorem length_busiest {framing : Framing} (hframing : framing ≠ .undecided) (length : Nat) :
    (framing.busiest length).length = length := by
  obtain ⟨hmessages, hleft⟩ := sub_mostPackets_le hframing length
  rw [busiest, List.length_append, List.length_flatten, List.map_replicate, List.sum_replicate_nat,
    List.length_take, length_shortest, Nat.min_eq_left hleft]
  omega

/-- A stream of shortest messages gives all of them, and nothing is at fault. -/
theorem drain_busiest {framing : Framing} (hframing : framing ≠ .undecided) (length : Nat) :
    (framing.drain (framing.busiest length)).packets.length = framing.mostPackets length ∧
      (framing.drain (framing.busiest length)).fault = none := by
  cases framing with
  | undecided => exact absurd rfl hframing
  | direct =>
    have hmessages : (List.replicate (length / 22) shortestPayload.frame).flatten =
        (List.replicate (length / 22) shortestPayload).flatMap Payload.frame := by
      rw [List.flatMap_def, List.map_replicate]
    have hcut : Framing.direct.cut (shortestPayload.frame ++ []) = .packet shortestPayload.packet [] :=
      shortestPayload.cutFrame_frame_append []
    have hwait : Framing.direct.cut (shortestPayload.frame.take (length - length / 22 * 22)) =
        .wait := by
      refine cut_eq_wait_of_isPrefix hcut (List.take_prefix _ _) ?_
      intro hwhole
      have hframe : shortestPayload.frame.length = 22 := length_shortest .direct
      have hlength := congrArg List.length hwhole
      rw [List.length_take, hframe] at hlength
      omega
    simp only [busiest, shortest, mostPackets, leastSize]
    rw [hmessages, drain_frames_append, drain_of_wait hwait, List.append_nil, List.length_map,
      List.length_replicate]
    exact ⟨rfl, rfl⟩
  | relay =>
    have hwait : Framing.relay.cut
        (([0x40, 0x00, 0x00, 0x00] : Bytes).take (length - (length - 1) / 4 * 4)) = .wait := by
      apply cutMessage_of_length_le
      rw [List.length_take]
      exact Nat.min_le_right _ _
    have hbare : ∀ message ∈ List.replicate ((length - 1) / 4) [0x40, 0x00, 0x00, 0x00],
        IsBareMessage message := by
      intro message hmem
      rw [List.eq_of_mem_replicate hmem]
      exact .channelData (by decide) (by decide) rfl
    simp only [busiest, shortest, mostPackets, leastSize]
    rcases Nat.eq_zero_or_pos length with rfl | hpos
    · have hempty : Framing.relay.drain [] = ⟨[], [], none⟩ := drain_of_wait rfl
      show (Framing.relay.drain []).packets.length = 0 ∧ (Framing.relay.drain []).fault = none
      rw [hempty]
      exact ⟨rfl, rfl⟩
    · -- The last message waits, or a part of one does.
      have hrest : ([0x40, 0x00, 0x00, 0x00] : Bytes).take (length - (length - 1) / 4 * 4) ≠ [] := by
        rw [← List.length_pos_iff, List.length_take]
        simp only [List.length_cons, List.length_nil]
        omega
      rw [drain_flatten_append hbare hrest, drain_of_wait hwait, List.append_nil, List.length_map,
        List.length_replicate]
      exact ⟨rfl, rfl⟩

theorem exists_mostPackets_eq {framing : Framing} (hframing : framing ≠ .undecided) (count : Nat) :
    ∃ length, framing.mostPackets length = count := by
  cases framing with
  | undecided => exact absurd rfl hframing
  | relay =>
    refine ⟨4 * count + 1, ?_⟩
    simp only [mostPackets]
    omega
  | direct =>
    refine ⟨22 * count, ?_⟩
    simp only [mostPackets]
    omega

end IceTcp.Framing
