import IceTcp.Proofs.Framing.Envelope

/-!
# The language of a framed stream

A framed stream is a sequence of frames: two octets of length and as many octets of payload, at
least as many as a STUN header has. `Payload.frame` writes a payload so, and `IsUndersized` says
when no frame can follow; neither of them mentions how frames are cut off.

Main results:

* `Payload.cutFrame_frame_append`, `exists_payload_of_cutFrame`: a frame is cut off exactly when one
  is in front.
* `exists_cutFrame_eq_malformed_iff`: an attempt finds a fault exactly where the front is
  undersized.
* `Framing.exists_isLongestFrames`: what is cut off of any stream.
* `Framing.drain_of_isPrefix_frames`: what is cut off of a part of a stream of frames.
-/

namespace IceTcp

/-- What a frame can carry: at least a STUN header, and no more than the length prefix can say. -/
@[ext] structure Payload where
  bytes : Bytes
  minimum_le : 20 ≤ bytes.length
  le_maximum : bytes.length ≤ 65535
  deriving DecidableEq, Repr

/-- A payload as short as can be, which starts like a STUN message. -/
def shortestPayload : Payload := ⟨List.replicate 20 0, by decide, by decide⟩

/-- The frame of a payload, as it lies on the stream. -/
def Payload.frame (payload : Payload) : Bytes := toBe16 payload.bytes.length ++ payload.bytes

/-- The packet that a payload makes, of the kind that its first octet tells. -/
def Payload.packet (payload : Payload) : Packet :=
  ⟨MessageKind.identify payload.bytes, payload.bytes⟩

/-- The front of a framed stream that no frame can start with: the length in it is too small. -/
inductive IsUndersized : Bytes → Prop
  | header {high low : UInt8} {rest : Bytes} (hlength : be16 high low < 20) :
      IsUndersized (high :: low :: rest)

/-- The longest sequence of frames that a stream starts with, told by their payloads. -/
structure IsLongestFrames (stream : Bytes) (payloads : List Payload) : Prop where
  isPrefix : payloads.flatMap Payload.frame <+: stream
  /-- Any other such sequence is the front of this one. -/
  longest : ∀ others : List Payload, others.flatMap Payload.frame <+: stream → others <+: payloads

/-! ## One frame -/

/-- A frame in front is cut off. -/
theorem Payload.cutFrame_frame_append (payload : Payload) (rest : Bytes) :
    cutFrame (payload.frame ++ rest) = .packet payload.packet rest := by
  obtain ⟨bytes, hminimum, hmaximum⟩ := payload
  have hlength := be16_toBe16 (n := bytes.length) (by omega)
  have hshort : ¬ bytes.length < minimumFrameSize := Nat.not_lt.mpr hminimum
  have hlong : ¬ (bytes ++ rest).length < bytes.length := by
    rw [List.length_append]
    omega
  show cutFrame
    (UInt8.ofNat (bytes.length / 256) :: UInt8.ofNat bytes.length :: (bytes ++ rest)) = _
  unfold cutFrame
  simp only [hlength]
  rw [if_neg hshort, if_neg hlong, List.take_left, List.drop_left]
  rfl

/-- What is cut off is a frame. -/
theorem exists_payload_of_cutFrame {bytes rest : Bytes} {packet : Packet}
    (h : cutFrame bytes = .packet packet rest) :
    ∃ payload : Payload, packet = payload.packet ∧ bytes = payload.frame ++ rest := by
  obtain ⟨high, low, rfl, hpacket, hlength, hminimum⟩ := eq_of_cutFrame h
  have hlt := be16_lt high low
  have hmaximum : packet.data.length ≤ 65535 := by omega
  refine ⟨⟨packet.data, hminimum, hmaximum⟩, hpacket, ?_⟩
  show high :: low :: (packet.data ++ rest) = toBe16 packet.data.length ++ packet.data ++ rest
  rw [hlength, toBe16_be16]
  rfl

/-- An attempt finds a fault exactly where the front is undersized. -/
theorem exists_cutFrame_eq_malformed_iff {bytes : Bytes} :
    (∃ fault, cutFrame bytes = .malformed fault) ↔ IsUndersized bytes := by
  constructor
  · rintro ⟨fault, h⟩
    match bytes with
    | [] | [_] => cases h
    | high :: low :: rest =>
      unfold cutFrame at h
      simp only at h
      split at h
      · rename_i hlength
        exact .header hlength
      · split at h <;> cases h
  · rintro ⟨hlength⟩
    exact ⟨_, if_pos hlength⟩

theorem Payload.eq_of_frame_append_eq {first second : Payload} {more later : Bytes}
    (h : first.frame ++ more = second.frame ++ later) : first = second := by
  have hfirst := first.cutFrame_frame_append more
  rw [h, second.cutFrame_frame_append later] at hfirst
  apply Payload.ext
  exact (congrArg Packet.data (Cut.packet.inj hfirst).1).symm

/-! ## Draining -/

theorem Framing.drain_frames_append (payloads : List Payload) (rest : Bytes) :
    Framing.direct.drain (payloads.flatMap Payload.frame ++ rest) =
      { Framing.direct.drain rest with
        packets := payloads.map Payload.packet ++ (Framing.direct.drain rest).packets } :=
  drain_flatMap_append fun payload _ behind _ => payload.cutFrame_frame_append behind

theorem Framing.exists_payloads_drain (bytes : Bytes) :
    ∃ payloads : List Payload, (Framing.direct.drain bytes).packets = payloads.map Payload.packet ∧
      payloads.flatMap Payload.frame ++ (Framing.direct.drain bytes).rest = bytes := by
  induction bytes using Framing.drain.induct Framing.direct with
  | case1 bytes packet rest hcut ih =>
    obtain ⟨payloads, hpackets, hbytes⟩ := ih
    obtain ⟨payload, rfl, rfl⟩ := exists_payload_of_cutFrame hcut
    refine ⟨payload :: payloads, ?_, ?_⟩
    · rw [drain_of_packet hcut, hpackets]
      rfl
    · rw [drain_of_packet hcut, List.flatMap_cons, List.append_assoc, hbytes]
  | case2 bytes hcut =>
    rw [drain_of_wait hcut]
    exact ⟨[], rfl, rfl⟩
  | case3 bytes fault hcut =>
    rw [drain_of_malformed hcut]
    exact ⟨[], rfl, rfl⟩

theorem Framing.not_frame_isPrefix_rest (bytes : Bytes) (payload : Payload) :
    ¬ payload.frame <+: (Framing.direct.drain bytes).rest := by
  rintro ⟨behind, hbehind⟩
  have hcut := cut_rest_drain .direct bytes
  rw [← hbehind] at hcut
  have hframe : Framing.direct.cut (payload.frame ++ behind) = .packet payload.packet behind :=
    payload.cutFrame_frame_append behind
  rw [hframe] at hcut
  unfold Drained.verdict at hcut
  split at hcut <;> cases hcut

/-- What is cut off of any stream are the frames of the longest sequence that it starts with; the
rest is undersized if it is at fault, and else not. -/
theorem Framing.exists_isLongestFrames (bytes : Bytes) :
    ∃ payloads, IsLongestFrames bytes payloads ∧
      (Framing.direct.drain bytes).packets = payloads.map Payload.packet ∧
      payloads.flatMap Payload.frame ++ (Framing.direct.drain bytes).rest = bytes ∧
      ((Framing.direct.drain bytes).fault.isSome = true ↔
        IsUndersized (Framing.direct.drain bytes).rest) := by
  obtain ⟨payloads, hpackets, hbytes⟩ := exists_payloads_drain bytes
  refine ⟨payloads, ⟨⟨_, hbytes⟩, ?_⟩, hpackets, hbytes, ?_⟩
  · intro others hothers
    have hgood (messages : List Payload) : ∀ message ∈ messages, True := fun _ _ => trivial
    rw [← hbytes] at hothers
    exact isPrefix_of_flatMap_isPrefix (fun _ _ _ _ _ _ h => Payload.eq_of_frame_append_eq h)
      (hgood payloads) (hgood others) (fun payload _ => not_frame_isPrefix_rest bytes payload)
      hothers
  · have hcut : cutFrame (Framing.direct.drain bytes).rest = (Framing.direct.drain bytes).verdict :=
      cut_rest_drain .direct bytes
    rw [← exists_cutFrame_eq_malformed_iff, hcut]
    unfold Drained.verdict
    cases (Framing.direct.drain bytes).fault with
    | none => exact ⟨Bool.noConfusion, fun ⟨_, h⟩ => Cut.noConfusion h⟩
    | some fault => exact ⟨fun _ => ⟨fault, rfl⟩, fun _ => rfl⟩

/-- Of a part of a stream of frames those are cut off that have arrived, and nothing is at fault. -/
theorem Framing.drain_of_isPrefix_frames {payloads : List Payload} {front : Bytes}
    (h : front <+: payloads.flatMap Payload.frame) :
    (Framing.direct.drain front).packets =
        (arrived Payload.frame front.length payloads).map Payload.packet ∧
      (Framing.direct.drain front).fault = none := by
  obtain ⟨part, hfront, hpart⟩ := exists_eq_flatMap_arrived_append h
  have hwait : Framing.direct.cut part = .wait := by
    rcases hpart with rfl | ⟨payload, hprefix, hne⟩
    · rfl
    · have hcut : Framing.direct.cut (payload.frame ++ []) = .packet payload.packet [] :=
        payload.cutFrame_frame_append []
      exact cut_eq_wait_of_isPrefix hcut hprefix hne
  have hdrain := drain_frames_append (arrived Payload.frame front.length payloads) part
  rw [← hfront, drain_of_wait hwait, List.append_nil] at hdrain
  rw [hdrain]
  exact ⟨rfl, rfl⟩

end IceTcp
