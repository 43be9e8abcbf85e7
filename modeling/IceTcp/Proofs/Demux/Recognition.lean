import IceTcp.Proofs.Demux.Detection
import IceTcp.Proofs.Framing.BareStream
import IceTcp.Proofs.Framing.FrameStream

/-!
# Which honest streams are recognized

The first octets of a frame are a length, and the first octets of a bare message are a type. The
detector knows neither, so it takes some lengths for types and some types and lengths for those of a
frame. Which streams are read by the wrong framing depends on their first message only.

Main results:

* `Policy.framingOf_frame`, `Policy.framingOf_bareMessage`: the framing that is given to a stream
  with a frame in front, and to one with a bare message.
* `Payload.isDead_of_stun`: where the frame of a STUN message is taken for a bare message, it is not
  one.
* `Demux.framing_run_of_honest`: what this comes to after any history.
-/

namespace IceTcp

/-! ## Frames -/

theorem Payload.bytes_ne_nil (payload : Payload) : payload.bytes ≠ [] :=
  List.length_pos_iff.mp (Nat.lt_of_lt_of_le (by decide) payload.minimum_le)

/-- The first octet of a payload. -/
def Payload.first (payload : Payload) : UInt8 := payload.bytes.head payload.bytes_ne_nil

/-- A frame that is taken for one: its length fits one octet and the payload starts like a STUN
message, or the high octet of its length starts no bare message. -/
def Payload.IsRecognized (payload : Payload) : Prop :=
  (payload.bytes.length < 256 ∧ payload.first ≤ 0x03) ∨
    ¬ (payload.bytes.length / 256 ≤ 0x03 ∨
      (0x40 ≤ payload.bytes.length / 256 ∧ payload.bytes.length / 256 ≤ 0x4F))

instance (payload : Payload) : Decidable payload.IsRecognized :=
  inferInstanceAs (Decidable (_ ∨ ¬ _))

theorem Payload.exists_frame_eq (payload : Payload) :
    ∃ high low, payload.frame = high :: low :: payload.bytes ∧
      high.toNat = payload.bytes.length / 256 ∧ low.toNat = payload.bytes.length % 256 := by
  have hmaximum := payload.le_maximum
  refine ⟨UInt8.ofNat (payload.bytes.length / 256), UInt8.ofNat payload.bytes.length, rfl, ?_, ?_⟩
  · rw [UInt8.toNat_ofNat']
    omega
  · rw [UInt8.toNat_ofNat']

theorem Policy.framingOf_standard (first second third : UInt8) (rest : Bytes) :
    Policy.standard.framingOf (first :: second :: third :: rest) =
      if first = 0x00 ∧ 20 ≤ second ∧ third ≤ 0x03 then .direct
      else if first ≤ 0x03 ∨ (0x40 ≤ first ∧ first ≤ 0x4F) then .relay
      else .direct := by
  have hlength : ¬ (first :: second :: third :: rest).length < Policy.standard.threshold := by
    show ¬ rest.length + 3 < 3
    omega
  rw [framingOf, if_neg hlength]
  rfl

/-- The framing that the standard policy gives a stream with a frame in front. -/
theorem Policy.framingOf_frame {payload : Payload} {stream : Bytes}
    (h : payload.frame <+: stream) :
    Policy.standard.framingOf stream = if payload.IsRecognized then .direct else .relay := by
  obtain ⟨behind, rfl⟩ := h
  obtain ⟨high, low, hframe, hhigh, hlow⟩ := payload.exists_frame_eq
  have hminimum := payload.minimum_le
  have hbytes : payload.bytes = payload.first :: payload.bytes.tail :=
    (List.cons_head_tail payload.bytes_ne_nil).symm
  have hstart : payload.frame ++ behind =
      high :: low :: payload.first :: (payload.bytes.tail ++ behind) := by
    rw [hframe, hbytes]
    rfl
  -- What the detector asks of the octets, said of the length.
  have hzero : high = 0x00 ↔ payload.bytes.length < 256 := by
    rw [← UInt8.toNat_inj, hhigh, UInt8.toNat_zero]
    omega
  have hbare : (high ≤ 0x03 ∨ (0x40 ≤ high ∧ high ≤ 0x4F)) ↔
      (payload.bytes.length / 256 ≤ 0x03 ∨
        (0x40 ≤ payload.bytes.length / 256 ∧ payload.bytes.length / 256 ≤ 0x4F)) := by
    rw [← hhigh]
    exact Iff.rfl
  have hshown : (high = 0x00 ∧ 20 ≤ low ∧ payload.first ≤ 0x03) ↔
      (payload.bytes.length < 256 ∧ payload.first ≤ 0x03) := by
    rw [hzero]
    refine and_congr_right fun hshort => and_iff_right ?_
    show 20 ≤ low.toNat
    omega
  rw [hstart, framingOf_standard]
  simp only [hbare, hshown]
  by_cases hframed : payload.bytes.length < 256 ∧ payload.first ≤ 0x03
  · have hrecognized : payload.IsRecognized := .inl hframed
    rw [if_pos hframed, if_pos hrecognized]
  · rw [if_neg hframed]
    by_cases htype : payload.bytes.length / 256 ≤ 0x03 ∨
        (0x40 ≤ payload.bytes.length / 256 ∧ payload.bytes.length / 256 ≤ 0x4F)
    · have hmissed : ¬ payload.IsRecognized := not_or.mpr ⟨hframed, not_not_intro htype⟩
      rw [if_pos htype, if_neg hmissed]
    · have hrecognized : payload.IsRecognized := .inr htype
      rw [if_neg htype, if_pos hrecognized]

/-- A frame with a STUN message of less than 1024 octets is no bare message: its length starts like
a STUN type, but then the cookie is two octets late. -/
theorem Payload.isDead_of_stun {payload : Payload} {stream : Bytes} (h : payload.frame <+: stream)
    (hbare : IsBareMessage payload.bytes) (hstun : payload.first ≤ 0x03)
    (hlength : payload.bytes.length ≤ 1023) : IsDead stream := by
  obtain ⟨behind, rfl⟩ := h
  obtain ⟨high, low, hframe, hhigh, -⟩ := payload.exists_frame_eq
  have htype : high ≤ 0x03 := by
    show high.toNat ≤ 3
    omega
  rw [hframe]
  obtain ⟨bytes, hminimum, hmaximum⟩ := payload
  simp only at hbare hminimum ⊢
  cases hbare with
  | @stun type₀ type₁ length₀ length₁ body htype₀ hwords hsize =>
    simp only [List.cons_append]
    refine .header ?_ htype (.inl ?_)
    · simp only [List.length_cons, List.length_append] at hminimum ⊢
      omega
    · simp
  | @channelData number₀ number₁ length₀ length₁ body hfrom hto hsize =>
    exact absurd hfrom (not_channel_of_le_three hstun)

/-! ## Bare messages -/

/-- A message that is taken for a frame: a STUN message whose type has a zero octet and then one of
at least 20, as the length of a frame does, and whose body is shorter than 1024 octets. No
ChannelData message has such a type. -/
def LooksFramed : Bytes → Prop
  | type₀ :: type₁ :: length₀ :: length₁ :: _ =>
    0x0014 ≤ be16 type₀ type₁ ∧ be16 type₀ type₁ ≤ 0x00FF ∧ be16 length₀ length₁ < 1024
  | _ => False

instance : DecidablePred LooksFramed
  | _ :: _ :: _ :: _ :: _ => inferInstanceAs (Decidable (_ ∧ _ ∧ _))
  | [] | [_] | [_, _] | [_, _, _] => inferInstanceAs (Decidable False)

theorem looksFramed_iff (type₀ type₁ length₀ length₁ : UInt8) (rest : Bytes) :
    LooksFramed (type₀ :: type₁ :: length₀ :: length₁ :: rest) ↔
      type₀ = 0x00 ∧ 20 ≤ type₁ ∧ length₀ ≤ 0x03 := by
  have hfrom : 20 ≤ type₁ ↔ 20 ≤ type₁.toNat := Iff.rfl
  have hshort : length₀ ≤ 0x03 ↔ length₀.toNat ≤ 3 := Iff.rfl
  have htype := type₁.toNat_lt
  have hlength := length₁.toNat_lt
  rw [hfrom, hshort, ← UInt8.toNat_inj, UInt8.toNat_zero]
  simp only [LooksFramed, be16]
  omega

/-- The framing that any policy gives a stream with a bare message in front. -/
theorem Policy.framingOf_bareMessage (policy : Policy) {message stream : Bytes}
    (hbare : IsBareMessage message) (h : message <+: stream) :
    policy.framingOf stream = if LooksFramed message then .direct else .relay := by
  obtain ⟨behind, rfl⟩ := h
  cases hbare with
  | @stun type₀ type₁ length₀ length₁ rest htype hwords hsize =>
    simp only [List.cons_append, framingOf]
    by_cases hframed : type₀ = 0x00 ∧ 20 ≤ type₁ ∧ length₀ ≤ 0x03
    · rw [if_pos hframed, if_pos ((looksFramed_iff ..).mpr hframed)]
    · rw [if_neg hframed, if_pos (.inl htype), if_neg fun h => hframed ((looksFramed_iff ..).mp h)]
  | @channelData number₀ number₁ length₀ length₁ rest hfrom hto hsize =>
    have hne : number₀ ≠ 0x00 := by
      rintro rfl
      cases hfrom
    simp only [List.cons_append, framingOf, looksFramed_iff]
    rw [if_neg fun hframed => hne hframed.1, if_pos (.inr ⟨hfrom, hto⟩),
      if_neg fun hframed => hne hframed.1]

namespace Demux

/-! ## After a history -/

theorem refused_run_of_isDead (origin : Origin) {ops : List Op}
    (hrelay : (origin.demux.run ops).1.framing = .relay) (hdead : IsDead (fed ops)) :
    let outcome := origin.demux.run ops
    refused outcome.2 = true ∧ emitted outcome = [] := by
  intro outcome
  have hdecided : outcome.1.framing ≠ .undecided := by
    rw [show outcome.1.framing = .relay from hrelay]
    exact Framing.noConfusion
  obtain ⟨hemitted, hrefused, -⟩ := observed_run_of_decided origin hdecided
  have hnone : ∀ message ∈ ([] : List Bytes), IsBareMessage message := nofun
  obtain ⟨fault, hdrain⟩ := Framing.drain_of_isDead hnone hdead
  rw [List.flatten_nil, List.nil_append] at hdrain
  rw [hrelay, hdrain] at hemitted hrefused
  exact ⟨hrefused, hemitted⟩

/-- Which honest streams are read by their own framing. By the standard policy a stream with a frame
in front is, if the frame is recognized, and is read as a bare stream if it is not; a STUN message
of 256 to 1023 octets in such a frame is then refused, with nothing given. By any policy a stream
with a bare message in front, be it alone or the first of several, is read as a bare stream unless
the message looks framed. -/
theorem framing_run_of_honest :
    (∀ (payload : Payload) (ops : List Op), payload.frame <+: fed ops →
      let outcome := (Demux.withPolicy .standard).run ops
      outcome.1.framing = (if payload.IsRecognized then .direct else .relay) ∧
        (IsBareMessage payload.bytes → payload.first ≤ 0x03 → 256 ≤ payload.bytes.length →
          payload.bytes.length ≤ 1023 → refused outcome.2 = true ∧ emitted outcome = [])) ∧
      ∀ (policy : Policy) (message : Bytes) (ops : List Op), IsBareMessage message →
        message <+: fed ops →
        ((Demux.withPolicy policy).run ops).1.framing =
          (if LooksFramed message then .direct else .relay) := by
  constructor
  · intro payload ops hframe outcome
    have hframing : outcome.1.framing = if payload.IsRecognized then .direct else .relay :=
      (framing_run_withPolicy .standard ops).trans (Policy.framingOf_frame hframe)
    refine ⟨hframing, ?_⟩
    intro hbare hstun hlong hshort
    have hmissed : ¬ payload.IsRecognized := by
      rintro (⟨hoctet, -⟩ | htype)
      · omega
      · exact htype (.inl (by omega))
    rw [if_neg hmissed] at hframing
    have hdead := Payload.isDead_of_stun hframe hbare hstun hshort
    exact refused_run_of_isDead .plain hframing hdead
  · intro policy message ops hbare hmessage
    rw [framing_run_withPolicy, policy.framingOf_bareMessage hbare hmessage]

/-- A Binding request of 256 octets in a frame is refused, and a Send indication without a body is
taken for a frame. -/
theorem framing_run_of_honest_misread :
    let request : Payload :=
      ⟨[0x00, 0x01, 0x00, 0xEC, 0x21, 0x12, 0xA4, 0x42] ++ List.replicate 248 0x00,
        by decide +kernel, by decide +kernel⟩
    let asked := (Demux.withPolicy .standard).run
      [.append [0x01], .append [0x00, 0x00], .pop, .append (request.frame.drop 3)]
    let indication : Bytes :=
      [0x00, 0x16, 0x00, 0x00, 0x21, 0x12, 0xA4, 0x42] ++ List.replicate 12 0x00
    let sent := (Demux.withPolicy (.ofThreshold 100 .reject)).run
      [.append (indication.take 2), .append (indication.drop 2)]
    asked.1.framing = .relay ∧ refused asked.2 = true ∧ emitted asked = [] ∧
      sent.1.framing = .direct := by
  intro request asked indication sent
  have hrequest : IsBareMessage request.bytes :=
    .stun (by decide) (by decide) List.length_replicate
  have hindication : IsBareMessage indication := .stun (by decide) (by decide) (by decide)
  obtain ⟨hframes, hmessages⟩ := framing_run_of_honest
  obtain ⟨hframing, hmisread⟩ := hframes request
    [.append [0x01], .append [0x00, 0x00], .pop, .append (request.frame.drop 3)]
    ⟨[], by decide +kernel⟩
  have hmissed : ¬ request.IsRecognized := by decide +kernel
  have hlooks : LooksFramed indication := by decide
  rw [if_neg hmissed] at hframing
  obtain ⟨hrefused, hemitted⟩ :=
    hmisread hrequest (by decide) (by decide +kernel) (by decide +kernel)
  have hsent := hmessages (.ofThreshold 100 .reject) indication
    [.append (indication.take 2), .append (indication.drop 2)] hindication ⟨[], by decide +kernel⟩
  rw [if_pos hlooks] at hsent
  exact ⟨hframing, hrefused, hemitted, hsent⟩

end Demux

end IceTcp
