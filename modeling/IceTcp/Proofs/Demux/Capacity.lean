import IceTcp.Proofs.Demux.Emitted
import IceTcp.Proofs.Framing.BareMessage

/-!
# How much a demultiplexer holds back

The bytes that stay in the buffer of a sound stream are the front of one message, or they do not
suffice to decide on the framing. The longest such front belongs to a STUN message: its length field
counts whole words, so the message has up to 65552 bytes, and one less may stay. A frame has up to
65537 bytes and a padded ChannelData message up to 65540.

A stream that shows no packet and no fault holds everything back, and so does each front of it. This
is how the bound is reached.

Main results:

* `Demux.length_buffer_append_le_remainder`: what stays after an append, by the framing.
* `Demux.length_buffer_append_le`: what stays after an append, whatever the framing.
* `Demux.append_of_silent`: a silent stream was silent all along.
* `Demux.silent_append_longestStun`, `Demux.silent_append_obscure`: two streams that stay silent for
  as long as possible.
-/

namespace IceTcp

/-! ## One message -/

theorem length_lt_of_cutFrame_eq_wait {bytes : Bytes} (h : cutFrame bytes = .wait) :
    bytes.length < 65537 := by
  match bytes with
  | [] | [_] =>
    simp only [List.length_nil, List.length_cons]
    omega
  | high :: low :: rest =>
    have hlt := be16_lt high low
    simp only [cutFrame] at h
    split at h
    · cases h
    · split at h
      · simp only [List.length_cons]
        omega
      · cases h

theorem length_lt_of_cutProbed_eq_wait {kind : MessageKind} {probe : Probe} {fault : Fault}
    {bytes : Bytes} (h : cutProbed kind probe fault bytes = .wait) :
    probe = .notEnough ∨ ∃ size, probe = .complete size ∧ bytes.length < size := by
  cases probe with
  | complete size =>
    simp only [cutProbed] at h
    split at h
    · rename_i hlt
      exact .inr ⟨size, rfl, hlt⟩
    · cases h
  | notEnough => exact .inl rfl
  | invalid => cases h

theorem length_lt_of_cutMessage_eq_wait {bytes : Bytes} (h : cutMessage bytes = .wait) :
    bytes.length < 65552 := by
  by_cases hlength : bytes.length ≤ minimumPacketHeader
  · simp only [minimumPacketHeader] at hlength
    omega
  · cases bytes with
    | nil => exact Nat.zero_lt_succ _
    | cons first rest =>
      rw [cutMessage_of_length_gt hlength] at h
      cases hkind : MessageKind.ofByte first with
      | stun =>
        rw [hkind] at h
        rcases length_lt_of_cutProbed_eq_wait h with hprobe | ⟨size, hprobe, hlt⟩
        · have hlt := Stun.length_lt_of_probe_eq_notEnough hprobe
          omega
        · -- A multiple of four below 65556 is at most 65552.
          have hsize := Stun.size_of_probe hprobe
          omega
      | channelData =>
        rw [hkind] at h
        rcases length_lt_of_cutProbed_eq_wait h with hprobe | ⟨size, hprobe, hlt⟩
        · have hlt := ChannelData.length_lt_of_probe_eq_notEnough hprobe
          omega
        · have hsize := ChannelData.size_of_probe hprobe
          omega
      | unknown =>
        rw [hkind] at h
        cases h

/-! ## After an append -/

/-- The greatest number of bytes that a sound stream can leave in the buffer, by its framing: all
but one of the longest message, or of the bytes that a decision on the framing takes. -/
def Policy.remainder (policy : Policy) : Framing → Nat
  | .undecided => policy.threshold - 1
  | .relay => 65551
  | .direct => 65536

/-- The greatest number of bytes that a sound stream can leave in the buffer. -/
def Policy.capacity (policy : Policy) : Nat := max 65551 (policy.threshold - 1)

theorem Policy.remainder_le_capacity (policy : Policy) (framing : Framing) :
    policy.remainder framing ≤ policy.capacity := by
  cases framing with
  | undecided => exact Nat.le_max_right _ _
  | relay => exact Nat.le_max_left _ _
  | direct =>
    have hshorter : 65536 ≤ 65551 := by decide
    exact Nat.le_trans hshorter (Nat.le_max_left _ _)

theorem Policy.length_le_remainder_of_wait (policy : Policy) {framing : Framing}
    (hframing : framing ≠ .undecided) {bytes : Bytes} (h : framing.cut bytes = .wait) :
    bytes.length ≤ policy.remainder framing := by
  cases framing with
  | undecided => exact absurd rfl hframing
  | relay => exact Nat.le_of_lt_succ (length_lt_of_cutMessage_eq_wait h)
  | direct => exact Nat.le_of_lt_succ (length_lt_of_cutFrame_eq_wait h)

namespace Demux

/-- An append to a stream that stays sound leaves less than a message, or too little to decide. -/
theorem length_buffer_append_le_remainder {demux : Demux} {bytes : Bytes}
    (hopen : demux.failed = false) (h : (demux.append bytes).1.failed = false) :
    (demux.append bytes).1.buffer.length ≤
      demux.policy.remainder (demux.append bytes).1.framing := by
  by_cases hdecided : (demux.append bytes).1.framing = .undecided
  · obtain ⟨hframing, hdecision⟩ := decision_of_undecided hopen hdecided
    rw [h] at hdecision
    rw [hdecided, fst_append_of_wait hopen hframing hdecision]
    exact Nat.le_pred_of_lt (Policy.length_lt_of_decision_eq_wait hdecision)
  · have hstate := append_eq_drained_of_decided hopen hdecided
    generalize (demux.append bytes).1.framing = framing at hstate hdecided ⊢
    rw [hstate] at h ⊢
    have hsound : (framing.drain (demux.buffer ++ bytes)).fault = none :=
      Option.not_isSome_iff_eq_none.mp (Bool.eq_false_iff.mp h)
    exact demux.policy.length_le_remainder_of_wait hdecided (Framing.cut_rest_of_sound hsound)

/-- An append to a stream that stays sound leaves no more than the capacity of its policy. -/
theorem length_buffer_append_le {demux : Demux} {bytes : Bytes} (hopen : demux.failed = false)
    (h : (demux.append bytes).1.failed = false) :
    (demux.append bytes).1.buffer.length ≤ demux.policy.capacity :=
  Nat.le_trans (length_buffer_append_le_remainder hopen h)
    (demux.policy.remainder_le_capacity _)

theorem policy_append (demux : Demux) (bytes : Bytes) :
    (demux.append bytes).1.policy = demux.policy := by
  cases hfailed : demux.failed with
  | true => rw [append_of_failed hfailed]
  | false =>
    rw [append_eq hfailed]
    split
    · split <;> rfl
    · rfl

theorem policy_run (demux : Demux) (ops : List Op) : (demux.run ops).1.policy = demux.policy := by
  induction ops generalizing demux with
  | nil => rfl
  | cons op ops ih =>
    have hstep : (demux.step op).1.policy = demux.policy := by
      cases op with
      | append bytes => exact policy_append demux bytes
      | pop => rfl
    exact (ih (demux.step op).1).trans hstep

/-! ## Streams that stay silent -/

/-- No packet waits and nothing was malformed. -/
structure Silent (demux : Demux) : Prop where
  sound : demux.failed = false
  emptied : demux.queue = []

theorem silent_withPolicy (policy : Policy) : (Demux.withPolicy policy).Silent := ⟨rfl, rfl⟩

theorem Silent.with_queue_nil {demux : Demux} (h : demux.Silent) :
    { demux with queue := [] } = demux := by
  rw [← h.emptied]

theorem held_of_silent {demux : Demux} (h : demux.Silent) : demux.held = demux.buffer := by
  rw [held, h.emptied, Framing.envelopes_nil, List.nil_append]

/-- A stream that is silent in the end was silent before, and all of it is in the buffer. -/
theorem append_of_silent {demux : Demux} (hsilent : demux.Silent) {first second : Bytes}
    (h : (demux.append (first ++ second)).1.Silent) :
    (demux.append first).1.Silent ∧ (demux.append first).1.buffer = demux.buffer ++ first := by
  cases hfailed : (demux.append first).1.failed with
  | true =>
    rw [append_append_of_failed hsilent.sound hfailed] at h
    exact absurd (hfailed.symm.trans h.sound) Bool.noConfusion
  | false =>
    have hfirst : (demux.append first).1.Silent := by
      obtain ⟨packets, hqueue⟩ := queue_append (demux.append first).1 second
      rw [append_append hsilent.sound hfailed, h.emptied] at hqueue
      exact ⟨hfailed, (List.append_eq_nil_iff.mp hqueue.symm).1⟩
    have hheld := held_append hsilent.sound hsilent.emptied first
    rw [held_of_silent hfirst, held_of_silent hsilent] at hheld
    exact ⟨hfirst, hheld⟩

/-- The longest STUN message but for its last byte. -/
def longestStun : Bytes :=
  [0x01, 0x01, 0xFF, 0xFC, 0x21, 0x12, 0xA4, 0x42] ++ List.replicate 65543 0

theorem length_longestStun : longestStun.length = 65551 := by
  rw [longestStun, List.length_append, List.length_replicate]
  rfl

theorem exists_cut_longestStun :
    ∃ packet, Framing.relay.cut (longestStun ++ [0]) = .packet packet [] := by
  have hbare : IsBareMessage (longestStun ++ [0]) := by
    rw [longestStun, List.append_assoc]
    simp only [List.cons_append, List.nil_append]
    refine .stun (by decide) (by decide) ?_
    rw [List.length_append, List.length_replicate]
    rfl
  have hlength : 4 < ((longestStun ++ [0]) ++ []).length := by
    rw [List.append_nil, List.length_append, length_longestStun]
    omega
  have hcut := cutMessage_append_of_isBareMessage hbare hlength
  rw [List.append_nil] at hcut
  exact ⟨_, hcut⟩

/-- A STUN message is not told from its front until it is there as a whole. -/
theorem silent_append_longestStun (policy : Policy) :
    ((Demux.withPolicy policy).append longestStun).1.Silent := by
  have hdecision : policy.decision longestStun = .framed .relay (.recognized .stun) := rfl
  obtain ⟨packet, hlast⟩ := exists_cut_longestStun
  have hcut : Framing.relay.cut longestStun = .wait := Framing.cut_eq_wait_of_last hlast
  rw [fst_append_of_framed rfl rfl hdecision]
  have hdrain : Framing.relay.drain ([] ++ longestStun) = ⟨[], longestStun, none⟩ :=
    Framing.drain_of_wait hcut
  constructor
  · simp only [drained, Demux.withPolicy, hdrain, Option.isSome_none]
  · simp only [drained, Demux.withPolicy, hdrain, List.append_nil]

/-- As many bytes that show no framing as stay below a threshold. -/
def obscure (policy : Policy) : Bytes := List.replicate (policy.threshold - 1) 0x80

theorem recognize_replicate (count : Nat) :
    recognize (List.replicate count 0x80) = none := by
  match count with
  | 0 | 1 => rfl
  | count + 2 =>
    rw [List.replicate_succ, List.replicate_succ]
    rfl

theorem length_obscure (policy : Policy) : (obscure policy).length = policy.threshold - 1 :=
  List.length_replicate

/-- What shows no framing is not decided on before the threshold. -/
theorem decision_obscure (policy : Policy) : policy.decision (obscure policy) = .wait := by
  have hthreshold := policy.three_le_threshold
  have hlength : (obscure policy).length < policy.threshold := by
    rw [length_obscure]
    omega
  rw [Policy.decision, obscure, recognize_replicate]
  exact if_pos hlength

theorem silent_append_obscure (policy : Policy) :
    ((Demux.withPolicy policy).append (obscure policy)).1.Silent := by
  rw [fst_append_of_wait rfl rfl (decision_obscure policy)]
  exact ⟨rfl, rfl⟩

/-- Some silent stream is as long as the capacity. -/
theorem exists_silent_length_eq_capacity (policy : Policy) :
    ∃ bytes, ((Demux.withPolicy policy).append bytes).1.Silent ∧
      bytes.length = policy.capacity := by
  rcases Nat.le_total (policy.threshold - 1) 65551 with hle | hle
  · refine ⟨longestStun, silent_append_longestStun policy, ?_⟩
    rw [length_longestStun, Policy.capacity, Nat.max_eq_left hle]
  · refine ⟨obscure policy, silent_append_obscure policy, ?_⟩
    rw [length_obscure, Policy.capacity, Nat.max_eq_right hle]

end Demux

end IceTcp
