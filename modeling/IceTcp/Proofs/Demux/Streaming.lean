import IceTcp.Demux
import IceTcp.Proofs.Framing.Streaming

/-!
# A demultiplexer whose stream arrives in parts

What a demultiplexer makes of a stream does not depend on how the stream is cut into appends. The
framing is decided on bytes that later ones cannot change, and the buffer may be drained in two
goes. Only a failure tells parts from the whole: bytes that arrive after it are not taken.

Main results:

* `Policy.retold_decision_append`: a decision on the framing stays as it is.
* `Demux.append_eq`: what an append does.
* `Demux.append_append`: two appends to a stream that is still sound are one.
* `Demux.append_append_of_failed`: bytes behind a failure would have stayed in the buffer.
* `Demux.settled_append`: after an append there is nothing left to do without new bytes.
-/

namespace IceTcp

/-! ## The decision on the framing -/

theorem recognize_append_eq_none {bytes : Bytes} (hlength : 3 ≤ bytes.length)
    (h : recognize bytes = none) (more : Bytes) : recognize (bytes ++ more) = none := by
  rw [← recognize_take_three, List.take_append_of_le_length hlength, recognize_take_three]
  exact h

/-- The framing that a decision comes to, if it does. -/
def Decision.framing? : Decision → Option Framing
  | .framed framing _ => some framing
  | .wait | .reject => none

/-- The same record, told when so many bytes had arrived. -/
def Record.retold (arrived : Nat) : Record → Record
  | .recognized evidence => .recognized evidence
  | .assumedDirect _ => .assumedDirect arrived
  | .assumedRelay _ => .assumedRelay arrived
  | .undetected _ => .undetected arrived
  | .frame length kind => .frame length kind
  | .fault cause => .fault cause

/-- The same decision, told when so many bytes had arrived. -/
def Decision.retold (arrived : Nat) : Decision → Decision
  | .wait => .wait
  | .framed framing record => .framed framing (record.retold arrived)
  | .reject => .reject

/-- Once a decision has been taken, more bytes bring about the same one. Only the number of bytes
that a record of a fallback tells may grow, and then the threshold had been reached before. -/
theorem Policy.retold_decision_append {policy : Policy} {buffer : Bytes} {arrived : Nat}
    (h : policy.decision buffer ≠ .wait)
    (harrived : policy.threshold ≤ buffer.length → arrived = buffer.length) (more : Bytes) :
    (policy.decision (buffer ++ more)).retold arrived = policy.decision buffer := by
  unfold decision at h ⊢
  cases hrecognize : recognize buffer with
  | some evidence =>
    rw [recognize_append hrecognize]
    rfl
  | none =>
    rw [hrecognize] at h
    have hlong : ¬ buffer.length < policy.threshold := fun hshort => h (if_pos hshort)
    have hmore : ¬ (buffer ++ more).length < policy.threshold := by
      rw [List.length_append]
      omega
    have hthree : 3 ≤ buffer.length := Nat.le_trans policy.three_le_threshold (Nat.not_lt.mp hlong)
    obtain rfl := harrived (Nat.not_lt.mp hlong)
    rw [recognize_append_eq_none hthree hrecognize]
    simp only [if_neg hlong, if_neg hmore]
    cases policy.fallback <;> rfl

theorem Policy.decision_append_of_framed {policy : Policy} {buffer : Bytes} {framing : Framing}
    {record : Record} (h : policy.decision buffer = .framed framing record) (more : Bytes) :
    ∃ later, policy.decision (buffer ++ more) = .framed framing later ∧
      ∀ arrived, (policy.threshold ≤ buffer.length → arrived = buffer.length) →
        later.retold arrived = record := by
  have hretold {arrived : Nat}
      (harrived : policy.threshold ≤ buffer.length → arrived = buffer.length) :=
    retold_decision_append (by rw [h]; exact Decision.noConfusion) harrived more
  rw [h] at hretold
  cases hmore : policy.decision (buffer ++ more) with
  | wait =>
    rw [hmore] at hretold
    cases hretold fun _ => rfl
  | framed other later =>
    rw [hmore] at hretold
    obtain ⟨rfl, -⟩ := Decision.framed.inj (hretold fun _ => rfl)
    exact ⟨later, rfl, fun arrived harrived => (Decision.framed.inj (hretold harrived)).2⟩
  | reject =>
    rw [hmore] at hretold
    cases hretold fun _ => rfl

theorem Policy.decision_append_of_reject {policy : Policy} {buffer : Bytes}
    (h : policy.decision buffer = .reject) (more : Bytes) :
    policy.decision (buffer ++ more) = .reject := by
  have hretold := retold_decision_append (by rw [h]; exact Decision.noConfusion) (fun _ => rfl) more
  rw [h] at hretold
  cases hmore : policy.decision (buffer ++ more) with
  | reject => rfl
  | wait | framed =>
    rw [hmore] at hretold
    cases hretold

theorem Policy.framing_ne_undecided {policy : Policy} {buffer : Bytes} {framing : Framing}
    {record : Record} (h : policy.decision buffer = .framed framing record) :
    framing ≠ .undecided := by
  unfold decision at h
  split at h
  · rename_i evidence _
    obtain ⟨rfl, -⟩ := Decision.framed.inj h
    exact evidence.framing_ne_undecided
  · split at h
    · cases h
    · split at h <;> cases h <;> exact Framing.noConfusion

theorem Policy.length_lt_of_decision_eq_wait {policy : Policy} {buffer : Bytes}
    (h : policy.decision buffer = .wait) : buffer.length < policy.threshold := by
  unfold decision at h
  split at h
  · cases h
  · split at h
    · assumption
    · split at h <;> cases h

theorem Policy.eq_reject_of_decision {policy : Policy} {buffer : Bytes}
    (h : policy.decision buffer = .reject) :
    recognize buffer = none ∧ policy.threshold ≤ buffer.length ∧ policy.fallback = .reject := by
  unfold decision at h
  split at h
  · cases h
  · rename_i hshown
    split at h
    · cases h
    · rename_i hlength
      refine ⟨hshown, Nat.le_of_not_lt hlength, ?_⟩
      split at h
      · cases h
      · cases h
      · assumption

/-! ## Records of a drain -/

/-- What is recorded of the packets of a stream: its frames, and nothing of bare messages. -/
def Framing.frameRecords : Framing → List Packet → List Record
  | .direct, packets => packets.map fun packet => .frame packet.data.length packet.kind
  | .relay, _ | .undecided, _ => []

/-- The records of a drain as its outcome tells them: one for each frame, and one for a fault. -/
def Drained.records (framing : Framing) (drained : Drained) : List Record :=
  framing.frameRecords drained.packets ++ (drained.fault.map Record.fault).toList

/-- The length that an attempt records is that of the payload which it has cut off. -/
theorem Cut.records_of_packet {framing : Framing} {buffer rest : Bytes} {packet : Packet}
    (h : framing.cut buffer = .packet packet rest) :
    Cut.records framing buffer (.packet packet rest) = framing.frameRecords [packet] := by
  cases framing with
  | undecided | relay => rfl
  | direct =>
    obtain ⟨high, low, rfl, -, hlength, -⟩ := eq_of_cutFrame h
    show [Record.frame (be16 high low) packet.kind] = [Record.frame packet.data.length packet.kind]
    rw [hlength]

theorem Framing.frameRecords_append (framing : Framing) (first second : List Packet) :
    framing.frameRecords (first ++ second) =
      framing.frameRecords first ++ framing.frameRecords second := by
  cases framing with
  | direct => exact List.map_append
  | relay | undecided => rfl

/-- What is recorded attempt by attempt is what the packets and the fault tell at the end. -/
theorem Framing.drainRecords_eq (framing : Framing) (buffer : Bytes) :
    framing.drainRecords buffer = (framing.drain buffer).records framing := by
  induction buffer using Framing.drain.induct framing with
  | case1 buffer packet rest hcut ih =>
    rw [drainRecords_of_packet hcut, drain_of_packet hcut, Cut.records_of_packet hcut, ih,
      Drained.records, Drained.records, ← List.append_assoc, ← frameRecords_append]
    rfl
  | case2 buffer hcut =>
    rw [drainRecords_of_wait hcut, drain_of_wait hcut]
    cases framing <;> rfl
  | case3 buffer fault hcut =>
    rw [drainRecords_of_malformed hcut, drain_of_malformed hcut]
    cases framing <;> rfl

/-! ## Two appends -/

namespace Demux

/-- The state of a demultiplexer of this framing that has drained a buffer. -/
def drained (demux : Demux) (framing : Framing) (buffer : Bytes) : Demux :=
  { demux with
    framing
    buffer := (framing.drain buffer).rest
    queue := demux.queue ++ (framing.drain buffer).packets
    failed := (framing.drain buffer).fault.isSome }

/-- What an append to an open stream does: it decides on the framing where that is open, and
drains. -/
theorem append_eq {demux : Demux} (hopen : demux.failed = false) (bytes : Bytes) :
    demux.append bytes =
      if demux.framing = .undecided then
        match demux.policy.decision (demux.buffer ++ bytes) with
        | .wait => ({ demux with buffer := demux.buffer ++ bytes }, [])
        | .framed framing record =>
          (demux.drained framing (demux.buffer ++ bytes),
            record :: (framing.drain (demux.buffer ++ bytes)).records framing)
        | .reject =>
          ({ demux with buffer := demux.buffer ++ bytes, failed := true },
            [.undetected (demux.buffer ++ bytes).length])
      else
        (demux.drained demux.framing (demux.buffer ++ bytes),
          (demux.framing.drain (demux.buffer ++ bytes)).records demux.framing) := by
  split
  · rename_i hframing
    rw [append_of_undecided hopen hframing]
    simp only [extract, Framing.drainRecords_eq]
    cases demux.policy.decision (demux.buffer ++ bytes) <;> rfl
  · rename_i hframing
    rw [append_of_decided hopen hframing, extract, Framing.drainRecords_eq]
    rfl

theorem append_eq_of_decided {demux : Demux} (hopen : demux.failed = false)
    (hframing : demux.framing ≠ .undecided) (bytes : Bytes) :
    demux.append bytes =
      (demux.drained demux.framing (demux.buffer ++ bytes),
        (demux.framing.drain (demux.buffer ++ bytes)).records demux.framing) := by
  rw [append_eq hopen, if_neg hframing]

theorem fst_append_of_decided {demux : Demux} (hopen : demux.failed = false)
    (hframing : demux.framing ≠ .undecided) (bytes : Bytes) :
    (demux.append bytes).1 = demux.drained demux.framing (demux.buffer ++ bytes) := by
  rw [append_eq_of_decided hopen hframing]

section

variable {demux : Demux} {bytes : Bytes} {framing : Framing} {record : Record}

theorem append_of_framed (hopen : demux.failed = false) (hframing : demux.framing = .undecided)
    (h : demux.policy.decision (demux.buffer ++ bytes) = .framed framing record) :
    demux.append bytes =
      (demux.drained framing (demux.buffer ++ bytes),
        record :: (framing.drain (demux.buffer ++ bytes)).records framing) := by
  rw [append_eq hopen, if_pos hframing, h]

theorem fst_append_of_framed (hopen : demux.failed = false) (hframing : demux.framing = .undecided)
    (h : demux.policy.decision (demux.buffer ++ bytes) = .framed framing record) :
    (demux.append bytes).1 = demux.drained framing (demux.buffer ++ bytes) := by
  rw [append_of_framed hopen hframing h]

theorem append_of_wait (hopen : demux.failed = false) (hframing : demux.framing = .undecided)
    (h : demux.policy.decision (demux.buffer ++ bytes) = .wait) :
    demux.append bytes = ({ demux with buffer := demux.buffer ++ bytes }, []) := by
  rw [append_eq hopen, if_pos hframing, h]

theorem fst_append_of_wait (hopen : demux.failed = false) (hframing : demux.framing = .undecided)
    (h : demux.policy.decision (demux.buffer ++ bytes) = .wait) :
    (demux.append bytes).1 = { demux with buffer := demux.buffer ++ bytes } := by
  rw [append_of_wait hopen hframing h]

theorem append_of_reject (hopen : demux.failed = false) (hframing : demux.framing = .undecided)
    (h : demux.policy.decision (demux.buffer ++ bytes) = .reject) :
    demux.append bytes =
      ({ demux with buffer := demux.buffer ++ bytes, failed := true },
        [.undetected (demux.buffer ++ bytes).length]) := by
  rw [append_eq hopen, if_pos hframing, h]

theorem fst_append_of_reject (hopen : demux.failed = false) (hframing : demux.framing = .undecided)
    (h : demux.policy.decision (demux.buffer ++ bytes) = .reject) :
    (demux.append bytes).1 = { demux with buffer := demux.buffer ++ bytes, failed := true } := by
  rw [append_of_reject hopen hframing h]

end

theorem append_eq_drained {demux : Demux} (hopen : demux.failed = false) (bytes : Bytes) :
    (demux.append bytes).1.queue =
        demux.queue ++ ((demux.append bytes).1.framing.drain (demux.buffer ++ bytes)).packets ∧
      (demux.append bytes).1.buffer =
        ((demux.append bytes).1.framing.drain (demux.buffer ++ bytes)).rest := by
  by_cases hframing : demux.framing = .undecided
  · cases hdecision : demux.policy.decision (demux.buffer ++ bytes) with
    | wait =>
      rw [fst_append_of_wait hopen hframing hdecision]
      simp only [hframing, Framing.drain_undecided, List.append_nil, and_self]
    | framed framing record =>
      rw [fst_append_of_framed hopen hframing hdecision]
      exact ⟨rfl, rfl⟩
    | reject =>
      rw [fst_append_of_reject hopen hframing hdecision]
      simp only [hframing, Framing.drain_undecided, List.append_nil, and_self]
  · rw [fst_append_of_decided hopen hframing]
    exact ⟨rfl, rfl⟩

theorem sound_of_append {demux : Demux} {bytes : Bytes} (h : (demux.append bytes).1.failed = false) :
    demux.failed = false := by
  cases hfailed : demux.failed with
  | false => rfl
  | true =>
    rw [append_of_failed hfailed, hfailed] at h
    cases h

theorem framing_append_of_decided {demux : Demux} (h : demux.framing ≠ .undecided) (bytes : Bytes) :
    (demux.append bytes).1.framing = demux.framing := by
  cases hfailed : demux.failed with
  | true => rw [append_of_failed hfailed]
  | false =>
    rw [fst_append_of_decided hfailed h]
    rfl

/-- Where the framing is still open after an append, the policy waits for more bytes, or rejects the
stream and the append has failed. -/
theorem decision_of_undecided {demux : Demux} {bytes : Bytes} (hopen : demux.failed = false)
    (h : (demux.append bytes).1.framing = .undecided) :
    demux.framing = .undecided ∧
      demux.policy.decision (demux.buffer ++ bytes) =
        if (demux.append bytes).1.failed then .reject else .wait := by
  by_cases hframing : demux.framing = .undecided
  · refine ⟨hframing, ?_⟩
    cases hdecision : demux.policy.decision (demux.buffer ++ bytes) with
    | wait =>
      rw [fst_append_of_wait hopen hframing hdecision, hopen]
      rfl
    | framed framing record =>
      rw [fst_append_of_framed hopen hframing hdecision] at h
      exact absurd h (Policy.framing_ne_undecided hdecision)
    | reject =>
      rw [fst_append_of_reject hopen hframing hdecision]
      rfl
  · rw [framing_append_of_decided hframing] at h
    exact absurd h hframing

/-- Where the framing is known after an append, the state is that of the drained buffer, whether the
framing was known before or not. -/
theorem append_eq_drained_of_decided {demux : Demux} {bytes : Bytes} (hopen : demux.failed = false)
    (h : (demux.append bytes).1.framing ≠ .undecided) :
    (demux.append bytes).1 =
      demux.drained (demux.append bytes).1.framing (demux.buffer ++ bytes) := by
  by_cases hframing : demux.framing = .undecided
  · cases hdecision : demux.policy.decision (demux.buffer ++ bytes) with
    | wait =>
      rw [fst_append_of_wait hopen hframing hdecision] at h
      exact absurd hframing h
    | framed framing record =>
      rw [fst_append_of_framed hopen hframing hdecision]
      rfl
    | reject =>
      rw [fst_append_of_reject hopen hframing hdecision] at h
      exact absurd hframing h
  · rw [fst_append_of_decided hopen hframing]
    rfl

theorem drained_drained {demux : Demux} {framing : Framing} {buffer : Bytes}
    (h : (demux.drained framing buffer).failed = false) (more : Bytes) :
    (demux.drained framing buffer).drained framing ((demux.drained framing buffer).buffer ++ more) =
      demux.drained framing (buffer ++ more) := by
  have hsound : (framing.drain buffer).fault = none := Option.not_isSome_iff_eq_none.mp
    (Bool.eq_false_iff.mp h)
  simp only [drained, Framing.drain_append_of_sound hsound, List.append_assoc]

theorem drained_append_of_failed {demux : Demux} {framing : Framing} {buffer : Bytes}
    (h : (demux.drained framing buffer).failed = true) (more : Bytes) :
    demux.drained framing (buffer ++ more) =
      { demux.drained framing buffer with
        buffer := (demux.drained framing buffer).buffer ++ more } := by
  obtain ⟨fault, hfault⟩ := Option.isSome_iff_exists.mp h
  simp only [drained, Framing.drain_append_of_fault hfault]

theorem append_append_of_wait {demux : Demux} {first : Bytes} (hopen : demux.failed = false)
    (hframing : demux.framing = .undecided)
    (h : demux.policy.decision (demux.buffer ++ first) = .wait) (second : Bytes) :
    (demux.append first).1.append second = demux.append (first ++ second) := by
  rw [fst_append_of_wait hopen hframing h]
  simp only [append, hopen, Bool.false_eq_true, if_false, List.append_assoc]

/-- Two appends to a stream that is still sound in between are one. -/
theorem append_append {demux : Demux} {first : Bytes} (hopen : demux.failed = false)
    (h : (demux.append first).1.failed = false) (second : Bytes) :
    ((demux.append first).1.append second).1 = (demux.append (first ++ second)).1 := by
  by_cases hframing : demux.framing = .undecided
  · cases hdecision : demux.policy.decision (demux.buffer ++ first) with
    | wait => rw [append_append_of_wait hopen hframing hdecision]
    | framed framing record =>
      obtain ⟨later, hlater, -⟩ := Policy.decision_append_of_framed hdecision second
      rw [List.append_assoc] at hlater
      rw [fst_append_of_framed hopen hframing hdecision] at h ⊢
      rw [fst_append_of_framed hopen hframing hlater,
        fst_append_of_decided h (Policy.framing_ne_undecided hdecision), ← List.append_assoc]
      exact drained_drained h second
    | reject =>
      rw [fst_append_of_reject hopen hframing hdecision] at h
      cases h
  · rw [fst_append_of_decided hopen hframing] at h ⊢
    rw [fst_append_of_decided h hframing, fst_append_of_decided hopen hframing, ← List.append_assoc]
    exact drained_drained h second

/-- Bytes that would have followed a failure within one append stay in the buffer. -/
theorem append_append_of_failed {demux : Demux} {first : Bytes} (hopen : demux.failed = false)
    (h : (demux.append first).1.failed = true) (second : Bytes) :
    (demux.append (first ++ second)).1 =
      { (demux.append first).1 with buffer := (demux.append first).1.buffer ++ second } := by
  by_cases hframing : demux.framing = .undecided
  · cases hdecision : demux.policy.decision (demux.buffer ++ first) with
    | wait =>
      rw [fst_append_of_wait hopen hframing hdecision, hopen] at h
      cases h
    | framed framing record =>
      obtain ⟨later, hlater, -⟩ := Policy.decision_append_of_framed hdecision second
      rw [List.append_assoc] at hlater
      rw [fst_append_of_framed hopen hframing hdecision] at h ⊢
      rw [fst_append_of_framed hopen hframing hlater, ← List.append_assoc]
      exact drained_append_of_failed h second
    | reject =>
      have hlater := Policy.decision_append_of_reject hdecision second
      rw [List.append_assoc] at hlater
      rw [fst_append_of_reject hopen hframing hdecision, fst_append_of_reject hopen hframing hlater,
        List.append_assoc]
  · rw [fst_append_of_decided hopen hframing] at h ⊢
    rw [fst_append_of_decided hopen hframing, ← List.append_assoc]
    exact drained_append_of_failed h second

/-! ## Nothing left to do -/

/-- There is nothing to do without new bytes. -/
def Settled (demux : Demux) : Prop := demux.append [] = (demux, [])

theorem settled_of_failed {demux : Demux} (h : demux.failed = true) : demux.Settled :=
  append_of_failed h []

theorem settled_of_wait {demux : Demux} (hopen : demux.failed = false)
    (hframing : demux.framing ≠ .undecided) (h : demux.framing.cut demux.buffer = .wait) :
    demux.Settled := by
  rw [Settled, append_of_decided hopen hframing]
  simp only [extract, List.append_nil, Framing.drain_of_wait h, Framing.drainRecords_of_wait h,
    Option.isSome_none, ← hopen]

theorem settled_drained {demux : Demux} {framing : Framing} {buffer : Bytes}
    (hframing : framing ≠ .undecided) : (demux.drained framing buffer).Settled := by
  cases hfault : (framing.drain buffer).fault with
  | some fault =>
    apply settled_of_failed
    simp only [drained, hfault, Option.isSome_some]
  | none =>
    refine settled_of_wait ?_ hframing (Framing.cut_rest_of_sound hfault)
    simp only [drained, hfault, Option.isSome_none]

/-- After an append there is nothing left to do without new bytes. -/
theorem settled_append (demux : Demux) (bytes : Bytes) : (demux.append bytes).1.Settled := by
  cases hfailed : demux.failed with
  | true =>
    rw [append_of_failed hfailed]
    exact settled_of_failed hfailed
  | false =>
    by_cases hframing : demux.framing = .undecided
    · cases hdecision : demux.policy.decision (demux.buffer ++ bytes) with
      | wait =>
        rw [fst_append_of_wait hfailed hframing hdecision]
        simp only [Settled, append, parse, hfailed, hframing, Bool.false_eq_true, if_false,
          List.append_nil, hdecision]
      | framed framing record =>
        rw [fst_append_of_framed hfailed hframing hdecision]
        exact settled_drained (Policy.framing_ne_undecided hdecision)
      | reject =>
        rw [fst_append_of_reject hfailed hframing hdecision]
        exact settled_of_failed rfl
    · rw [fst_append_of_decided hfailed hframing]
      exact settled_drained hframing

/-! ## Packets that already wait -/

theorem fst_append_queue (demux : Demux) (waiting : List Packet) (bytes : Bytes) :
    ({ demux with queue := waiting ++ demux.queue }.append bytes).1 =
      { (demux.append bytes).1 with queue := waiting ++ (demux.append bytes).1.queue } := by
  rw [append_eq_append_emptied, append_eq_append_emptied demux]
  simp only [List.append_assoc]

theorem settled_of_queue {demux : Demux} (h : demux.Settled) (queue : List Packet) :
    Settled { demux with queue } := by
  obtain ⟨policy, framing, buffer, waiting, failed⟩ := demux
  rw [Settled, append_eq_append_emptied] at h ⊢
  simp only at h ⊢
  generalize append ⟨policy, framing, buffer, [], failed⟩ [] = outcome at h ⊢
  obtain ⟨hafter, hrecords⟩ := Prod.mk.inj h
  obtain ⟨rfl, rfl, rfl, hqueue, rfl⟩ := Demux.mk.inj hafter
  rw [List.append_right_eq_self.mp hqueue, hrecords, List.append_nil]

end Demux

end IceTcp
