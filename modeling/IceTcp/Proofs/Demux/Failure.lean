import IceTcp.Proofs.Demux.Fragmentation
import IceTcp.Proofs.Framing.BareStream
import IceTcp.Proofs.Framing.FrameStream

/-!
# What a failure leaves behind

An append is refused because the stream goes on with something that no message can start with, or
because its first bytes show no framing and the policy gives it up. The messages in front have been
cut off, all of them, and the malformed one has not been touched. From then on nothing changes but
that packets are taken.

Main results:

* `Demux.breaks_of_append`: what an append of a whole stream leaves that is refused.
* `Demux.run_of_first_refusal`: what the first append that is refused leaves in any history, and
  what happens from then on.
-/

namespace IceTcp

/-- How a stream breaks off: by its framing, what has been given of it, and the rest, which starts
with what is malformed. -/
inductive Breaks (policy : Policy) : Framing → Bytes → List Packet → Bytes → Prop
  /-- Behind some frames there is a length that is too small for one. -/
  | direct {payloads : List Payload} {rest : Bytes} (hrest : IsUndersized rest) :
      Breaks policy .direct (payloads.flatMap Payload.frame ++ rest) (payloads.map Payload.packet)
        rest
  /-- Behind some messages there is what no message can start with. -/
  | relay {messages : List Bytes} {rest : Bytes}
      (hbare : ∀ message ∈ messages, IsBareMessage message) (hrest : IsDead rest) :
      Breaks policy .relay (messages.flatten ++ rest) (messages.map .ofPayload) rest
  /-- The stream has reached the threshold and shows no framing, and the policy rejects it. -/
  | undecided {stream : Bytes} (hshown : recognize stream = none)
      (hlength : policy.threshold ≤ stream.length) (hreject : policy.fallback = .reject) :
      Breaks policy .undecided stream [] stream

theorem Framing.breaks_of_fault (policy : Policy) {framing : Framing} {bytes : Bytes}
    {fault : Fault} (hframing : framing ≠ .undecided)
    (h : (framing.drain bytes).fault = some fault) :
    Breaks policy framing bytes (framing.drain bytes).packets (framing.drain bytes).rest := by
  cases framing with
  | undecided => exact absurd rfl hframing
  | relay =>
    obtain ⟨messages, hbare, hpackets, hbytes, hdead⟩ := exists_messages_of_fault h
    have hbreaks : Breaks policy .relay _ _ _ := .relay hbare hdead
    rw [hbytes, ← hpackets] at hbreaks
    exact hbreaks
  | direct =>
    obtain ⟨payloads, -, hpackets, hbytes, hfault⟩ := exists_isLongestFrames bytes
    have hundersized := hfault.mp (Option.isSome_iff_exists.mpr ⟨fault, h⟩)
    have hbreaks : Breaks policy .direct (payloads.flatMap Payload.frame ++ _) _ _ :=
      .direct hundersized
    rw [hbytes, ← hpackets] at hbreaks
    exact hbreaks

namespace Demux

/-- An append of a whole stream that is refused leaves the messages in front of what is malformed in
the queue, and the rest in the buffer. -/
theorem breaks_of_append (origin : Origin) {stream : Bytes}
    (h : (origin.demux.append stream).1.failed = true) :
    let after := (origin.demux.append stream).1
    Breaks origin.demux.policy after.framing stream after.queue after.buffer := by
  intro after
  have hopen := origin.failed_demux
  by_cases hdecided : after.framing = .undecided
  · obtain ⟨hframing, hdecision⟩ := decision_of_undecided hopen hdecided
    rw [h, if_pos rfl] at hdecision
    have hafter : after =
        { origin.demux with buffer := origin.demux.buffer ++ stream, failed := true } :=
      fst_append_of_reject hopen hframing hdecision
    obtain ⟨hshown, hlength, hreject⟩ := Policy.eq_reject_of_decision hdecision
    rw [origin.buffer_demux, List.nil_append] at hafter hshown hlength
    rw [hdecided, hafter]
    simp only [origin.queue_demux]
    exact .undecided hshown hlength hreject
  · have hafter : after = origin.demux.drained after.framing (origin.demux.buffer ++ stream) :=
      append_eq_drained_of_decided hopen hdecided
    rw [origin.buffer_demux, List.nil_append] at hafter
    have hfailed : (origin.demux.drained after.framing stream).failed = true := by
      rw [← hafter]
      exact h
    obtain ⟨fault, hfault⟩ := Option.isSome_iff_exists.mp hfailed
    have hbreaks := Framing.breaks_of_fault origin.demux.policy hdecided hfault
    have hqueue : after.queue = (after.framing.drain stream).packets := by
      rw [hafter, drained, origin.queue_demux]
      rfl
    have hbuffer : after.buffer = (after.framing.drain stream).rest := congrArg Demux.buffer hafter
    rw [hqueue, hbuffer]
    exact hbreaks

/-- When an append is refused for the first time, the packets of the history so far are the messages
in front of what is malformed, and the buffer starts with it. From then on every append is refused
and records nothing, the state changes in nothing but that packets leave the queue, and these are
the packets that wait, in order and each once. -/
theorem run_of_first_refusal (origin : Origin) {ops : List Op} {bytes : Bytes}
    (hsound : refused (origin.demux.run ops).2 = false)
    (hrefused : ((origin.demux.run ops).1.append bytes).1.failed = true) (later : List Op) :
    let before := origin.demux.run ops
    let after := (before.1.append bytes).1
    let outcome := after.run later
    Breaks origin.demux.policy after.framing (fed ops ++ bytes) (delivered before.2 ++ after.queue)
        after.buffer ∧
      outcome.1 = { after with queue := after.queue.drop (later.count .pop) } ∧
      delivered outcome.2 = after.queue.take (later.count .pop) ∧
      ∀ more result, (Op.append more, result) ∈ later.zip outcome.2 →
        result = .appended false [] := by
  intro before after outcome
  refine ⟨?_, run_of_failed_eq hrefused later⟩
  have hwhole := append_run_eq_append_fed origin.failed_demux origin.settled_demux hsound bytes
  have hfailed : (origin.demux.append (fed ops ++ bytes)).1.failed = true := by
    rw [← hwhole]
    exact hrefused
  have hbreaks := breaks_of_append origin hfailed
  rw [← hwhole] at hbreaks
  exact hbreaks

/-- Behind one frame there is a length of five. The frame is given after the failure, once, and
nothing is recorded of the bytes that are still appended. -/
theorem run_of_first_refusal_undersized :
    let ops : List Op := [.append [0x00, 0x14], .append (List.replicate 19 0x01), .pop]
    let later : List Op := [.append [0x00], .pop, .append [0x14, 0x02], .pop]
    let before := (Demux.withFraming .direct).run ops
    let after := (before.1.append [0x01, 0x00, 0x05, 0x40]).1
    let outcome := after.run later
    refused before.2 = false ∧ after.failed = true ∧
      Breaks .standard .direct (fed ops ++ [0x01, 0x00, 0x05, 0x40])
        [⟨.stun, List.replicate 20 0x01⟩] [0x00, 0x05, 0x40] ∧
      delivered outcome.2 = [⟨.stun, List.replicate 20 0x01⟩] ∧
      outcome.1 = { after with queue := [] } := by
  intro ops later before after outcome
  have hsound : refused before.2 = false := by decide +kernel
  have hrefused : after.failed = true := by decide +kernel
  have hafter : after = ⟨.standard, .direct, [0x00, 0x05, 0x40],
      [⟨.stun, List.replicate 20 0x01⟩], true⟩ := by decide +kernel
  have hdelivered : delivered before.2 = [] := by decide +kernel
  obtain ⟨hbreaks, hstate, htaken, -⟩ :=
    run_of_first_refusal (.withFraming .direct) hsound hrefused later
  have hgiven : Breaks .standard after.framing (fed ops ++ [0x01, 0x00, 0x05, 0x40])
      (delivered before.2 ++ after.queue) after.buffer := hbreaks
  have hlater : delivered outcome.2 = after.queue.take 2 := htaken
  have hleft : outcome.1 = { after with queue := after.queue.drop 2 } := hstate
  rw [hdelivered, hafter] at hgiven
  rw [hafter] at hlater hleft
  refine ⟨hsound, hrefused, hgiven, hlater, ?_⟩
  rw [hleft, hafter]
  rfl

end Demux

end IceTcp
