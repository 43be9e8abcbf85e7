import IceTcp.Config
import IceTcp.Proofs.Demux.Detection
import IceTcp.Proofs.Demux.Log

/-!
# Streams that no policy decides on

A stream that starts with an octet of STUN or of ChannelData shows its framing by the third byte,
and no policy falls back before the third byte. So two demultiplexers whose policies differ cannot
be told apart by such a stream, not even by what they do while one or two bytes have arrived.

Main results:

* `Policy.decision_of_recognizable`: the decision on such a stream, which names no policy.
* `Demux.step_policy`, `Demux.run_policy`: an operation and a history under another policy.
* `Demux.run_withPolicy_of_recognizable`: every policy has the same history, and the bytes decide.
-/

namespace IceTcp

/-! ## The decision -/

/-- A stream that is empty or starts with an octet of STUN or of ChannelData. -/
def Recognizable : Bytes → Prop
  | [] => True
  | first :: _ => first ≤ 0x03 ∨ (0x40 ≤ first ∧ first ≤ 0x4F)

theorem Recognizable.front {front rest : Bytes} (h : Recognizable (front ++ rest)) :
    Recognizable front := by
  cases front with
  | nil => trivial
  | cons first front => exact h

theorem Recognizable.length_lt {bytes : Bytes} (h : Recognizable bytes)
    (hnone : recognize bytes = none) : bytes.length < 3 := by
  match bytes with
  | [] | [_] | [_, _] => simp
  | first :: second :: third :: rest =>
    have hstart : first ≤ 0x03 ∨ (0x40 ≤ first ∧ first ≤ 0x4F) := h
    have hshown := recognize_triple first second third rest
    rw [hnone, if_pos hstart] at hshown
    split at hshown <;> cases hshown

/-- Such a stream is waited for until its bytes show the framing. The policy does not get a say. -/
theorem Policy.decision_of_recognizable (policy : Policy) {buffer : Bytes}
    (h : Recognizable buffer) :
    policy.decision buffer =
      match recognize buffer with
      | some evidence => .framed evidence.framing (.recognized evidence)
      | none => .wait := by
  unfold decision
  cases hshown : recognize buffer with
  | some evidence => rfl
  | none =>
    apply if_pos
    exact Nat.lt_of_lt_of_le (h.length_lt hshown) policy.three_le_threshold

namespace Demux

/-! ## Another policy -/

/-- If the framing is still open, then what has arrived and what is to come are a stream that shows
it. -/
def Expects (demux : Demux) (coming : Bytes) : Prop :=
  demux.failed = false → demux.framing = .undecided → Recognizable (demux.buffer ++ coming)

theorem Expects.front {demux : Demux} {bytes more : Bytes} (h : demux.Expects (bytes ++ more)) :
    demux.Expects bytes := by
  intro hopen hframing
  have hstream := h hopen hframing
  rw [← List.append_assoc] at hstream
  exact hstream.front

theorem append_policy {demux : Demux} {bytes : Bytes} (h : demux.Expects bytes) (policy : Policy) :
    { demux with policy }.append bytes =
      ({ (demux.append bytes).1 with policy }, (demux.append bytes).2) := by
  obtain ⟨old, framing, buffer, queue, failed⟩ := demux
  cases failed with
  | true => rfl
  | false =>
    by_cases hframing : framing = .undecided
    · subst hframing
      rw [append_of_undecided rfl rfl, append_of_undecided rfl rfl]
      simp only [Policy.decision_of_recognizable _ (h rfl rfl)]
      cases recognize (buffer ++ bytes) <;> rfl
    · rw [append_of_decided rfl hframing, append_of_decided rfl hframing]
      rfl

/-- An operation does the same under another policy. -/
theorem step_policy {demux : Demux} {op : Op} (h : demux.Expects op.bytes) (policy : Policy) :
    { demux with policy }.step op =
      ({ (demux.step op).1 with policy }, (demux.step op).2) := by
  cases op with
  | append bytes =>
    have hbytes : demux.Expects bytes := h
    rw [step, append_policy hbytes]
    rfl
  | pop => rfl

/-- An operation leaves it to what is still to come to show the framing. -/
theorem Expects.step {demux : Demux} {op : Op} {coming : Bytes}
    (h : demux.Expects (op.bytes ++ coming)) : (demux.step op).1.Expects coming := by
  intro hopen hframing
  cases op with
  | append bytes =>
    have hbefore : demux.failed = false := sound_of_append hopen
    obtain ⟨-, -, hafter, -⟩ := append_append_of_undecided hbefore hopen hframing
    show Recognizable ((demux.append bytes).1.buffer ++ coming)
    rw [hafter, List.append_assoc]
    exact h hbefore (decision_of_undecided hbefore hframing).1
  | pop => exact h hopen hframing

/-- A history goes the same way under another policy. -/
theorem run_policy {demux : Demux} {ops : List Op} (h : demux.Expects (fed ops))
    (policy : Policy) :
    { demux with policy }.run ops = ({ (demux.run ops).1 with policy }, (demux.run ops).2) := by
  -- What is still to come has to show the framing: `Expects` is the invariant.
  induction ops generalizing demux with
  | nil => rfl
  | cons op ops ih =>
    have hfed : fed (op :: ops) = op.bytes ++ fed ops := List.flatMap_cons
    rw [hfed] at h
    rw [run_cons, run_cons, step_policy h.front, ih h.step]

/-! ## What the bytes decide -/

theorem append_withPolicy_of_recognizable (policy : Policy) {stream : Bytes}
    (h : Recognizable stream) :
    let shown := recognize stream
    let framing := (shown.map Evidence.framing).getD .undecided
    ((withPolicy policy).append stream).1.framing = framing ∧
      ((withPolicy policy).append stream).2 =
        (shown.map Record.recognized).toList ++ (framing.drain stream).records framing := by
  have hdecision := policy.decision_of_recognizable h
  cases hshown : recognize stream with
  | none =>
    rw [hshown] at hdecision
    rw [append_of_wait rfl rfl hdecision]
    refine ⟨rfl, ?_⟩
    show [] = [] ++ (Framing.undecided.drain stream).records .undecided
    rw [Framing.drain_undecided]
    rfl
  | some evidence =>
    rw [hshown] at hdecision
    rw [append_of_framed rfl rfl hdecision]
    exact ⟨rfl, rfl⟩

/-- A stream that is empty or starts with an octet of STUN or of ChannelData goes the same way under
any two policies: after each of its operations the answers so far and the states are the same, down
to the records and the bytes that wait. The framing is the one that the bytes show, and the log is
that of the bytes; no fallback is ever recorded. -/
theorem run_withPolicy_of_recognizable {ops : List Op} (h : Recognizable (fed ops))
    (first second : Policy) :
    (∀ before, before <+: ops →
      (withPolicy second).run before =
        ({ ((withPolicy first).run before).1 with policy := second },
          ((withPolicy first).run before).2)) ∧
      let outcome := (withPolicy first).run ops
      let shown := recognize (fed ops)
      let framing := (shown.map Evidence.framing).getD .undecided
      outcome.1.framing = framing ∧
        logged outcome.2 =
          (shown.map Record.recognized).toList ++ (framing.drain (fed ops)).records framing := by
  constructor
  · rintro before ⟨after, rfl⟩
    rw [fed, List.flatMap_append] at h
    have hexpects : (withPolicy first).Expects (fed before) := fun _ _ => h.front
    exact run_policy hexpects second
  · intro outcome shown framing
    have hsettled : (withPolicy first).Settled := (Origin.withPolicy first).settled_demux
    obtain ⟨hframing, hrecords⟩ := append_withPolicy_of_recognizable first h
    obtain ⟨-, hrun, -⟩ := observed_run rfl hsettled ops
    refine ⟨hrun.trans hframing, ?_⟩
    have htold (arrived : Nat) :
        (shown.map Record.recognized).toList.map (Record.retold arrived) =
          (shown.map Record.recognized).toList := by
      cases shown <;> rfl
    show logged ((withPolicy first).run ops).2 = _
    rw [logged_run rfl hsettled, hrecords, List.map_append, Drained.map_retold_records, htold]

/-- A policy that would take a stream for bare messages at once and one that would reject it late
have the same history of a frame that comes byte by byte: both wait for its third byte, and that one
decides. -/
theorem run_withPolicy_of_recognizable_eager :
    let eager := Policy.ofThreshold 0 .relay
    let patient := { Config.standard with detection := ⟨200, .reject⟩ }.policy
    let ops : List Op := [.append [], .append [0x00], .pop, .append [0x14], .append [0x01],
      .append (List.replicate 19 0x07), .pop]
    Recognizable (fed ops) ∧
      (withPolicy patient).run ops =
        ({ ((withPolicy eager).run ops).1 with policy := patient }, ((withPolicy eager).run ops).2) ∧
      ((withPolicy eager).run ops).1.framing = .direct ∧
      logged ((withPolicy eager).run ops).2 = [.recognized .frame, .frame 20 .stun] := by
  intro eager patient ops
  have hstream : Recognizable (fed ops) := .inl (by decide)
  obtain ⟨hsame, hframing, hlogged⟩ := run_withPolicy_of_recognizable hstream eager patient
  exact ⟨hstream, hsame ops (List.prefix_refl _), hframing, hlogged.trans (by decide +kernel)⟩

end Demux

end IceTcp
