import IceTcp.Proofs.Demux.Fragmentation

/-!
# The framing as a function of the stream

Detection is run again on every append until it comes to a result, on one byte, on two, on three and
on more. What it comes to in the end does not show this: the framing depends on the first three
bytes of the stream, and on its length and the policy where these show nothing. Once the framing is
known it stays as it is, and what is given is the same as if it had been known from the first byte.

Main results:

* `Policy.framing?_decision`: the framing that a policy decides on, read off the bytes.
* `Demux.framing_step`: no operation changes a known framing.
* `Demux.framing_run_eq_framingOf`: the framing after any history of a stream, and how it changes
  along the way.
* `Demux.known_run_eq_detected_run`: a detected framing and a known one show the same.
-/

namespace IceTcp

/-! ## What a stream is read by -/

/-- The framing that a stream is given when its first bytes show none. A stream that is rejected is
given none. -/
def Fallback.framing : Fallback → Framing
  | .direct => .direct
  | .relay => .relay
  | .reject => .undecided

/-- The framing of a stream, by the bytes of it that have arrived. -/
def Policy.framingOf (policy : Policy) (stream : Bytes) : Framing :=
  match stream with
  | [] | [_] => .undecided
  | [first, _] =>
    if (0x01 ≤ first ∧ first ≤ 0x03) ∨ (0x40 ≤ first ∧ first ≤ 0x4F) then .relay else .undecided
  | first :: second :: third :: _ =>
    if first = 0x00 ∧ 20 ≤ second ∧ third ≤ 0x03 then .direct
    else if first ≤ 0x03 ∨ (0x40 ≤ first ∧ first ≤ 0x4F) then .relay
    else if stream.length < policy.threshold then .undecided
    else policy.fallback.framing

theorem recognize_of_ne_zero {first : UInt8} (h : first ≠ 0x00) (second : UInt8) (rest : Bytes) :
    (recognize (first :: second :: rest)).map Evidence.framing =
      if first ≤ 0x03 ∨ (0x40 ≤ first ∧ first ≤ 0x4F) then some .relay else none := by
  simp only [recognize, if_neg h]
  by_cases hstun : first ≤ 0x03
  · rw [if_pos hstun, if_pos (.inl hstun)]
    rfl
  · by_cases hchannel : 0x40 ≤ first ∧ first ≤ 0x4F
    · rw [if_neg hstun, if_pos hchannel, if_pos (.inr hchannel)]
      rfl
    · rw [if_neg hstun, if_neg hchannel, if_neg (not_or.mpr ⟨hstun, hchannel⟩)]
      rfl

theorem recognize_pair (first second : UInt8) :
    (recognize [first, second]).map Evidence.framing =
      if (0x01 ≤ first ∧ first ≤ 0x03) ∨ (0x40 ≤ first ∧ first ≤ 0x4F) then some .relay
      else none := by
  by_cases hzero : first = 0x00
  · subst hzero
    rfl
  · have hone : 0x01 ≤ first := by
      have hne : first.toNat ≠ 0 := fun h => hzero (UInt8.toNat_inj.mp h)
      show 1 ≤ first.toNat
      omega
    rw [recognize_of_ne_zero hzero]
    simp only [hone, true_and]

theorem recognize_triple (first second third : UInt8) (rest : Bytes) :
    (recognize (first :: second :: third :: rest)).map Evidence.framing =
      if first = 0x00 ∧ 20 ≤ second ∧ third ≤ 0x03 then some .direct
      else if first ≤ 0x03 ∨ (0x40 ≤ first ∧ first ≤ 0x4F) then some .relay
      else none := by
  by_cases hzero : first = 0x00
  · subst hzero
    by_cases hframe : 20 ≤ second ∧ third ≤ 0x03
    · rw [if_pos ⟨rfl, hframe⟩]
      simp only [recognize, if_true, if_pos hframe]
      rfl
    · rw [if_neg fun h => hframe h.2, if_pos (.inl (by decide))]
      simp only [recognize, if_true, if_neg hframe]
      rfl
  · rw [if_neg fun h => hzero h.1, recognize_of_ne_zero hzero]

theorem Policy.framing?_decision_eq (policy : Policy) (stream : Bytes) :
    (policy.decision stream).framing?.getD .undecided =
      ((recognize stream).map Evidence.framing).getD
        (if stream.length < policy.threshold then .undecided else policy.fallback.framing) := by
  unfold decision
  cases recognize stream with
  | some evidence => rfl
  | none =>
    by_cases hshort : stream.length < policy.threshold
    · simp only [if_pos hshort]
      rfl
    · simp only [if_neg hshort]
      cases policy.fallback <;> rfl

/-- What a decision of a policy comes to can be read off the bytes. -/
theorem Policy.framing?_decision (policy : Policy) (stream : Bytes) :
    (policy.decision stream).framing?.getD .undecided = policy.framingOf stream := by
  have hthree := policy.three_le_threshold
  rw [framing?_decision_eq]
  match stream with
  | [] =>
    have hshort : ([] : Bytes).length < policy.threshold := by
      show 0 < policy.threshold
      omega
    rw [if_pos hshort]
    rfl
  | [first] =>
    have hshort : [first].length < policy.threshold := by
      show 1 < policy.threshold
      omega
    rw [if_pos hshort]
    rfl
  | [first, second] =>
    have hshort : [first, second].length < policy.threshold := by
      show 2 < policy.threshold
      omega
    rw [if_pos hshort, recognize_pair, framingOf]
    split <;> rfl
  | first :: second :: third :: rest =>
    rw [recognize_triple, framingOf]
    split
    · rfl
    · split <;> rfl

theorem Policy.decision_eq_reject_iff {policy : Policy} {stream : Bytes}
    (h : policy.framingOf stream = .undecided) :
    policy.decision stream = .reject ↔
      policy.fallback = .reject ∧ policy.threshold ≤ stream.length := by
  rw [← policy.framing?_decision] at h
  unfold decision at h ⊢
  cases hrecognize : recognize stream with
  | some evidence =>
    rw [hrecognize] at h
    exact absurd h evidence.framing_ne_undecided
  | none =>
    rw [hrecognize] at h
    by_cases hshort : stream.length < policy.threshold
    · simp only [if_pos hshort]
      constructor
      · intro hwait
        cases hwait
      · rintro ⟨-, hlong⟩
        omega
    · simp only [if_neg hshort] at h ⊢
      cases hfallback : policy.fallback with
      | direct =>
        rw [hfallback] at h
        cases h
      | relay =>
        rw [hfallback] at h
        cases h
      | reject => exact ⟨fun _ => ⟨rfl, Nat.le_of_not_lt hshort⟩, fun _ => rfl⟩

namespace Demux

/-! ## After a history -/

theorem framing_append_withPolicy (policy : Policy) (stream : Bytes) :
    let whole := ((Demux.withPolicy policy).append stream).1
    whole.framing = policy.framingOf stream ∧
      (policy.framingOf stream = .undecided →
        (whole.failed = true ↔ policy.fallback = .reject ∧ policy.threshold ≤ stream.length)) := by
  intro whole
  have hframing := policy.framing?_decision stream
  have hreject (h : policy.framingOf stream = .undecided) := Policy.decision_eq_reject_iff h
  cases hdecision : policy.decision stream with
  | wait =>
    have hwhole : whole = { Demux.withPolicy policy with buffer := stream } :=
      fst_append_of_wait rfl rfl hdecision
    rw [hdecision] at hframing hreject
    rw [hwhole]
    refine ⟨hframing, fun h => ?_⟩
    rw [← hreject h]
    exact ⟨Bool.noConfusion, Decision.noConfusion⟩
  | framed framing record =>
    have hwhole : whole = (Demux.withPolicy policy).drained framing stream :=
      fst_append_of_framed rfl rfl hdecision
    rw [hdecision] at hframing
    rw [hwhole]
    refine ⟨hframing, fun h => ?_⟩
    rw [← hframing] at h
    exact absurd h (Policy.framing_ne_undecided hdecision)
  | reject =>
    have hwhole : whole = { Demux.withPolicy policy with buffer := stream, failed := true } :=
      fst_append_of_reject rfl rfl hdecision
    rw [hdecision] at hframing hreject
    rw [hwhole]
    refine ⟨hframing, fun h => ?_⟩
    rw [← hreject h]
    exact ⟨fun _ => rfl, fun _ => rfl⟩

theorem framing_run_withPolicy (policy : Policy) (ops : List Op) :
    ((Demux.withPolicy policy).run ops).1.framing = policy.framingOf (fed ops) := by
  have hsettled := (Origin.withPolicy policy).settled_demux
  obtain ⟨-, hframing, -⟩ := observed_run rfl hsettled ops
  exact hframing.trans (framing_append_withPolicy policy (fed ops)).1

/-! ## Along a history -/

/-- The framings that are known during a history, from its start to its end. -/
def framings (demux : Demux) : List Op → List Framing
  | [] => [demux.framing]
  | op :: ops => demux.framing :: (demux.step op).1.framings ops

/-- No operation changes a framing that is known. -/
theorem framing_step {demux : Demux} (h : demux.framing ≠ .undecided) (op : Op) :
    (demux.step op).1.framing = demux.framing := by
  cases op with
  | append bytes => exact framing_append_of_decided h bytes
  | pop => rfl

theorem framings_of_decided {demux : Demux} (h : demux.framing ≠ .undecided) (ops : List Op) :
    demux.framings ops = List.replicate (ops.length + 1) demux.framing ∧
      (demux.run ops).1.framing = demux.framing := by
  induction ops generalizing demux with
  | nil => exact ⟨rfl, rfl⟩
  | cons op ops ih =>
    have hstep := framing_step h op
    have hlater : (demux.step op).1.framing ≠ .undecided := by
      rw [hstep]
      exact h
    obtain ⟨hframings, hrun⟩ := ih hlater
    constructor
    · show demux.framing :: (demux.step op).1.framings ops = _
      rw [hframings, hstep]
      rfl
    · show ((demux.step op).1.run ops).1.framing = demux.framing
      rw [hrun, hstep]

/-- Along a history the framing changes at most once, from unknown to known. -/
theorem framings_eq_replicate (demux : Demux) (ops : List Op) :
    ∃ before after, demux.framings ops =
        List.replicate before .undecided ++ List.replicate after (demux.run ops).1.framing ∧
      (demux.framing ≠ .undecided → before = 0) := by
  induction ops generalizing demux with
  | nil => exact ⟨0, 1, rfl, fun _ => rfl⟩
  | cons op ops ih =>
    by_cases hframing : demux.framing = .undecided
    · obtain ⟨before, after, hframings, -⟩ := ih (demux.step op).1
      refine ⟨before + 1, after, ?_, fun h => absurd hframing h⟩
      show demux.framing :: (demux.step op).1.framings ops = _
      rw [hframings, hframing]
      rfl
    · obtain ⟨hframings, hrun⟩ := framings_of_decided hframing (op :: ops)
      refine ⟨0, (op :: ops).length + 1, ?_, fun _ => rfl⟩
      rw [hframings, hrun]
      rfl

/-- The framing after a history is a function of the policy and of the stream, however it is cut; a
stream that shows none in time is refused where the policy says so. Along any history the framing
changes at most once, from unknown to known, and never if it is known from the start. -/
theorem framing_run_eq_framingOf :
    (∀ (policy : Policy) (ops : List Op),
      let outcome := (Demux.withPolicy policy).run ops
      outcome.1.framing = policy.framingOf (fed ops) ∧
        (policy.framingOf (fed ops) = .undecided →
          (refused outcome.2 = true ↔
            policy.fallback = .reject ∧ policy.threshold ≤ (fed ops).length))) ∧
      ∀ (origin : Origin) (ops : List Op),
        ∃ before after, origin.demux.framings ops =
            List.replicate before .undecided ++
              List.replicate after (origin.demux.run ops).1.framing ∧
          (origin.demux.framing ≠ .undecided → before = 0) := by
  constructor
  · intro policy ops outcome
    have hsettled := (Origin.withPolicy policy).settled_demux
    obtain ⟨-, hframing, hrefused, -⟩ := observed_run rfl hsettled ops
    obtain ⟨hwhole, hfailed⟩ := framing_append_withPolicy policy (fed ops)
    constructor
    · exact hframing.trans hwhole
    · intro hundecided
      rw [← hfailed hundecided]
      exact Bool.coe_iff_coe.mpr hrefused
  · intro origin ops
    exact framings_eq_replicate origin.demux ops

end Demux

/-! ## Detection is transparent

A demultiplexer that detects the framing holds bytes back until it has decided, while one that knows
the framing from the start cuts messages off as they arrive, and may refuse the stream many appends
earlier. What they give in the end is the same: the bytes that were held back are drained as if the
framing had been known from the first one.
-/

namespace Demux

/-- A stream on which the framing has been detected, or fallen back to, shows what it shows to a
demultiplexer that knew this framing from the start, whatever the pieces are in which either of them
gets it: the same packets, the same failure and, as long as nothing is refused, the same rest. -/
theorem known_run_eq_detected_run (policy : Policy) {first second : List Op}
    (hfed : fed first = fed second)
    (hdetected : ((Demux.withPolicy policy).run first).1.framing ≠ .undecided) :
    let detected := (Demux.withPolicy policy).run first
    let known := (Demux.withFraming detected.1.framing).run second
    emitted known = emitted detected ∧ refused known.2 = refused detected.2 ∧
      (refused detected.2 = false → known.1.buffer = detected.1.buffer) := by
  intro detected known
  -- The two are never in step, but each of them drains the whole stream by the same framing.
  obtain ⟨hemitted, hrefused, hbuffer⟩ :=
    observed_run_of_decided (Origin.withPolicy policy) hdetected
  obtain ⟨hemitted', hrefused', hbuffer'⟩ := observed_run_withFraming hdetected second
  rw [← hfed] at hemitted' hrefused' hbuffer'
  have hfailure : refused known.2 = refused detected.2 := hrefused'.trans hrefused.symm
  refine ⟨hemitted'.trans hemitted.symm, hfailure, ?_⟩
  intro hsound
  exact (hbuffer' (hfailure.trans hsound)).trans (hbuffer hsound).symm

/-- Bytes that show no framing are held back below a threshold of six and then read as bare
messages, which they are not. What reads them so from the start refuses the first five. -/
theorem known_run_eq_detected_run_fallback :
    let policy := Policy.ofThreshold 6 .relay
    let first : List Op :=
      [.append [0x80, 0x00], .pop, .append [0x01, 0x02, 0x03], .append [0x04, 0x05]]
    let second : List Op := [.append [0x80, 0x00, 0x01, 0x02, 0x03], .pop, .append [0x04, 0x05]]
    fed first = fed second ∧ ((Demux.withPolicy policy).run first).1.framing = .relay ∧
      emitted ((Demux.withFraming .relay).run second) = [] ∧
      refused ((Demux.withFraming .relay).run second).2 = true := by
  intro policy first second
  have hfed : fed first = fed second := rfl
  have hrelay : ((Demux.withPolicy policy).run first).1.framing = .relay := by decide +kernel
  have hdetected : ((Demux.withPolicy policy).run first).1.framing ≠ .undecided := by
    rw [hrelay]
    exact Framing.noConfusion
  obtain ⟨hemitted, hrefused, -⟩ := known_run_eq_detected_run policy hfed hdetected
  rw [hrelay] at hemitted hrefused
  exact ⟨hfed, hrelay, hemitted.trans (by decide +kernel), hrefused.trans (by decide +kernel)⟩

end Demux

end IceTcp
