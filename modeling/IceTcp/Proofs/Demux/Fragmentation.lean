import IceTcp.Proofs.Demux.Streaming

/-!
# Histories and the stream that they feed

A history feeds a stream in pieces and takes packets in between. The bytes that count are those of
the appends up to the first one that is refused; with the packets put back in front of the queue,
the state after the history is the one after a single append of these bytes.

Main results:

* `Demux.run_of_failed_eq`: what a history does behind a failure.
* `Demux.run_eq_append_taken`: a history is one append of what it has taken.
* `Demux.failed_run`: the state has failed exactly when an append was refused.
* `Demux.observed_run`: packets, framing and failure are those of one append of the whole stream.
* `Demux.observed_run_of_decided`: where the framing is known in the end, they are those of the
  drained stream.
* `Demux.observed_run_eq_observed_whole`: packets, framing and failure depend only on the stream,
  and so does the buffer as long as nothing is refused.
-/

namespace IceTcp.Demux

/-! ## What a history shows -/

/-- How the demultiplexer of a stream comes to be. -/
inductive Origin where
  /-- Nothing is configured. -/
  | plain
  | withPolicy (policy : Policy)
  /-- The framing is known from the start, or said to be undecided. -/
  | withFraming (framing : Framing)
  deriving DecidableEq, Repr

/-- The demultiplexer before anything has arrived. -/
def Origin.demux : Origin → Demux
  | .plain => Demux.withPolicy .standard
  | .withPolicy policy => Demux.withPolicy policy
  | .withFraming framing => Demux.withFraming framing

/-- The bytes that an operation brings. -/
def Op.bytes : Op → Bytes
  | .append bytes => bytes
  | .pop => []

/-- Whether an operation was an append that found the stream malformed. -/
def Result.isRefusal : Result → Bool
  | .appended sound _ => !sound
  | .popped _ => false

/-- The packets that an operation took. -/
def Result.packets : Result → List Packet
  | .appended _ _ => []
  | .popped packet => packet.toList

/-- What an operation recorded. -/
def Result.records : Result → List Record
  | .appended _ records => records
  | .popped _ => []

/-- The stream that a history feeds. -/
def fed (ops : List Op) : Bytes := ops.flatMap Op.bytes

/-- Whether some append was refused. -/
def refused (results : List Result) : Bool := results.any Result.isRefusal

/-- The packets that were taken, in order. -/
def delivered (results : List Result) : List Packet := results.flatMap Result.packets

/-- What was recorded, in order. -/
def logged (results : List Result) : List Record := results.flatMap Result.records

/-- All packets of a history: those that were taken, and those that still wait. -/
def emitted (outcome : Demux × List Result) : List Packet :=
  delivered outcome.2 ++ outcome.1.queue

/-- The bytes of all appends up to and including the first one that was refused. -/
def taken : List Op → List Result → Bytes
  | op :: ops, result :: results =>
    op.bytes ++ if result.isRefusal then [] else taken ops results
  | _, _ => []

theorem Origin.failed_demux (origin : Origin) : origin.demux.failed = false := by
  cases origin <;> rfl

@[simp] theorem Origin.queue_demux (origin : Origin) : origin.demux.queue = [] := by
  cases origin <;> rfl

@[simp] theorem Origin.buffer_demux (origin : Origin) : origin.demux.buffer = [] := by
  cases origin <;> rfl

theorem Origin.settled_demux (origin : Origin) : origin.demux.Settled := by
  have hundecided (policy : Policy) : (Demux.withPolicy policy).Settled := by
    have hthreshold : 0 < policy.threshold :=
      Nat.lt_of_lt_of_le (by decide) policy.three_le_threshold
    simp only [Settled, append, parse, Demux.withPolicy, Policy.decision, recognize,
      List.append_nil, List.length_nil, Bool.false_eq_true, if_false, if_pos hthreshold]
  cases origin with
  | plain => exact hundecided _
  | withPolicy policy => exact hundecided policy
  | withFraming framing =>
    cases framing with
    | undecided => exact hundecided _
    | relay => exact settled_of_wait rfl Framing.noConfusion rfl
    | direct => exact settled_of_wait rfl Framing.noConfusion rfl

/-! ## A history is one append -/

/-- After a failure every append is refused, records nothing and changes nothing; packets are taken
in order, each once, as long as there are any. -/
theorem run_of_failed_eq {demux : Demux} (h : demux.failed = true) (ops : List Op) :
    (demux.run ops).1 = { demux with queue := demux.queue.drop (ops.count .pop) } ∧
      delivered (demux.run ops).2 = demux.queue.take (ops.count .pop) ∧
      ∀ bytes result, (Op.append bytes, result) ∈ ops.zip (demux.run ops).2 →
        result = .appended false [] := by
  induction ops generalizing demux with
  | nil => exact ⟨rfl, rfl, nofun⟩
  | cons op ops ih =>
    cases op with
    | append bytes =>
      have hstep : demux.step (.append bytes) = (demux, .appended false []) := by
        simp only [step, append_of_failed h, h, Bool.not_true]
      obtain ⟨hstate, hdelivered, hanswers⟩ := ih h
      have hcount : (Op.append bytes :: ops).count .pop = ops.count .pop :=
        List.count_cons_of_ne Op.noConfusion
      rw [run_cons, hstep, hcount]
      refine ⟨hstate, hdelivered, ?_⟩
      intro later result hmem
      rcases List.mem_cons.mp hmem with hfirst | hlater
      · exact (Prod.mk.inj hfirst).2
      · exact hanswers later result hlater
    | pop =>
      have hpopped : demux.pop.2.failed = true := h
      obtain ⟨hstate, hdelivered, hanswers⟩ := ih hpopped
      rw [run_cons, List.count_cons_self]
      refine ⟨?_, ?_, ?_⟩
      · rw [← List.drop_tail]
        exact hstate
      · show demux.queue.head?.toList ++ delivered (demux.pop.2.run ops).2 = _
        rw [hdelivered]
        cases hqueue : demux.queue with
        | nil =>
          rw [pop, hqueue, List.tail_nil, List.take_nil, List.take_nil]
          rfl
        | cons packet packets =>
          rw [pop, hqueue]
          rfl
      · intro later result hmem
        rcases List.mem_cons.mp hmem with hfirst | hlater
        · cases hfirst
        · exact hanswers later result hlater

theorem run_of_failed {demux : Demux} (h : demux.failed = true) (ops : List Op) :
    { (demux.run ops).1 with queue := emitted (demux.run ops) } = demux := by
  obtain ⟨hstate, hdelivered, -⟩ := run_of_failed_eq h ops
  rw [emitted, hdelivered, hstate, List.take_append_drop]

/-- With its packets put back in front of the queue, a history is one append of what it has
taken. -/
theorem run_eq_append_taken {demux : Demux} (hopen : demux.failed = false)
    (hsettled : demux.Settled) (ops : List Op) :
    { (demux.run ops).1 with queue := emitted (demux.run ops) } =
      (demux.append (taken ops (demux.run ops).2)).1 := by
  -- `Settled` is the invariant: a history that takes nothing is the append of nothing.
  induction ops generalizing demux with
  | nil =>
    simp only [run, taken]
    rw [hsettled]
    rfl
  | cons op ops ih =>
    cases op with
    | append bytes =>
      cases hfailed : (demux.append bytes).1.failed with
      | true =>
        simp only [run, step, taken, Op.bytes, Result.isRefusal, hfailed, Bool.not_true,
          Bool.not_false, if_true, List.append_nil]
        -- The refused bytes were still taken; of the bytes behind them none are.
        exact run_of_failed hfailed ops
      | false =>
        simp only [run, step, taken, Op.bytes, Result.isRefusal, hfailed, Bool.not_false,
          Bool.not_true, Bool.false_eq_true, if_false]
        rw [← append_append hopen hfailed]
        exact ih hfailed (settled_append demux bytes)
    | pop =>
      have hpopped : demux.pop.2.failed = false := hopen
      have hrest := ih hpopped (settled_of_queue hsettled _)
      -- The packet that is taken here goes back in front of what is emitted later.
      have hlater := congrArg (fun later : Demux =>
        { later with queue := demux.pop.1.toList ++ later.queue }) hrest
      simp only at hlater
      rw [← fst_append_queue, queue_pop] at hlater
      simp only [run, step, emitted, delivered, List.flatMap_cons, List.append_assoc,
        Result.packets, taken, Op.bytes, Result.isRefusal, Bool.false_eq_true, if_false,
        List.nil_append] at hlater ⊢
      exact hlater

/-- A history ends failed if it began so or an append was refused. -/
theorem failed_run (demux : Demux) (ops : List Op) :
    (demux.run ops).1.failed = (demux.failed || refused (demux.run ops).2) := by
  induction ops generalizing demux with
  | nil => simp only [run, refused, List.any_nil, Bool.or_false]
  | cons op ops ih =>
    have hlater := ih (demux.step op).1
    cases op with
    | append bytes =>
      simp only [run, step, refused, List.any_cons, Result.isRefusal, Bool.not_not] at hlater ⊢
      rw [hlater]
      cases hfailed : demux.failed with
      | true => rw [append_of_failed hfailed, hfailed, Bool.true_or, Bool.true_or]
      | false => rw [Bool.false_or]
    | pop =>
      simp only [run, step, refused, List.any_cons, Result.isRefusal, Bool.false_or] at hlater ⊢
      exact hlater

/-- What has been taken is the front of what was fed, and all of it unless an append was refused. -/
theorem fed_eq_taken_append (demux : Demux) (ops : List Op) :
    ∃ more, fed ops = taken ops (demux.run ops).2 ++ more ∧
      (refused (demux.run ops).2 = false → more = []) := by
  induction ops generalizing demux with
  | nil => exact ⟨[], rfl, fun _ => rfl⟩
  | cons op ops ih =>
    obtain ⟨more, hfed, hmore⟩ := ih (demux.step op).1
    have hcons : fed (op :: ops) = op.bytes ++ fed ops := List.flatMap_cons
    simp only [run, taken, refused, List.any_cons] at hmore ⊢
    cases (demux.step op).2.isRefusal with
    | true =>
      refine ⟨fed ops, ?_, ?_⟩
      · rw [if_pos rfl, List.append_nil, hcons]
      · intro h
        rw [Bool.true_or] at h
        cases h
    | false =>
      refine ⟨more, ?_, ?_⟩
      · rw [if_neg Bool.false_ne_true, hcons, hfed, List.append_assoc]
      · intro h
        rw [Bool.false_or] at h
        exact hmore h

/-- As long as nothing has been refused, one more append is an append of the whole stream so far,
with the packets that were taken put back in front of the queue. -/
theorem append_run_eq_append_fed {demux : Demux} (hopen : demux.failed = false)
    (hsettled : demux.Settled) {ops : List Op} (hsound : refused (demux.run ops).2 = false)
    (bytes : Bytes) :
    let before := demux.run ops
    let after := (before.1.append bytes).1
    { after with queue := delivered before.2 ++ after.queue } =
      (demux.append (fed ops ++ bytes)).1 := by
  intro before after
  have hstate := run_eq_append_taken hopen hsettled ops
  obtain ⟨more, hfed, hmore⟩ := fed_eq_taken_append demux ops
  rw [hmore hsound, List.append_nil] at hfed
  rw [← hfed] at hstate
  have hfailed : (demux.append (fed ops)).1.failed = false := by
    rw [← hstate]
    show before.1.failed = false
    rw [failed_run, hopen, Bool.false_or]
    exact hsound
  rw [← append_append hopen hfailed, ← hstate]
  exact (fst_append_queue before.1 (delivered before.2) bytes).symm

/-- What a history shows is found in the state after one append of the whole stream. -/
theorem observed_run {demux : Demux} (hopen : demux.failed = false) (hsettled : demux.Settled)
    (ops : List Op) :
    let outcome := demux.run ops
    let whole := (demux.append (fed ops)).1
    emitted outcome = whole.queue ∧ outcome.1.framing = whole.framing ∧
      refused outcome.2 = whole.failed ∧
      (refused outcome.2 = false → outcome.1.buffer = whole.buffer) := by
  intro outcome whole
  have hstate := run_eq_append_taken hopen hsettled ops
  have hrefused : refused outcome.2 = outcome.1.failed := by
    rw [failed_run, hopen, Bool.false_or]
  obtain ⟨more, hfed, hmore⟩ := fed_eq_taken_append demux ops
  cases hfailed : outcome.1.failed with
  | false =>
    -- Everything was taken, so both states are the same.
    rw [hmore (hrefused.trans hfailed), List.append_nil] at hfed
    rw [← hfed] at hstate
    rw [hrefused, show whole = _ from hstate.symm]
    exact ⟨rfl, rfl, rfl, fun _ => rfl⟩
  | true =>
    -- What was not taken would have stayed in the buffer.
    have htaken : (demux.append (taken ops outcome.2)).1.failed = true := by
      rw [← hstate]
      exact hfailed
    have hextra := append_append_of_failed hopen htaken more
    rw [← hfed, ← hstate] at hextra
    rw [hrefused, show whole = _ from hextra]
    exact ⟨rfl, rfl, rfl, fun h => absurd (hfailed.symm.trans h) Bool.noConfusion⟩

/-- Where the framing is known in the end, what a history shows is what draining the whole stream by
it gives, also of the bytes that had arrived before it was known. -/
theorem observed_run_of_decided (origin : Origin) {ops : List Op}
    (h : (origin.demux.run ops).1.framing ≠ .undecided) :
    let outcome := origin.demux.run ops
    let drained := outcome.1.framing.drain (fed ops)
    emitted outcome = drained.packets ∧ refused outcome.2 = drained.fault.isSome ∧
      (refused outcome.2 = false → outcome.1.buffer = drained.rest) := by
  intro outcome drained
  obtain ⟨hemitted, hframing, hrefused, hbuffer⟩ :=
    observed_run origin.failed_demux origin.settled_demux ops
  rw [hframing] at h
  have hwhole := append_eq_drained_of_decided origin.failed_demux h
  rw [← hframing, origin.buffer_demux, List.nil_append] at hwhole
  rw [hwhole] at hemitted hrefused hbuffer
  refine ⟨?_, hrefused, hbuffer⟩
  rw [hemitted, Demux.drained, origin.queue_demux]
  rfl

theorem observed_run_withFraming {framing : Framing} (hframing : framing ≠ .undecided)
    (ops : List Op) :
    let outcome := (Demux.withFraming framing).run ops
    let drained := framing.drain (fed ops)
    emitted outcome = drained.packets ∧ refused outcome.2 = drained.fault.isSome ∧
      (refused outcome.2 = false → outcome.1.buffer = drained.rest) := by
  intro outcome drained
  have hsettled : (Demux.withFraming framing).Settled :=
    (Origin.withFraming framing).settled_demux
  obtain ⟨-, hwhole, -⟩ := observed_run rfl hsettled ops
  have hkept : outcome.1.framing = framing := by
    rw [hwhole, fst_append_of_decided rfl hframing]
    rfl
  have hdecided : ((Origin.withFraming framing).demux.run ops).1.framing ≠ .undecided := by
    show outcome.1.framing ≠ .undecided
    rw [hkept]
    exact hframing
  obtain ⟨hemitted, hrefused, hbuffer⟩ :=
    observed_run_of_decided (Origin.withFraming framing) hdecided
  rw [show ((Origin.withFraming framing).demux.run ops).1.framing = framing from hkept]
    at hemitted hrefused hbuffer
  exact ⟨hemitted, hrefused, hbuffer⟩

/-- What a history shows is what a single append of the whole stream shows: the packets in order,
the framing and whether the stream is malformed. Only behind a failure the buffer may be shorter,
since later appends are not taken. -/
theorem observed_run_eq_observed_whole (origin : Origin) (ops : List Op) :
    let outcome := origin.demux.run ops
    let whole := origin.demux.run [.append (fed ops)]
    emitted outcome = emitted whole ∧ outcome.1.framing = whole.1.framing ∧
      refused outcome.2 = refused whole.2 ∧
      (refused outcome.2 = false → outcome.1.buffer = whole.1.buffer) := by
  intro outcome whole
  have hwhole : refused whole.2 = whole.1.failed := by
    rw [failed_run, origin.failed_demux, Bool.false_or]
  rw [hwhole]
  exact observed_run origin.failed_demux origin.settled_demux ops

end IceTcp.Demux
