import IceTcp.Proofs.Server.LifeCycle

/-!
# What a session delivers

The packets that the observer of a server receives for a client are those that a bare demultiplexer
cuts from the client's reads. The reads end with the one that leaves the demultiplexer malformed or
with too many bytes, and its packets are delivered too, before the session closes for that reason.

Main results:

* `packets_before_closed`: every packet comes before the close.
* `packets_story_eq_emitted`: which packets are delivered, and when a read closes the session.
-/

namespace IceTcp.Server

open Demux (not_blocked_withPolicy)
open Session (Entry packets transcript)

theorem packets_finale (limit : Nat) (demux : Demux) (ending : Option Step) :
    packets (finale limit demux ending) = [] := by
  cases ending with
  | none => rfl
  | some step =>
    show packets (((step.cause? limit demux).map Entry.broken).toList ++ _) = []
    cases step.cause? limit demux <;> rfl

/-- Of what is told in two parts, the packets of which are all in the first part and the close is in
the second, every packet comes before the close. -/
theorem packets_before_closed {told last front back : List Entry} (htold : Entry.closed ∉ told)
    (hlast : packets last = []) (h : told ++ last = front ++ .closed :: back) :
    packets front = packets told := by
  rcases List.append_eq_append_iff.mp h with ⟨between, rfl, hbetween⟩ | ⟨between, rfl, hbetween⟩
  · rw [hbetween, Session.packets_append] at hlast
    rw [Session.packets_append, (List.append_eq_nil_iff.mp hlast).1, List.append_nil]
  · cases between with
    | nil => rw [List.append_nil]
    | cons entry between =>
      obtain ⟨rfl, -⟩ := List.cons.inj hbetween
      exact absurd (List.mem_append_right _ List.mem_cons_self) htold

theorem mem_finale {limit : Nat} {demux : Demux} {ending : Option Step} {cause : Session.Cause}
    (h : Entry.broken cause ∈ finale limit demux ending) :
    ∃ step, ending = some step ∧ step.cause? limit demux = some cause := by
  cases ending with
  | none => cases h
  | some step =>
    refine ⟨step, rfl, ?_⟩
    rcases List.mem_append.mp h with h | h
    · obtain ⟨found, hfound, hcause⟩ := Option.map_eq_some_iff.mp (Option.mem_toList.mp h)
      obtain rfl := Entry.broken.inj hcause
      exact hfound
    · simp at h

theorem cause_of_not_send {client limit : Nat} {demux : Demux} {step : Step} {session : Session}
    {cause : Session.Cause} (hcause : step.cause? limit demux = some cause)
    (hconcerns : step.Concerns client session) (hsend : ∀ bytes, step ≠ .send client bytes) :
    cause = .idle ∨ cause = .reset := by
  cases step with
  | connect listener => exact .inl (Option.some.inj hcause).symm
  | send other bytes =>
    obtain rfl : other = client := hconcerns
    exact absurd rfl (hsend bytes)
  | finish other => cases hcause
  | reset other => exact .inr (Option.some.inj hcause).symm
  | wait duration => exact .inl (Option.some.inj hcause).symm

section

variable {client limit : Nat} {demux : Demux} {sends : List Bytes} {ending : Option Step}
  {told : List Entry} {session : Session}

/-- The packets of a course are those of its reads, and they all come before the close. -/
theorem Course.packets_eq (h : Course client limit demux sends ending told session)
    {opening : List Entry} (hopening : packets opening = []) (hclosed : Entry.closed ∉ opening) :
    let delivered := packets (transcript demux.popAll.2 (Session.reads limit demux sends))
    packets (opening ++ told) = delivered ∧
      ∀ front back, opening ++ told = front ++ .closed :: back → packets front = delivered := by
  intro delivered
  have htold : packets (opening ++ transcript demux.popAll.2 (Session.reads limit demux sends)) =
      delivered := by
    rw [Session.packets_append, hopening, List.nil_append]
  rw [h.entries_eq, ← List.append_assoc]
  constructor
  · rw [Session.packets_append, htold, packets_finale, List.append_nil]
  · intro front back hsplit
    have hnotMem : Entry.closed ∉
        opening ++ transcript demux.popAll.2 (Session.reads limit demux sends) := by
      intro hmem
      rcases List.mem_append.mp hmem with hmem | hmem
      · exact hclosed hmem
      · exact Session.closed_notMem_transcript _ _ hmem
    rw [packets_before_closed hnotMem (packets_finale _ _ _) hsplit, htold]

theorem Course.exists_eq_append (h : Course client limit demux sends ending told session)
    (hblocked : (demux.taking (Session.reads limit demux sends)).Blocked limit) :
    ∃ front, told = front ++
      [.broken ((demux.taking (Session.reads limit demux sends)).blockage limit), .closed,
        .disconnected] := by
  obtain ⟨bytes, hending⟩ := h.blocked_iff.mpr hblocked
  refine ⟨transcript demux.popAll.2 (Session.reads limit demux sends), ?_⟩
  rw [h.entries_eq, hending]
  rfl

theorem Course.cause_of_free (h : Course client limit demux sends ending told session)
    (hfree : ¬ (demux.taking (Session.reads limit demux sends)).Blocked limit)
    {cause : Session.Cause} (hmem : Entry.broken cause ∈ told) :
    cause = .idle ∨ cause = .reset := by
  rw [h.entries_eq] at hmem
  rcases List.mem_append.mp hmem with hmem | hmem
  · rcases Session.mem_transcript hmem with ⟨record, hrecord⟩ | ⟨packet, hpacket⟩
    · cases hrecord
    · cases hpacket
  · obtain ⟨step, hending, hcause⟩ := mem_finale hmem
    refine cause_of_not_send hcause (h.concerns step hending) (fun bytes hsend => ?_)
    exact hfree (h.blocked_iff.mp ⟨bytes, by rw [hending, hsend]⟩)

end

/-- A session delivers exactly what the demultiplexer cuts from its reads, in order, and all of it
before it closes. The reads are the sends of the client that were not answered by its not being
connected, in pieces, up to the first one after which the demultiplexer has failed or holds more
than the limit. The session closes in a send if and only if there is such a read; the send is then
the last one and brings that read, and the cause is that the stream is malformed if it is, and
otherwise that too much of it is left. For no other reason does a read close a session. -/
theorem packets_story_eq_emitted (config : Config) (client : Nat) (steps : List Step) :
    let outcome := config.serving.run steps
    let entries := story client outcome.2
    let ending := closing? client config.serving steps
    let limit := config.server.maxBufferSize
    let fresh := Demux.withPolicy config.policy
    let sends := heeded client steps outcome.2
    let fed (sends : List Bytes) := fresh.run ((Session.reads limit fresh sends).map .append)
    packets entries = Demux.emitted (fed sends) ∧
      (∀ front back, entries = front ++ .closed :: back →
        packets front = Demux.emitted (fed sends)) ∧
      ((∃ bytes, ending = some (.send client bytes)) ↔ (fed sends).1.Blocked limit) ∧
      (∀ bytes, ending = some (.send client bytes) →
        ∃ earlier, sends = earlier ++ [bytes] ∧ ¬ (fed earlier).1.Blocked limit) ∧
      ((fed sends).1.Blocked limit → ∃ front, entries =
        front ++ [.broken
          (if (fed sends).1.failed then .malformed (fed sends).1.framing
            else .overfull (fed sends).1.buffer.length limit), .closed, .disconnected]) ∧
      (¬ (fed sends).1.Blocked limit → ∀ cause, .broken cause ∈ entries →
        cause = .idle ∨ cause = .reset) := by
  intro outcome entries ending limit fresh sends fed
  have hemitted : Demux.emitted (fed sends) =
      packets (transcript fresh (Session.reads limit fresh sends)) := by
    rw [Demux.emitted_run_appends, Session.queue_taking, Demux.snd_popAll_withPolicy]
    rfl
  rw [hemitted]
  rcases run_serving config client steps with
    ⟨-, hstory, hsends, hending⟩ | ⟨before, listener, later, session, told, -, -, -, hstory,
      hcourse⟩
  · -- Of a client that is not there nothing is told, and a fresh demultiplexer is not blocked.
    have hnone : ending = none := hending
    have hentries : entries = [] := hstory
    rw [hnone, hentries, show sends = [] from hsends]
    refine ⟨rfl, ?_, ?_, nofun, ?_, nofun⟩
    · intro front back hsplit
      cases front <;> cases hsplit
    · constructor
      · rintro ⟨bytes, hbytes⟩
        cases hbytes
      · exact fun hblocked => absurd hblocked (not_blocked_withPolicy limit config.policy)
    · exact fun hblocked => absurd hblocked (not_blocked_withPolicy limit config.policy)
  · have hentries : entries = [.accepted listener, .connected] ++ told := hstory
    have hopening : Entry.closed ∉ [Entry.accepted listener, .connected] := by simp
    obtain ⟨hpackets, hfront⟩ := hcourse.packets_eq rfl hopening
    rw [Demux.snd_popAll_withPolicy] at hpackets hfront
    rw [hentries]
    refine ⟨hpackets, hfront, hcourse.blocked_iff, hcourse.last_send, ?_, ?_⟩
    · intro hblocked
      obtain ⟨front, hlast⟩ := hcourse.exists_eq_append hblocked
      refine ⟨[.accepted listener, .connected] ++ front, ?_⟩
      rw [hlast, List.append_assoc]
      rfl
    · intro hfree cause hmem
      rcases List.mem_append.mp hmem with hmem | hmem
      · simp at hmem
      · exact hcourse.cause_of_free hfree hmem

/-- A frame and the header of a long one are read, then two parts of that, of which the second one
is too much. What was whole until then is delivered, and all of it before the close. -/
theorem packets_story_eq_emitted_overfull :
    let config : Config :=
      { Config.standard with server := ⟨[⟨.v4 ⟨127, 0, 0, 1⟩ 0, 20⟩], 30⟩ }
    let message : Bytes := List.replicate 20 0x01
    let steps : List Step :=
      [.connect 0, .send 0 ([0x00, 0x14] ++ message ++ [0xFF, 0xFF]), .send 0 message,
        .send 0 message, .send 0 message]
    let outcome := config.serving.run steps
    let sends := heeded 0 steps outcome.2
    Session.reads 30 (.withPolicy config.policy) sends =
        [[0x00, 0x14] ++ message ++ [0xFF, 0xFF], message, message] ∧
      packets (story 0 outcome.2) = [⟨.stun, message⟩] ∧
      ∃ front, packets front = [⟨.stun, message⟩] ∧
        story 0 outcome.2 = front ++ [.broken (.overfull 42 30), .closed, .disconnected] := by
  intro config message steps outcome sends
  obtain ⟨hpackets, hfront, -, -, hblocked, -⟩ := packets_story_eq_emitted config 0 steps
  let fed := (Demux.withPolicy config.policy).run
    ((Session.reads 30 (.withPolicy config.policy) sends).map .append)
  have hemitted : Demux.emitted fed = [⟨.stun, message⟩] := by decide +kernel
  have hcause : (if fed.1.failed then Session.Cause.malformed fed.1.framing
      else .overfull fed.1.buffer.length 30) = .overfull 42 30 := by decide +kernel
  obtain ⟨front, hlast⟩ := hblocked (by decide +kernel)
  have hstory : story 0 outcome.2 =
      front ++ [.broken (.overfull 42 30), .closed, .disconnected] :=
    hlast.trans (congrArg (fun cause => front ++ [.broken cause, .closed, .disconnected]) hcause)
  have hdelivered : packets (front ++ [.broken (.overfull 42 30)]) = Demux.emitted fed :=
    hfront _ [.disconnected] (by rw [List.append_assoc]; exact hstory)
  rw [Session.packets_append] at hdelivered
  refine ⟨by decide +kernel, hpackets.trans hemitted, front, ?_, hstory⟩
  exact (List.append_nil _).symm.trans (hdelivered.trans hemitted)

end IceTcp.Server
