import IceTcp.Proofs.Server.Isolation
import IceTcp.Proofs.Session.Transcript
import IceTcp.Server.Service

/-!
# The life cycle of a session

A session begins when its client connects, tells of its reads one after the other, and ends in one
of five ways: its client ends the stream or the connection breaks, time runs out, the stream turns
out malformed, or too much of it stays unresolved. Whatever the way, it is closed once and nothing
follows.

Main results:

* `Session.flatten_reads_isPrefix`, `Session.length_of_mem_dropLast_reads`: in which pieces a
  session reads what its client sends.
* `step_of_open`: all that one step can do to an open session.
* `run_of_closed`, `run_of_open`, `run_of_absent`: what a sequence of steps tells of a client, by
  what the client has at its start.
* `story_run_serving`: the whole story of a client.
-/

namespace IceTcp

/-- The reads of a session with this limit, among what its client sends. -/
def Session.reads (limit : Nat) (demux : Demux) (sends : List Bytes) : List Bytes :=
  demux.admitted limit (sends.flatMap (Bytes.chunks Session.readSize))

theorem Session.reads_singleton (limit : Nat) (demux : Demux) (bytes : Bytes) :
    Session.reads limit demux [bytes] = demux.admitted limit (bytes.chunks Session.readSize) := by
  rw [reads, List.flatMap_singleton]

theorem Session.reads_cons {limit : Nat} {demux : Demux} {bytes : Bytes}
    (h : ¬ (demux.taking (reads limit demux [bytes])).Blocked limit) (sends : List Bytes) :
    reads limit demux (bytes :: sends) =
      reads limit demux [bytes] ++ reads limit (demux.taking (reads limit demux [bytes])) sends := by
  rw [reads_singleton] at h ⊢
  exact Demux.admitted_append_of_free h _

/-- What a session reads is a front of what its client sends, in pieces that a read can take. -/
theorem Session.flatten_reads_isPrefix (limit : Nat) (demux : Demux) (sends : List Bytes) :
    (reads limit demux sends).flatten <+: sends.flatten ∧
      ∀ piece ∈ reads limit demux sends, 0 < piece.length ∧ piece.length ≤ readSize := by
  obtain ⟨unread, hpieces⟩ := demux.admitted_isPrefix limit (sends.flatMap (Bytes.chunks readSize))
  constructor
  · have hsent : (sends.flatMap (Bytes.chunks readSize)).flatten = sends.flatten := by
      rw [List.flatMap_def, List.flatten_flatten, List.map_map]
      exact congrArg List.flatten (List.map_id'' (Bytes.flatten_chunks (by decide)) sends)
    refine ⟨unread.flatten, ?_⟩
    rw [← hsent, ← hpieces, List.flatten_append]
    rfl
  · intro piece hmem
    have hpiece : piece ∈ sends.flatMap (Bytes.chunks readSize) := by
      rw [← hpieces]
      exact List.mem_append_left _ hmem
    obtain ⟨bytes, -, hpiece⟩ := List.mem_flatMap.mp hpiece
    exact Bytes.length_of_mem_chunks hpiece

/-- Of one send, only the last piece that is read may be shorter. -/
theorem Session.length_of_mem_dropLast_reads {limit : Nat} {demux : Demux} {bytes piece : Bytes}
    (h : piece ∈ (reads limit demux [bytes]).dropLast) : piece.length = readSize := by
  rw [reads_singleton] at h
  obtain ⟨unread, hpieces⟩ := demux.admitted_isPrefix limit (bytes.chunks readSize)
  have hmem : piece ∈ (bytes.chunks readSize).dropLast := by
    rw [← hpieces]
    cases unread with
    | nil =>
      rw [List.append_nil]
      exact h
    | cons next unread =>
      rw [List.dropLast_append_of_ne_nil (List.cons_ne_nil next unread)]
      exact List.mem_append_left _ (List.dropLast_subset _ h)
  exact Bytes.length_of_mem_dropLast_chunks hmem
example :
    (Session.reads 5000 (.withPolicy .standard) [List.replicate 4100 0xFF]).map List.length =
      [4096, 4] := by decide +kernel

namespace Server

open Demux (not_blocked_withPolicy)
open Session (Entry Event live meet attend transcript)

/-! ## What a sequence of steps comes to for a client -/

/-- What a step sends for a client, unless it is answered that the client has no open session. -/
def Step.sent (client : Nat) (step : Step) (answer : Answer) : List Bytes :=
  match step with
  | .send other bytes => if other = client ∧ answer ≠ .notConnected then [bytes] else []
  | .connect _ | .finish _ | .reset _ | .wait _ => []

/-- The sends of a client that are not answered by its having no open session. -/
def heeded (client : Nat) : List Step → List Answer → List Bytes
  | step :: steps, answer :: answers => step.sent client answer ++ heeded client steps answers
  | _, _ => []

/-- Whether a client has had a session that is closed by now. -/
def hasClosed (server : Server) (client : Nat) : Bool :=
  server.sessions[client]?.any fun session => !session.isOpen

/-- The step in which the session of a client closes. -/
def closing? (client : Nat) (server : Server) : List Step → Option Step
  | [] => none
  | step :: steps =>
    if !server.hasClosed client && (server.step step).1.hasClosed client then some step
    else closing? client (server.step step).1 steps

/-- Whether a step may close a session of a client: time passes, the client does something, or it
connects to a listener without any patience. -/
def Step.Concerns (client : Nat) (session : Session) : Step → Prop
  | .send other _ | .finish other | .reset other => other = client
  | .connect _ => session.settings.idleTimeout = 0
  | .wait _ => True

/-- The cause that is told when a session closes in a step, by the state in which its reads leave a
bare demultiplexer. None is told when the client ends the stream. -/
def Step.cause? (limit : Nat) (demux : Demux) : Step → Option Session.Cause
  | .connect _ | .wait _ => some .idle
  | .send _ _ => some (demux.blockage limit)
  | .reset _ => some .reset
  | .finish _ => none

/-- The end of the story of a session, by the step in which it closes. -/
def finale (limit : Nat) (demux : Demux) : Option Step → List Entry
  | none => []
  | some step => ((step.cause? limit demux).map Entry.broken).toList ++ [.closed, .disconnected]

theorem count_closed_finale (limit : Nat) (demux : Demux) (ending : Option Step) :
    (finale limit demux ending).count .closed = if ending.isNone then 0 else 1 := by
  cases ending with
  | none => rfl
  | some step =>
    show (((step.cause? limit demux).map Entry.broken).toList ++ _).count .closed = 1
    rw [List.count_append]
    cases step.cause? limit demux <;> rfl

theorem hasClosed_of_none {server : Server} {client : Nat}
    (h : server.sessions[client]? = none) : server.hasClosed client = false := by
  rw [hasClosed, h]
  rfl

theorem hasClosed_of_some {server : Server} {client : Nat} {session : Session}
    (h : server.sessions[client]? = some session) :
    server.hasClosed client = !session.isOpen := by
  rw [hasClosed, h]
  rfl

/-! ## One step -/

section

variable {server : Server} {client : Nat}

theorem view_connect_of_present {session : Session}
    (hslot : server.sessions[client]? = some session) (listener : Nat) :
    view client (server.connect listener) = (some session, []) := by
  have hlength : client < server.sessions.length := (List.getElem?_eq_some_iff.mp hslot).1
  have hevent : event? server.listeners client server.sessions.length (.connect listener) =
      none := by
    simp only [event?]
    split
    · exact if_neg (Nat.ne_of_gt hlength)
    · rfl
  rw [view_connect, hevent, hslot]
  rfl

theorem view_connect_of_next (hclient : server.sessions.length = client) {listener : Nat}
    {settings : Session.Settings} (hlistener : server.listeners[listener]? = some settings) :
    view client (server.connect listener) =
      (some (Session.start listener settings server.now).1,
        (Session.start listener settings server.now).2) := by
  have hslot : server.sessions[client]? = none := List.getElem?_eq_none (Nat.le_of_eq hclient)
  have hevent : event? server.listeners client server.sessions.length (.connect listener) =
      some (.connect listener settings) := by
    simp only [event?, hlistener]
    exact if_pos hclient
  rw [view_connect, hevent, hslot, Option.toList_some, Session.live_cons]
  simp only [Session.live, List.append_nil]
  rfl

theorem view_act_of_open {session : Session} (hslot : server.sessions[client]? = some session)
    (hopen : session.isOpen = true) (action : Session → Session × List Entry) :
    view client (server.act client action) = (some (action session).1, (action session).2) := by
  rw [view_act, hslot, Session.attend_of_open hopen]

theorem view_act_of_closed {session : Session} (hslot : server.sessions[client]? = some session)
    (hclosed : session.isOpen = false) (other : Nat) (action : Session → Session × List Entry) :
    view client (server.act other action) = (some session, []) := by
  by_cases hother : other = client
  · rw [hother, view_act, hslot, Session.attend_of_closed hclosed]
  · rw [view_act_other hother, hslot]

theorem view_act_of_absent (hslot : server.sessions[client]? = none) (other : Nat)
    (action : Session → Session × List Entry) :
    view client (server.act other action) = (none, []) := by
  by_cases hother : other = client
  · rw [hother, view_act, hslot]
    rfl
  · rw [view_act_other hother, hslot]

theorem act_of_not_open
    (h : ∀ session, server.sessions[client]? = some session → session.isOpen = false)
    (action : Session → Session × List Entry) :
    server.act client action = (server, .notConnected) := by
  unfold act
  split
  · rename_i session hslot
    rw [if_neg (Bool.eq_false_iff.mp (h session hslot))]
  · rfl

theorem not_open_of_closed {session : Session} (hslot : server.sessions[client]? = some session)
    (hclosed : session.isOpen = false) :
    ∀ other, server.sessions[client]? = some other → other.isOpen = false := by
  intro other hother
  rw [hslot] at hother
  obtain rfl := Option.some.inj hother
  exact hclosed

theorem sent_of_not_open
    (h : ∀ session, server.sessions[client]? = some session → session.isOpen = false)
    (step : Step) : step.sent client (server.step step).2 = [] := by
  cases step with
  | send other bytes =>
    show (if other = client ∧ (server.act other _).2 ≠ .notConnected then [bytes] else []) = []
    rw [if_neg]
    rintro ⟨rfl, hanswer⟩
    rw [act_of_not_open h] at hanswer
    exact hanswer rfl
  | connect listener => rfl
  | finish other => rfl
  | reset other => rfl
  | wait duration => rfl

theorem view_step_of_closed {session : Session} (hslot : server.sessions[client]? = some session)
    (hclosed : session.isOpen = false) (step : Step) :
    view client (server.step step) = (some session, []) := by
  cases step with
  | connect listener => exact view_connect_of_present hslot listener
  | send other bytes => exact view_act_of_closed hslot hclosed other _
  | finish other => exact view_act_of_closed hslot hclosed other _
  | reset other => exact view_act_of_closed hslot hclosed other _
  | wait duration =>
    show view client (server.wait duration) = _
    rw [view_wait, hslot, Session.attend_of_closed hclosed]

/-- All that a step can do to an open session: nothing, a send, or a close for another cause than a
read. -/
theorem step_of_open {session : Session} (hslot : server.sessions[client]? = some session)
    (hopen : session.isOpen = true) (step : Step) :
    (view client (server.step step) = (some session, []) ∧
        step.sent client (server.step step).2 = []) ∨
      (∃ bytes, step = .send client bytes ∧
        view client (server.step step) =
          (some (session.send server.now bytes).1, (session.send server.now bytes).2) ∧
        step.sent client (server.step step).2 = [bytes]) ∨
      ∃ cause, (∀ limit demux, step.cause? limit demux = cause) ∧
        (∀ bytes, step ≠ .send client bytes) ∧ step.Concerns client (session.close cause).1 ∧
        view client (server.step step) =
          (some (session.close cause).1, (session.close cause).2) ∧
        step.sent client (server.step step).2 = [] := by
  have hother {other : Nat} (h : other ≠ client) (action : Session → Session × List Entry) :
      view client (server.act other action) = (some session, []) := by
    rw [view_act_other h, hslot]
  cases step with
  | connect listener =>
    left
    exact ⟨view_connect_of_present hslot listener, rfl⟩
  | send other bytes =>
    by_cases h : other = client
    · subst h
      right
      left
      refine ⟨bytes, rfl, view_act_of_open hslot hopen _, ?_⟩
      show (if other = other ∧ (server.act other _).2 ≠ .notConnected then [bytes] else []) = _
      refine if_pos ⟨rfl, ?_⟩
      simp only [act, hslot, hopen, if_true]
      exact Answer.noConfusion
    · left
      exact ⟨hother h _, if_neg fun hsent => h hsent.1⟩
  | finish other =>
    by_cases h : other = client
    · subst h
      right
      right
      exact ⟨none, fun _ _ => rfl, fun _ => Step.noConfusion, rfl,
        view_act_of_open hslot hopen _, rfl⟩
    · left
      exact ⟨hother h _, rfl⟩
  | reset other =>
    by_cases h : other = client
    · subst h
      right
      right
      exact ⟨some .reset, fun _ _ => rfl, fun _ => Step.noConfusion, rfl,
        view_act_of_open hslot hopen _, rfl⟩
    · left
      exact ⟨hother h _, rfl⟩
  | wait duration =>
    have hview : view client (server.step (.wait duration)) =
        (some (session.expire (server.now + duration)).1,
          (session.expire (server.now + duration)).2) := by
      show view client (server.wait duration) = _
      rw [view_wait, hslot, Session.attend_of_open hopen]
    rw [hview]
    by_cases hdeadline : session.isOpen ∧ session.deadline ≤ server.now + duration
    · right
      right
      refine ⟨some .idle, fun _ _ => rfl, fun _ => Step.noConfusion, trivial, ?_, rfl⟩
      rw [Session.expire, if_pos hdeadline]
    · left
      rw [Session.expire, if_neg hdeadline]
      exact ⟨rfl, rfl⟩

/-- All that a step can do for a client that is not there: nothing, or its connection. -/
theorem step_of_absent (hslot : server.sessions[client]? = none) (step : Step) :
    view client (server.step step) = (none, []) ∨
      ∃ listener settings, step = .connect listener ∧
        server.listeners[listener]? = some settings ∧ server.sessions.length = client ∧
        view client (server.step step) =
          (some (Session.start listener settings server.now).1,
            (Session.start listener settings server.now).2) := by
  cases step with
  | connect listener =>
    have hview := view_connect server client listener
    rw [hslot] at hview
    cases hsettings : server.listeners[listener]? with
    | none =>
      left
      simp only [event?, hsettings] at hview
      exact hview
    | some settings =>
      by_cases hclient : server.sessions.length = client
      · right
        exact ⟨listener, settings, rfl, hsettings, hclient,
          view_connect_of_next hclient hsettings⟩
      · left
        simp only [event?, hsettings] at hview
        rw [if_neg hclient] at hview
        exact hview
  | send other bytes =>
    left
    exact view_act_of_absent hslot other _
  | finish other =>
    left
    exact view_act_of_absent hslot other _
  | reset other =>
    left
    exact view_act_of_absent hslot other _
  | wait duration =>
    left
    show view client (server.wait duration) = _
    rw [view_wait, hslot]
    rfl

/-! ## Many steps -/

theorem story_append (client : Nat) (first second : List Answer) :
    story client (first ++ second) = story client first ++ story client second :=
  List.flatMap_append

theorem story_cons (step : Step) (steps : List Step) :
    story client (server.run (step :: steps)).2 =
      (view client (server.step step)).2 ++
        story client ((server.step step).1.run steps).2 := rfl

theorem heeded_cons (step : Step) (steps : List Step) :
    heeded client (step :: steps) (server.run (step :: steps)).2 =
      step.sent client (server.step step).2 ++
        heeded client steps ((server.step step).1.run steps).2 := rfl

/-- Nothing follows the end of a session. -/
theorem run_of_closed {session : Session} (hslot : server.sessions[client]? = some session)
    (hclosed : session.isOpen = false) (steps : List Step) :
    (server.run steps).1.sessions[client]? = some session ∧
      story client (server.run steps).2 = [] ∧
      heeded client steps (server.run steps).2 = [] ∧
      closing? client server steps = none := by
  induction steps generalizing server with
  | nil => exact ⟨hslot, rfl, rfl, rfl⟩
  | cons step steps ih =>
    obtain ⟨hlater, hentries⟩ := Prod.mk.inj (view_step_of_closed hslot hclosed step)
    obtain ⟨hfinal, hstory, hheeded, hclosing⟩ := ih hlater
    have hnotOpen := not_open_of_closed hslot hclosed
    refine ⟨hfinal, ?_, ?_, ?_⟩
    · rw [story_cons, hstory, List.append_nil]
      exact hentries
    · rw [heeded_cons, sent_of_not_open hnotOpen, hheeded]
      rfl
    · rw [closing?, hasClosed_of_some hslot, hclosed, hclosing]
      rfl

/-- Once a step has closed the session of a client, its answer is the last that tells of it. -/
theorem run_cons_of_closing {step : Step} {session : Session} {entries : List Entry}
    (hbefore : server.hasClosed client = false)
    (hview : view client (server.step step) = (some session, entries))
    (hclosed : session.isOpen = false) (steps : List Step) :
    (server.run (step :: steps)).1.sessions[client]? = some session ∧
      story client (server.run (step :: steps)).2 = entries ∧
      heeded client (step :: steps) (server.run (step :: steps)).2 =
        step.sent client (server.step step).2 ∧
      closing? client server (step :: steps) = some step := by
  obtain ⟨hlater, hentries⟩ := Prod.mk.inj hview
  obtain ⟨hfinal, hstory, hheeded, -⟩ := run_of_closed hlater hclosed steps
  refine ⟨hfinal, ?_, ?_, ?_⟩
  · rw [story_cons, hstory, List.append_nil]
    exact hentries
  · rw [heeded_cons, hheeded, List.append_nil]
  · rw [closing?, hbefore, hasClosed_of_some hlater, hclosed]
    rfl

/-- A step that leaves a client open or absent is not the one in which its session closes. -/
theorem closing?_cons {step : Step} (h : (server.step step).1.hasClosed client = false)
    (steps : List Step) :
    closing? client server (step :: steps) = closing? client (server.step step).1 steps := by
  rw [closing?, h, Bool.and_false, if_neg Bool.false_ne_true]

/-- What the story of a session is, from a moment on at which it was open: the transcript of its
reads and, if it has closed, its end. -/
structure Course (client limit : Nat) (demux : Demux) (sends : List Bytes) (ending : Option Step)
    (entries : List Entry) (session : Session) : Prop where
  entries_eq : entries =
    transcript demux.popAll.2 (Session.reads limit demux sends) ++
      finale limit (demux.taking (Session.reads limit demux sends)) ending
  isOpen_eq : session.isOpen = ending.isNone
  /-- It closes in a send exactly when its reads block it. -/
  blocked_iff : (∃ bytes, ending = some (.send client bytes)) ↔
    (demux.taking (Session.reads limit demux sends)).Blocked limit
  /-- That send is the last one, and the reads before it do not block. -/
  last_send : ∀ bytes, ending = some (.send client bytes) → ∃ earlier, sends = earlier ++ [bytes] ∧
    ¬ (demux.taking (Session.reads limit demux earlier)).Blocked limit
  concerns : ∀ step, ending = some step → step.Concerns client session

theorem Course.nil {limit : Nat} {demux : Demux} {session : Session} (hopen : session.isOpen = true)
    (hfree : ¬ demux.Blocked limit) : Course client limit demux [] none [] session := by
  refine ⟨rfl, hopen, ?_, nofun, nofun⟩
  constructor
  · rintro ⟨bytes, hbytes⟩
    cases hbytes
  · exact fun hblocked => absurd hblocked hfree

theorem Course.cons {limit : Nat} {demux : Demux} {sends : List Bytes} {ending : Option Step}
    {entries : List Entry} {session : Session} {bytes : Bytes}
    (hfree : ¬ (demux.taking (Session.reads limit demux [bytes])).Blocked limit)
    (h : Course client limit (demux.taking (Session.reads limit demux [bytes])) sends ending entries
      session) :
    Course client limit demux (bytes :: sends) ending
      (transcript demux.popAll.2 (Session.reads limit demux [bytes]) ++ entries) session := by
  have hreads := Session.reads_cons hfree sends
  obtain ⟨hentries, hopen, hblocked, hlast, hconcerns⟩ := h
  refine ⟨?_, hopen, ?_, ?_, hconcerns⟩
  · rw [hentries, hreads, Session.transcript_append, Demux.taking_append, List.append_assoc]
  · rw [hblocked, hreads, Demux.taking_append]
  · intro final hfinal
    obtain ⟨earlier, rfl, hearlier⟩ := hlast final hfinal
    refine ⟨bytes :: earlier, rfl, ?_⟩
    rw [Session.reads_cons hfree earlier, Demux.taking_append]
    exact hearlier

theorem Course.of_blocked {limit : Nat} {demux : Demux} {session : Session} {bytes : Bytes}
    (hfree : ¬ demux.Blocked limit) (hclosed : session.isOpen = false)
    (hblocked : (demux.taking (Session.reads limit demux [bytes])).Blocked limit) :
    Course client limit demux [bytes] (some (.send client bytes))
      (transcript demux.popAll.2 (Session.reads limit demux [bytes]) ++
        [.broken ((demux.taking (Session.reads limit demux [bytes])).blockage limit), .closed,
          .disconnected]) session := by
  refine ⟨rfl, hclosed, ⟨fun _ => hblocked, fun _ => ⟨bytes, rfl⟩⟩, ?_, ?_⟩
  · intro final hfinal
    obtain ⟨-, rfl⟩ := Step.send.inj (Option.some.inj hfinal)
    exact ⟨[], rfl, hfree⟩
  · intro step hstep
    obtain rfl := Option.some.inj hstep
    rfl

theorem Course.of_cause {limit : Nat} {demux : Demux} {session : Session} {step : Step}
    {cause : Option Session.Cause} (hfree : ¬ demux.Blocked limit)
    (hclosed : session.isOpen = false) (hcause : step.cause? limit demux = cause)
    (hsend : ∀ bytes, step ≠ .send client bytes) (hconcerns : step.Concerns client session) :
    Course client limit demux [] (some step)
      ((cause.map Entry.broken).toList ++ [.closed, .disconnected]) session := by
  refine ⟨?_, hclosed, ?_, ?_, ?_⟩
  · show _ = [] ++ (((step.cause? limit demux).map Entry.broken).toList ++ [.closed, .disconnected])
    rw [hcause, List.nil_append]
  · constructor
    · rintro ⟨bytes, hbytes⟩
      exact absurd (Option.some.inj hbytes) (hsend bytes)
    · exact fun hblocked => absurd hblocked hfree
  · intro bytes hbytes
    exact absurd (Option.some.inj hbytes) (hsend bytes)
  · intro other hother
    obtain rfl := Option.some.inj hother
    exact hconcerns

/-- The course of a session that is open. -/
theorem run_of_open {session : Session} {demux : Demux}
    (hslot : server.sessions[client]? = some session) (hfollows : session.Follows demux)
    (steps : List Step) :
    ∃ after, (server.run steps).1.sessions[client]? = some after ∧
      Course client session.settings.maxBufferSize demux
        (heeded client steps (server.run steps).2) (closing? client server steps)
        (story client (server.run steps).2) after := by
  -- Until some step closes the session, it follows the bare demultiplexer that takes its reads.
  induction steps generalizing server session demux with
  | nil => exact ⟨session, hslot, .nil hfollows.isOpen hfollows.free⟩
  | cons step steps ih =>
    have hbefore : server.hasClosed client = false := by
      rw [hasClosed_of_some hslot, hfollows.isOpen]
      rfl
    rcases step_of_open hslot hfollows.isOpen step with
      ⟨hview, hsent⟩ | ⟨bytes, rfl, hview, hsent⟩ | ⟨cause, hcause, hsend, hconcerns, hview, hsent⟩
    · -- Nothing has happened to the session.
      obtain ⟨hlater, hentries⟩ := Prod.mk.inj hview
      obtain ⟨after, hfinal, hcourse⟩ := ih hlater hfollows
      have hafter : (server.step step).1.hasClosed client = false := by
        rw [hasClosed_of_some hlater, hfollows.isOpen]
        rfl
      refine ⟨after, hfinal, ?_⟩
      rw [closing?_cons hafter, story_cons, heeded_cons, hsent, hview]
      exact hcourse
    · have hreads := Session.reads_singleton session.settings.maxBufferSize demux bytes
      by_cases hblocked : (demux.taking (Session.reads session.settings.maxBufferSize demux
          [bytes])).Blocked session.settings.maxBufferSize
      · -- The send has closed the session.
        obtain ⟨htold, hclosed⟩ := Session.receive_of_blocked hfollows server.now (hreads ▸ hblocked)
        rw [← hreads] at htold
        obtain ⟨hfinal, hstory, hheeded, hclosing⟩ :=
          run_cons_of_closing hbefore hview hclosed steps
        refine ⟨_, hfinal, ?_⟩
        rw [hclosing, hstory, hheeded, hsent, Session.send, htold]
        exact .of_blocked hfollows.free hclosed hblocked
      · -- The session goes on with what the send has brought.
        obtain ⟨htold, hsettings, hgoing⟩ :=
          Session.receive_of_free hfollows server.now (hreads ▸ hblocked)
        rw [← hreads] at htold hgoing
        obtain ⟨hlater, hentries⟩ := Prod.mk.inj hview
        obtain ⟨after, hfinal, hcourse⟩ := ih hlater hgoing
        have hafter : (server.step (.send client bytes)).1.hasClosed client = false := by
          rw [hasClosed_of_some hlater, Session.send, hgoing.isOpen]
          rfl
        rw [Session.send, hsettings] at hcourse
        refine ⟨after, hfinal, ?_⟩
        rw [closing?_cons hafter, story_cons, heeded_cons, hsent, hview, Session.send, htold]
        exact hcourse.cons hblocked
    · -- The session has closed without a read.
      obtain ⟨hfinal, hstory, hheeded, hclosing⟩ :=
        run_cons_of_closing hbefore hview (Session.close_isOpen session cause) steps
      refine ⟨_, hfinal, ?_⟩
      rw [hclosing, hstory, hheeded, hsent]
      exact .of_cause hfollows.free (Session.close_isOpen session cause) (hcause _ _) hsend hconcerns

/-- What a sequence of steps tells of a client that is not there yet: nothing until it connects. -/
theorem run_of_absent (hslot : server.sessions[client]? = none) (steps : List Step) :
    ((server.run steps).1.sessions[client]? = none ∧ story client (server.run steps).2 = [] ∧
        heeded client steps (server.run steps).2 = [] ∧ closing? client server steps = none) ∨
      ∃ before listener later settings session entries,
        steps = before ++ .connect listener :: later ∧
        (server.run before).1.sessions.length = client ∧
        server.listeners[listener]? = some settings ∧
        (server.run steps).1.sessions[client]? = some session ∧
        story client (server.run steps).2 = .accepted listener :: .connected :: entries ∧
        Course client settings.maxBufferSize (.withPolicy settings.policy)
          (heeded client steps (server.run steps).2) (closing? client server steps) entries
          session := by
  induction steps generalizing server with
  | nil => exact .inl ⟨hslot, rfl, rfl, rfl⟩
  | cons step steps ih =>
    have hbefore := hasClosed_of_none hslot
    have hsent : step.sent client (server.step step).2 = [] := by
      refine sent_of_not_open (fun session hsession => ?_) step
      rw [hslot] at hsession
      cases hsession
    rcases step_of_absent hslot step with
      hview | ⟨listener, settings, rfl, hsettings, hclient, hview⟩
    · -- The client is still not there.
      obtain ⟨hlater, hentries⟩ := Prod.mk.inj hview
      have hlisteners := (frame_step server client step).1
      rcases ih hlater with
        ⟨hfinal, hstory, hheeded, hclosing⟩ | ⟨before, listener, later, settings, session, entries,
          rfl, hcount, hsettings, hfinal, hstory, hcourse⟩
      · left
        refine ⟨hfinal, ?_, ?_, ?_⟩
        · rw [story_cons, hview, hstory]
          rfl
        · rw [heeded_cons, hsent, hheeded]
          rfl
        · rw [closing?_cons (hasClosed_of_none hlater), hclosing]
      · right
        refine ⟨step :: before, listener, later, settings, session, entries, rfl, hcount,
          hlisteners ▸ hsettings, hfinal, ?_, ?_⟩
        · rw [story_cons, hview, hstory]
          rfl
        · rw [closing?_cons (hasClosed_of_none hlater), heeded_cons, hsent]
          exact hcourse
    · right
      have hfree := not_blocked_withPolicy settings.maxBufferSize settings.policy
      by_cases hpatience : settings.idleTimeout = 0
      · -- Without any patience the session closes at once.
        rw [Session.start_of_zero hpatience] at hview
        obtain ⟨hfinal, hstory, hheeded, hclosing⟩ := run_cons_of_closing hbefore hview rfl steps
        refine ⟨[], listener, steps, settings, _, _, rfl, hclient, hsettings, hfinal, hstory, ?_⟩
        rw [hclosing, hheeded, hsent]
        exact .of_cause hfree rfl rfl (fun _ => Step.noConfusion) hpatience
      · rw [Session.start_of_pos (Nat.pos_of_ne_zero hpatience)] at hview
        obtain ⟨hlater, hentries⟩ := Prod.mk.inj hview
        obtain ⟨after, hfinal, hcourse⟩ := run_of_open hlater
          ⟨rfl, (Demux.snd_popAll_withPolicy _).symm, hfree⟩ steps
        refine ⟨[], listener, steps, settings, after,
          story client ((server.step (.connect listener)).1.run steps).2, rfl, hclient, hsettings,
          hfinal, ?_, ?_⟩
        · rw [story_cons, hview]
          rfl
        · rw [closing?_cons (hasClosed_of_some hlater), heeded_cons, hsent]
          exact hcourse

end

/-- What a server of a configuration tells of a client: nothing, or its connection and the course of
its session from then on. -/
theorem run_serving (config : Config) (client : Nat) (steps : List Step) :
    let outcome := config.serving.run steps
    let sends := heeded client steps outcome.2
    let ending := closing? client config.serving steps
    (outcome.1.sessions[client]? = none ∧ story client outcome.2 = [] ∧ sends = [] ∧
        ending = none) ∨
      ∃ before listener later session entries,
        steps = before ++ .connect listener :: later ∧
        (config.serving.run before).1.sessions.length = client ∧
        outcome.1.sessions[client]? = some session ∧
        story client outcome.2 = .accepted listener :: .connected :: entries ∧
        Course client config.server.maxBufferSize (.withPolicy config.policy) sends ending entries
          session := by
  intro outcome sends ending
  have hslot : config.serving.sessions[client]? = none := rfl
  rcases run_of_absent hslot steps with
    habsent | ⟨before, listener, later, settings, session, entries, hsteps, hcount, hsettings, hfinal,
      hstory, hcourse⟩
  · exact .inl habsent
  · have hmem : settings ∈ config.server.interfaces.map config.settings :=
      List.mem_of_getElem? hsettings
    obtain ⟨interface, -, rfl⟩ := List.mem_map.mp hmem
    exact .inr ⟨before, listener, later, session, entries, hsteps, hcount, hfinal, hstory, hcourse⟩

/-- The life cycle of a session. Of a client that has not connected nothing is told. Of any other it
is told that it was accepted and has connected, then for each read the records of the append and its
packets, and, if and only if its session has closed, an end: at most one cause, the close and the
disconnection. The cause is told by the step in which the session closes: idleness where time has
passed, or none was given; a reset; none where the client has ended the stream; and in a send what
has blocked the reads. After that nothing is told any more, and whatever the client does is
answered by its not being connected and changes nothing. -/
theorem story_run_serving (config : Config) (client : Nat) (steps : List Step) :
    let outcome := config.serving.run steps
    let limit := config.server.maxBufferSize
    let fresh := Demux.withPolicy config.policy
    let reads := Session.reads limit fresh (heeded client steps outcome.2)
    let demux := (fresh.run (reads.map .append)).1
    let ending := closing? client config.serving steps
    (outcome.1.sessions[client]? = none → story client outcome.2 = []) ∧
      ∀ session, outcome.1.sessions[client]? = some session →
        (∃ before listener later, steps = before ++ .connect listener :: later ∧
          (config.serving.run before).1.sessions.length = client ∧
          story client outcome.2 =
            [.accepted listener, .connected] ++ transcript fresh reads ++
              finale limit demux ending) ∧
        (story client outcome.2).count .closed = (if session.isOpen then 0 else 1) ∧
        session.isOpen = ending.isNone ∧
        ((∃ bytes, ending = some (.send client bytes)) ↔
          demux.failed = true ∨ limit < demux.buffer.length) ∧
        (∀ step, ending = some step → step.Concerns client session) ∧
        (session.isOpen = false →
          (∀ more, (config.serving.run (steps ++ more)).1.sessions[client]? = some session ∧
            story client (config.serving.run (steps ++ more)).2 = story client outcome.2) ∧
          (∀ bytes, outcome.1.step (.send client bytes) = (outcome.1, .notConnected)) ∧
          outcome.1.step (.finish client) = (outcome.1, .notConnected) ∧
          outcome.1.step (.reset client) = (outcome.1, .notConnected)) := by
  intro outcome limit fresh reads demux ending
  rcases run_serving config client steps with
    ⟨habsent, hstory, -, -⟩ | ⟨before, listener, later, session, entries, hsteps, hcount, hslot,
      hstory, hcourse⟩
  · refine ⟨fun _ => hstory, fun session hsession => ?_⟩
    rw [show outcome.1.sessions[client]? = none from habsent] at hsession
    cases hsession
  · constructor
    · intro habsent
      rw [show outcome.1.sessions[client]? = some session from hslot] at habsent
      cases habsent
    · intro other hother
      rw [show outcome.1.sessions[client]? = some session from hslot] at hother
      obtain rfl := Option.some.inj hother
      obtain ⟨hentries, hopen, hblocked, -, hconcerns⟩ := hcourse
      rw [Demux.snd_popAll_withPolicy] at hentries
      have hshape : story client outcome.2 =
          [.accepted listener, .connected] ++ transcript fresh reads ++
            finale limit demux ending := by
        rw [List.append_assoc]
        exact hstory.trans (congrArg _ (congrArg _ hentries))
      refine ⟨⟨before, listener, later, hsteps, hcount, hshape⟩, ?_, hopen, hblocked, hconcerns, ?_⟩
      · have hopening : [Entry.accepted listener, .connected].count .closed = 0 := rfl
        rw [hshape, hopen, List.count_append, List.count_append, hopening,
          Session.count_closed_transcript, count_closed_finale, Nat.zero_add]
      · intro hclosed
        -- Nothing can be done for a client without an open session, and nothing is told of it.
        have hnotOpen : ∀ later, outcome.1.sessions[client]? = some later →
            later.isOpen = false := by
          intro later hlater
          rw [show outcome.1.sessions[client]? = some session from hslot] at hlater
          obtain rfl := Option.some.inj hlater
          exact hclosed
        refine ⟨fun more => ?_, fun bytes => act_of_not_open hnotOpen _,
          act_of_not_open hnotOpen fun session => session.close none,
          act_of_not_open hnotOpen fun session => session.close (some .reset)⟩
        obtain ⟨hfinal, hmore, -, -⟩ := run_of_closed hslot hclosed more
        rw [run_append]
        refine ⟨hfinal, ?_⟩
        rw [story_append, hmore, List.append_nil]

/-- A frame that comes in two reads is delivered, and the third read ends a header that announces
too little. What the client is told ends there, whatever follows. -/
theorem story_run_serving_undersized :
    let config : Config :=
      { Config.standard with
        server := ⟨[⟨.v4 ⟨127, 0, 0, 1⟩ 0, 20⟩], ServerSettings.standardMaxBufferSize⟩ }
    let message : Bytes := List.replicate 20 0x01
    let steps : List Step :=
      [.connect 0, .send 0 [0x00, 0x14], .wait 15000, .send 0 (message ++ [0x00]), .send 0 [0x13],
        .send 0 message]
    let told : List Entry :=
      [.accepted 0, .connected, .recorded (.recognized .frame), .recorded (.frame 20 .stun),
        .received ⟨.stun, message⟩, .recorded (.fault (.frameLength 19)),
        .broken (.malformed .direct), .closed, .disconnected]
    heeded 0 steps (config.serving.run steps).2 = [[0x00, 0x14], message ++ [0x00], [0x13]] ∧
      closing? 0 config.serving steps = some (.send 0 [0x13]) ∧
      told.count .closed = 1 ∧
      ∀ more, story 0 (config.serving.run (steps ++ more)).2 = told := by
  intro config message steps told
  let session : Session :=
    ⟨config.settings ⟨.v4 ⟨127, 0, 0, 1⟩ 0, 20⟩,
      ⟨config.policy, .direct, [0x00, 0x13], [], true⟩, 15000, false⟩
  have hslot : (config.serving.run steps).1.sessions[0]? = some session := by decide +kernel
  have hstory : story 0 (config.serving.run steps).2 = told := by decide +kernel
  obtain ⟨-, hcount, -, -, -, hfrozen⟩ := (story_run_serving config 0 steps).2 session hslot
  refine ⟨by decide +kernel, by decide +kernel, ?_, ?_⟩
  · rw [← hstory]
    exact hcount
  · intro more
    rw [← hstory]
    exact ((hfrozen rfl).1 more).2

end Server

end IceTcp
