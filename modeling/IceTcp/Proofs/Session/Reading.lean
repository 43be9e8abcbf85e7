import IceTcp.Proofs.Demux.Capacity
import IceTcp.Session

/-!
# Reading a stream in pieces

A session reads in pieces of bounded size, and after each piece it delivers packets, closes on a
malformed stream, and compares what is left with its limit. If the limit is at least the capacity of
the demultiplexer then the comparison never closes the session, and what the observer is told does
not depend on the pieces. If the limit is below the capacity, a silent stream is longer than it, and
some read closes the session before the stream has ended.

Main results:

* `gist_receive`: reading pieces is reading all of them at once.
* `receive_of_roomy`: with enough room no read closes the session for lack of room.
* `receive_of_silent`: a silent stream beyond the limit closes the session.
-/

namespace IceTcp.Session

/-! ## What is observed -/

/-- Whether the observer of a server is told. -/
def Entry.isObserved : Entry → Bool
  | .connected | .received _ | .closed => true
  | .accepted _ | .recorded _ | .broken _ | .disconnected => false

/-- The entries that the observer is told. -/
def observed (entries : List Entry) : List Entry := entries.filter Entry.isObserved

@[simp] theorem observed_append (first second : List Entry) :
    observed (first ++ second) = observed first ++ observed second := List.filter_append ..

theorem observed_recorded (records : List Record) :
    observed (records.map Entry.recorded) = [] := by
  rw [observed, List.filter_eq_nil_iff]
  intro entry hmem
  obtain ⟨record, -, rfl⟩ := List.mem_map.mp hmem
  exact Bool.false_ne_true

theorem observed_received (packets : List Packet) :
    observed (packets.map Entry.received) = packets.map Entry.received := by
  rw [observed, List.filter_eq_self]
  intro entry hmem
  obtain ⟨packet, -, rfl⟩ := List.mem_map.mp hmem
  rfl

/-- What can still matter of a session: all of it while it is open, nothing afterwards. -/
def standing (session : Session) : Option Session := if session.isOpen then some session else none

theorem standing_of_open {session : Session} (h : session.isOpen = true) :
    session.standing = some session := if_pos h

theorem standing_of_closed {session : Session} (h : session.isOpen = false) :
    session.standing = none := by
  rw [standing, if_neg]
  rw [h]
  exact Bool.false_ne_true

theorem isOpen_of_standing {session : Session} (h : session.standing = none) :
    session.isOpen = false := by
  rw [standing] at h
  split at h
  · cases h
  · rename_i hclosed
    exact Bool.eq_false_iff.mpr hclosed

theorem isSome_standing (session : Session) : session.standing.isSome = session.isOpen := by
  cases hopen : session.isOpen with
  | true => rw [standing_of_open hopen, Option.isSome_some]
  | false => rw [standing_of_closed hopen, Option.isSome_none]

/-- What matters of something that has happened in a session. -/
def gist (outcome : Session × List Entry) : Option Session × List Entry :=
  (outcome.1.standing, observed outcome.2)

/-! ## One read -/

/-- The limit is not below what the demultiplexer may hold back. -/
def Settings.Ample (settings : Settings) : Prop := settings.policy.capacity ≤ settings.maxBufferSize

/-- An undisturbed session between two reads, with a limit that is not in the way. -/
structure Roomy (session : Session) : Prop where
  silent : session.demux.Silent
  room : session.demux.policy.capacity ≤ session.settings.maxBufferSize

/-- The session after a read that it goes on from. -/
def refreshed (session : Session) (now : Nat) (demux : Demux) : Session :=
  { session with demux := { demux with queue := [] }, lastActivity := now }

theorem read_eq (now : Nat) (session : Session) (bytes : Bytes) :
    session.read now bytes =
      let (appended, records) := session.demux.append bytes
      let active := session.refreshed now appended
      let entries := records.map Entry.recorded ++ appended.queue.map Entry.received
      match active.fault? with
      | some cause => ((active.close (some cause)).1, entries ++ (active.close (some cause)).2)
      | none => (active, entries) := by
  simp only [read, Demux.popAll_eq]
  rfl

/-- With enough room only a malformed stream keeps a session from going on. -/
theorem fault?_of_roomy {session : Session} (h : session.Roomy) (now : Nat) (bytes : Bytes) :
    (session.refreshed now (session.demux.append bytes).1).fault? =
      if (session.demux.append bytes).1.failed then
        some (.malformed (session.demux.append bytes).1.framing)
      else none := by
  unfold fault?
  cases hfailed : (session.demux.append bytes).1.failed with
  | true => simp only [refreshed, hfailed, if_true]
  | false =>
    have hlength := Demux.length_buffer_append_le h.silent.sound hfailed
    have hroom : ¬ session.settings.maxBufferSize <
        (session.demux.append bytes).1.buffer.length :=
      Nat.not_lt.mpr (Nat.le_trans hlength h.room)
    simp only [refreshed, hfailed, Bool.false_eq_true, if_false, if_neg hroom]

theorem roomy_refreshed {session : Session} (h : session.Roomy) (now : Nat) {bytes : Bytes}
    (hsound : (session.demux.append bytes).1.failed = false) :
    (session.refreshed now (session.demux.append bytes).1).Roomy := by
  refine ⟨⟨hsound, rfl⟩, ?_⟩
  simp only [refreshed, Demux.policy_append]
  exact h.room

/-- What a read comes down to when the demultiplexer ends like this: the packets that it has
completed, and whether the session goes on. -/
def conclude (session : Session) (now : Nat) (demux : Demux) : Option Session × List Entry :=
  if demux.failed then (none, demux.queue.map Entry.received ++ [.closed])
  else (some (session.refreshed now demux), demux.queue.map Entry.received)

theorem conclude_of_failed {session : Session} {demux : Demux} (h : demux.failed = true)
    (now : Nat) :
    session.conclude now demux = (none, demux.queue.map Entry.received ++ [.closed]) := if_pos h

theorem conclude_of_sound {session : Session} {demux : Demux} (h : demux.failed = false)
    (now : Nat) :
    session.conclude now demux =
      (some (session.refreshed now demux), demux.queue.map Entry.received) :=
  if_neg (Bool.eq_false_iff.mp h)

theorem conclude_queue (session : Session) (now : Nat) (demux : Demux) (waiting : List Packet) :
    session.conclude now { demux with queue := waiting ++ demux.queue } =
      ((session.conclude now demux).1,
        waiting.map Entry.received ++ (session.conclude now demux).2) := by
  obtain ⟨policy, framing, buffer, queue, failed⟩ := demux
  unfold conclude
  cases failed with
  | true => simp only [if_true, List.map_append, List.append_assoc]
  | false =>
    simp only [Bool.false_eq_true, if_false, List.map_append]
    rfl

theorem gist_read {session : Session} (hopen : session.isOpen = true) (h : session.Roomy)
    (now : Nat) (bytes : Bytes) :
    gist (session.read now bytes) = session.conclude now (session.demux.append bytes).1 := by
  rw [read_eq]
  simp only [fault?_of_roomy h]
  cases hfailed : (session.demux.append bytes).1.failed with
  | true =>
    rw [conclude_of_failed hfailed]
    simp only [if_true, gist, observed_append, observed_recorded, observed_received,
      List.nil_append]
    rw [standing_of_closed (close_isOpen _ _)]
    rfl
  | false =>
    have hactive : (session.refreshed now (session.demux.append bytes).1).isOpen = true := hopen
    rw [conclude_of_sound hfailed]
    simp only [Bool.false_eq_true, if_false, gist, observed_append, observed_recorded,
      observed_received, List.nil_append]
    rw [standing_of_open hactive]

theorem gist_read_append_of_failed {session : Session} (hopen : session.isOpen = true)
    (h : session.Roomy) (now : Nat) {first : Bytes}
    (hfailed : (session.demux.append first).1.failed = true) (second : Bytes) :
    gist (session.read now (first ++ second)) = gist (session.read now first) := by
  have hmore : ((session.demux.append (first ++ second)).1).failed = true := by
    rw [Demux.append_append_of_failed h.silent.sound hfailed]
    exact hfailed
  rw [gist_read hopen h, gist_read hopen h, conclude_of_failed hmore, conclude_of_failed hfailed,
    Demux.append_append_of_failed h.silent.sound hfailed]

/-- A read of a sound front and of what follows it comes down to two reads. -/
theorem gist_read_append_of_sound {session : Session} (hopen : session.isOpen = true)
    (h : session.Roomy) (now : Nat) {first : Bytes}
    (hsound : (session.demux.append first).1.failed = false) (second : Bytes) :
    let later := gist ((session.refreshed now (session.demux.append first).1).read now second)
    gist (session.read now (first ++ second)) =
      (later.1, (session.demux.append first).1.queue.map Entry.received ++ later.2) := by
  have hactive : (session.refreshed now (session.demux.append first).1).isOpen = true := hopen
  have hlater := congrArg Prod.fst
    (Demux.append_eq_append_emptied (session.demux.append first).1 second)
  simp only
  rw [gist_read hopen h, gist_read hactive (roomy_refreshed h now hsound),
    ← Demux.append_append h.silent.sound hsound, hlater]
  exact session.conclude_queue now _ _

/-! ## Many reads -/

theorem receive_cons {session : Session} (hopen : session.isOpen = true) (now : Nat)
    (piece : Bytes) (pieces : List Bytes) :
    session.receive now (piece :: pieces) =
      (((session.read now piece).1.receive now pieces).1,
        (session.read now piece).2 ++ ((session.read now piece).1.receive now pieces).2) :=
  if_pos hopen

theorem gist_receive_of_standing {session : Session} {after : Session} {entries : List Entry}
    {now : Nat} (pieces : List Bytes) (h : session.standing = some after) :
    gist ((session.receive now pieces).1, entries ++ (session.receive now pieces).2) =
      ((gist (after.receive now pieces)).1,
        observed entries ++ (gist (after.receive now pieces)).2) := by
  rw [standing] at h
  split at h
  · cases h
    simp only [gist, observed_append]
  · cases h

/-- Reading pieces comes down to the same as reading all of them at once. -/
theorem gist_receive {session : Session} (hopen : session.isOpen = true) (h : session.Roomy)
    (now : Nat) {pieces : List Bytes} (hne : pieces ≠ []) :
    gist (session.receive now pieces) = gist (session.read now pieces.flatten) := by
  induction pieces generalizing session with
  | nil => exact absurd rfl hne
  | cons piece pieces ih =>
    cases pieces with
    | nil =>
      rw [receive_cons hopen, List.flatten_singleton, receive, List.append_nil]
    | cons next pieces =>
      have hpiece := gist_read hopen h now piece
      rw [receive_cons hopen, List.flatten_cons]
      cases hfailed : (session.demux.append piece).1.failed with
      | true =>
        -- Nothing is read after a failure.
        rw [conclude_of_failed hfailed] at hpiece
        have hclosed := isOpen_of_standing (congrArg Prod.fst hpiece)
        rw [receive_of_closed hclosed, List.append_nil,
          gist_read_append_of_failed hopen h now hfailed]
      | false =>
        rw [conclude_of_sound hfailed] at hpiece
        obtain ⟨hstanding, hentries⟩ := Prod.mk.inj hpiece
        have hactive : (session.refreshed now (session.demux.append piece).1).isOpen = true := hopen
        rw [gist_receive_of_standing _ hstanding, hentries,
          ih hactive (roomy_refreshed h now hfailed) (List.cons_ne_nil _ _),
          gist_read_append_of_sound hopen h now hfailed]

theorem gist_send {session : Session} (hopen : session.isOpen = true) (h : session.Roomy)
    (now : Nat) {bytes : Bytes} (hne : bytes ≠ []) :
    gist (session.send now bytes) = gist (session.read now bytes) := by
  have hflatten := Bytes.flatten_chunks (show 0 < readSize by decide) bytes
  have hpieces : bytes.chunks readSize ≠ [] := by
    intro hnil
    rw [hnil] at hflatten
    exact hne hflatten.symm
  rw [send, gist_receive hopen h now hpieces, hflatten]

theorem send_nil (now : Nat) (session : Session) : session.send now [] = (session, []) := by
  rw [send, Bytes.chunks_nil, receive]

theorem gist_send_append {session : Session} (hopen : session.isOpen = true) (h : session.Roomy)
    (now : Nat) (first second : Bytes) :
    gist (((session.send now first).1.send now second).1,
        (session.send now first).2 ++ ((session.send now first).1.send now second).2) =
      gist (session.send now (first ++ second)) := by
  by_cases hfirst : first = []
  · rw [hfirst, send_nil, List.nil_append, List.nil_append]
  · have hchunks := Bytes.flatten_chunks (show 0 < readSize by decide) first
    have hpieces : first.chunks readSize ++ second.chunks readSize ≠ [] := by
      intro hnil
      rw [(List.append_eq_nil_iff.mp hnil).1] at hchunks
      exact hfirst hchunks.symm
    have hboth : first ++ second ≠ [] := fun hnil => hfirst (List.append_eq_nil_iff.mp hnil).1
    rw [gist_send hopen h now hboth]
    simp only [send]
    rw [← receive_append, gist_receive hopen h now hpieces, List.flatten_append, hchunks,
      Bytes.flatten_chunks (by decide)]

/-! ## The limit -/

/-- No session is closed for lack of room. -/
def WithinLimit (entries : List Entry) : Prop :=
  ∀ size limit, Entry.broken (.overfull size limit) ∉ entries

theorem WithinLimit.append {first second : List Entry} (hfirst : WithinLimit first)
    (hsecond : WithinLimit second) : WithinLimit (first ++ second) := by
  intro size limit hmem
  rcases List.mem_append.mp hmem with hmem | hmem
  · exact hfirst size limit hmem
  · exact hsecond size limit hmem

theorem withinLimit_nil : WithinLimit [] := fun _ _ => List.not_mem_nil

theorem withinLimit_recorded (records : List Record) :
    WithinLimit (records.map Entry.recorded) := by
  intro size limit hmem
  obtain ⟨record, -, h⟩ := List.mem_map.mp hmem
  cases h

theorem withinLimit_received (packets : List Packet) :
    WithinLimit (packets.map Entry.received) := by
  intro size limit hmem
  obtain ⟨packet, -, h⟩ := List.mem_map.mp hmem
  cases h

theorem withinLimit_close {session : Session} {cause : Option Cause}
    (h : ∀ size limit, cause ≠ some (.overfull size limit)) :
    WithinLimit (session.close cause).2 := by
  intro size limit hmem
  cases cause with
  | none => simp [close] at hmem
  | some cause =>
    have hcause : cause = .overfull size limit := by simpa [close, eq_comm] using hmem
    exact h size limit (congrArg some hcause)

/-- With enough room one read does not close a session for lack of it, and it leaves enough room to
a session that goes on. -/
theorem read_of_roomy {session : Session} (h : session.Roomy) (now : Nat) (bytes : Bytes) :
    WithinLimit (session.read now bytes).2 ∧
      ((session.read now bytes).1.isOpen = true → (session.read now bytes).1.Roomy) := by
  have hentries := (withinLimit_recorded (session.demux.append bytes).2).append
    (withinLimit_received (session.demux.append bytes).1.queue)
  rw [read_eq]
  simp only [fault?_of_roomy h]
  cases hfailed : (session.demux.append bytes).1.failed with
  | true =>
    refine ⟨hentries.append (withinLimit_close ?_), ?_⟩
    · intro size limit hcause
      cases hcause
    · intro hopen
      cases hopen
  | false => exact ⟨hentries, fun _ => roomy_refreshed h now hfailed⟩

/-- With enough room no read closes a session for lack of it. -/
theorem receive_of_roomy {session : Session} (h : session.isOpen = true → session.Roomy) (now : Nat)
    (pieces : List Bytes) :
    WithinLimit (session.receive now pieces).2 ∧
      ((session.receive now pieces).1.isOpen = true → (session.receive now pieces).1.Roomy) := by
  induction pieces generalizing session with
  | nil => exact ⟨withinLimit_nil, h⟩
  | cons piece pieces ih =>
    cases hopen : session.isOpen with
    | false =>
      rw [receive_of_closed hopen]
      exact ⟨withinLimit_nil, h⟩
    | true =>
      obtain ⟨hentries, hroomy⟩ := read_of_roomy (h hopen) now piece
      obtain ⟨hmore, hfinal⟩ := ih hroomy
      rw [receive_cons hopen]
      exact ⟨hentries.append hmore, hfinal⟩

theorem read_of_silent {session : Session} (now : Nat) {bytes : Bytes}
    (h : (session.demux.append bytes).1.Silent) :
    let active := session.refreshed now (session.demux.append bytes).1
    let size := (session.demux.append bytes).1.buffer.length
    let entries := (session.demux.append bytes).2.map Entry.recorded
    session.read now bytes =
      if session.settings.maxBufferSize < size then
        (((active.close (some (.overfull size session.settings.maxBufferSize))).1),
          entries ++ (active.close (some (.overfull size session.settings.maxBufferSize))).2)
      else (active, entries) := by
  intro active size entries
  have hfault : active.fault? =
      if session.settings.maxBufferSize < size then
        some (.overfull size session.settings.maxBufferSize)
      else none := by
    have hsound : active.demux.failed = false := h.sound
    rw [fault?, if_neg (Bool.eq_false_iff.mp hsound)]
    rfl
  rw [read_eq]
  simp only [h.emptied, List.map_nil, List.append_nil]
  rw [show session.refreshed now (session.demux.append bytes).1 = active from rfl, hfault]
  by_cases hover : session.settings.maxBufferSize < size
  · rw [if_pos hover, if_pos hover]
  · rw [if_neg hover, if_neg hover]

/-- Without enough room a session is closed by a silent stream that is longer than its limit. -/
theorem receive_of_silent {session : Session} (hopen : session.isOpen = true)
    (hsilent : session.demux.Silent)
    (hbelow : session.demux.buffer.length ≤ session.settings.maxBufferSize) (now : Nat)
    {pieces : List Bytes} (hwhole : (session.demux.append pieces.flatten).1.Silent)
    (habove : session.settings.maxBufferSize <
      session.demux.buffer.length + pieces.flatten.length) :
    (∃ size, Entry.broken (.overfull size session.settings.maxBufferSize) ∈
        (session.receive now pieces).2) ∧
      (session.receive now pieces).1.isOpen = false := by
  induction pieces generalizing session with
  | nil =>
    rw [List.flatten_nil, List.length_nil] at habove
    omega
  | cons piece pieces ih =>
    rw [List.flatten_cons] at hwhole habove
    obtain ⟨hpiece, hbuffer⟩ := Demux.append_of_silent hsilent hwhole
    -- Either this piece passes the limit, or those behind it do, from a longer buffer.
    rw [← Demux.append_append hsilent.sound hpiece.sound] at hwhole
    rw [receive_cons hopen, read_of_silent now hpiece]
    by_cases hover : session.settings.maxBufferSize < (session.demux.append piece).1.buffer.length
    · simp only [if_pos hover]
      rw [receive_of_closed (close_isOpen _ _)]
      refine ⟨⟨(session.demux.append piece).1.buffer.length, ?_⟩, rfl⟩
      rw [List.append_nil]
      exact List.mem_append_right _ List.mem_cons_self
    · simp only [if_neg hover]
      have hdemux : (session.refreshed now (session.demux.append piece).1).demux =
          (session.demux.append piece).1 := hpiece.with_queue_nil
      have hactive : (session.refreshed now (session.demux.append piece).1).isOpen = true := hopen
      obtain ⟨⟨size, hmem⟩, hclosed⟩ := ih hactive ⟨hpiece.sound, rfl⟩ (Nat.le_of_not_lt hover)
        (by rwa [hdemux]) (by
          rw [hdemux, hbuffer]
          simp only [List.length_append] at habove ⊢
          exact Nat.lt_of_lt_of_eq habove (Nat.add_assoc _ _ _).symm)
      exact ⟨⟨size, List.mem_append_right _ hmem⟩, hclosed⟩

end IceTcp.Session
