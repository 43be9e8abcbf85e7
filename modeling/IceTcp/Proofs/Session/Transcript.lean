import IceTcp.Proofs.Session.Reading

/-!
# What a session tells of its reads

A session hands each read to its demultiplexer, delivers the packets, and then asks whether it can
go on. Beside it stands a bare demultiplexer that is fed the same bytes and keeps its packets. The
two agree in everything but the queue, so the session delivers what the bare one collects, and it
closes on the read after which the bare one is blocked.

Main results:

* `Demux.admitted_append_of_free`: which pieces are read of two series.
* `queue_taking`: the packets of a transcript are those of the bare demultiplexer.
* `receive_of_free`, `receive_of_blocked`: what a session makes of pieces, by the state in which
  they leave the bare demultiplexer.
-/

namespace IceTcp

namespace Demux

/-! ## A demultiplexer under a limit -/

/-- A reader with this limit cannot go on: the stream is malformed, or too much of it is left. -/
def Blocked (limit : Nat) (demux : Demux) : Prop :=
  demux.failed = true ∨ limit < demux.buffer.length

instance (limit : Nat) (demux : Demux) : Decidable (demux.Blocked limit) :=
  inferInstanceAs (Decidable (_ ∨ _))

theorem not_blocked_withPolicy (limit : Nat) (policy : Policy) :
    ¬ (withPolicy policy).Blocked limit := by
  rintro (hfailed | hlong)
  · cases hfailed
  · exact absurd hlong (Nat.not_lt_zero _)

/-- Why a reader with this limit cannot go on. -/
def blockage (limit : Nat) (demux : Demux) : Session.Cause :=
  if demux.failed then .malformed demux.framing else .overfull demux.buffer.length limit

/-- What is read of pieces: all of them, or those up to the first one that blocks the reader. -/
def admitted (limit : Nat) (demux : Demux) : List Bytes → List Bytes
  | [] => []
  | piece :: pieces =>
    piece ::
      if (demux.append piece).1.Blocked limit then []
      else (demux.append piece).1.admitted limit pieces

theorem admitted_isPrefix (limit : Nat) (demux : Demux) (pieces : List Bytes) :
    demux.admitted limit pieces <+: pieces := by
  induction pieces generalizing demux with
  | nil => exact List.prefix_refl _
  | cons piece pieces ih =>
    rw [admitted]
    apply (List.prefix_cons_inj piece).mpr
    split
    · exact List.nil_prefix
    · exact ih _

/-- The demultiplexer once pieces have been appended. -/
def taking (demux : Demux) (pieces : List Bytes) : Demux := (demux.run (pieces.map .append)).1

theorem taking_cons (demux : Demux) (piece : Bytes) (pieces : List Bytes) :
    demux.taking (piece :: pieces) = (demux.append piece).1.taking pieces := rfl

theorem taking_append (demux : Demux) (first second : List Bytes) :
    demux.taking (first ++ second) = (demux.taking first).taking second := by
  rw [taking, List.map_append, run_append]
  rfl

theorem emitted_run_appends (demux : Demux) (pieces : List Bytes) :
    emitted (demux.run (pieces.map .append)) = (demux.taking pieces).queue := by
  have hdelivered : delivered (demux.run (pieces.map .append)).2 = [] := by
    induction pieces generalizing demux with
    | nil => rfl
    | cons piece pieces ih => exact ih (demux.append piece).1
  rw [emitted, hdelivered, List.nil_append]
  rfl

section

variable {limit : Nat} {demux : Demux} {first : List Bytes}

theorem admitted_cons_of_blocked {piece : Bytes} (h : (demux.append piece).1.Blocked limit)
    (pieces : List Bytes) : demux.admitted limit (piece :: pieces) = [piece] := by
  rw [admitted, if_pos h]

theorem admitted_cons_of_free {piece : Bytes} (h : ¬ (demux.append piece).1.Blocked limit)
    (pieces : List Bytes) :
    demux.admitted limit (piece :: pieces) =
      piece :: (demux.append piece).1.admitted limit pieces := by
  rw [admitted, if_neg h]

/-- As long as the reader is not blocked, what comes next is read too. -/
theorem admitted_append_of_free (h : ¬ (demux.taking (demux.admitted limit first)).Blocked limit)
    (second : List Bytes) :
    demux.admitted limit (first ++ second) =
      demux.admitted limit first ++
        (demux.taking (demux.admitted limit first)).admitted limit second := by
  induction first generalizing demux with
  | nil => rfl
  | cons piece pieces ih =>
    by_cases hpiece : (demux.append piece).1.Blocked limit
    · rw [admitted_cons_of_blocked hpiece] at h
      exact absurd hpiece h
    · rw [admitted_cons_of_free hpiece, taking_cons] at h
      rw [List.cons_append, admitted_cons_of_free hpiece, admitted_cons_of_free hpiece, taking_cons,
        ih h, List.cons_append]

end

/-! ## A demultiplexer that is emptied in between -/

theorem snd_popAll_withPolicy (policy : Policy) :
    (withPolicy policy).popAll.2 = withPolicy policy := by
  rw [popAll_eq]
  rfl

theorem popAll_append (demux : Demux) (bytes : Bytes) :
    (demux.popAll.2.append bytes).1.popAll.2 = (demux.append bytes).1.popAll.2 := by
  simp only [popAll_eq]
  rw [append_eq_append_emptied demux]

theorem queue_append_popAll (demux : Demux) (bytes : Bytes) :
    (demux.append bytes).1.queue = demux.queue ++ (demux.popAll.2.append bytes).1.queue := by
  rw [popAll_eq, append_eq_append_emptied demux]

end Demux

namespace Session

/-! ## Transcripts -/

/-- What is told of reads: for each of them the records of the append, and then its packets. -/
def transcript (demux : Demux) : List Bytes → List Entry
  | [] => []
  | piece :: pieces =>
    let (appended, records) := demux.append piece
    let (packets, drained) := appended.popAll
    (records.map Entry.recorded ++ packets.map Entry.received) ++ transcript drained pieces

/-- The packet that an entry tells of. -/
def Entry.packet? : Entry → Option Packet
  | .received packet => some packet
  | .accepted _ | .connected | .recorded _ | .broken _ | .closed | .disconnected => none

/-- The packets that entries tell of, in order. -/
def packets (entries : List Entry) : List Packet := entries.filterMap Entry.packet?

theorem packets_append (first second : List Entry) :
    packets (first ++ second) = packets first ++ packets second := List.filterMap_append

theorem packets_recorded (records : List Record) : packets (records.map Entry.recorded) = [] := by
  rw [packets, List.filterMap_eq_nil_iff]
  intro entry hmem
  obtain ⟨record, -, rfl⟩ := List.mem_map.mp hmem
  rfl

theorem packets_received (found : List Packet) : packets (found.map Entry.received) = found := by
  rw [packets, List.filterMap_map]
  exact List.filterMap_some

theorem transcript_cons (demux : Demux) (piece : Bytes) (pieces : List Bytes) :
    transcript demux.popAll.2 (piece :: pieces) =
      transcript demux.popAll.2 [piece] ++ transcript (demux.append piece).1.popAll.2 pieces := by
  rw [← Demux.popAll_append]
  simp only [transcript, List.append_nil]

theorem transcript_append (demux : Demux) (first second : List Bytes) :
    transcript demux.popAll.2 (first ++ second) =
      transcript demux.popAll.2 first ++ transcript (demux.taking first).popAll.2 second := by
  induction first generalizing demux with
  | nil => rfl
  | cons piece pieces ih =>
    rw [List.cons_append, transcript_cons, transcript_cons demux piece pieces, ih, List.append_assoc,
      Demux.taking_cons]

theorem mem_transcript {demux : Demux} {pieces : List Bytes} {entry : Entry}
    (h : entry ∈ transcript demux pieces) :
    (∃ record, entry = .recorded record) ∨ ∃ packet, entry = .received packet := by
  induction pieces generalizing demux with
  | nil => cases h
  | cons piece pieces ih =>
    rcases List.mem_append.mp h with h | h
    · rcases List.mem_append.mp h with h | h
      · obtain ⟨record, -, rfl⟩ := List.mem_map.mp h
        exact .inl ⟨record, rfl⟩
      · obtain ⟨packet, -, rfl⟩ := List.mem_map.mp h
        exact .inr ⟨packet, rfl⟩
    · exact ih h

theorem closed_notMem_transcript (demux : Demux) (pieces : List Bytes) :
    Entry.closed ∉ transcript demux pieces := by
  intro h
  rcases mem_transcript h with ⟨record, h⟩ | ⟨packet, h⟩ <;> cases h

theorem count_closed_transcript (demux : Demux) (pieces : List Bytes) :
    (transcript demux pieces).count .closed = 0 :=
  List.count_eq_zero.mpr (closed_notMem_transcript demux pieces)

/-- The packets that are told of reads are those that a bare demultiplexer collects. -/
theorem queue_taking (demux : Demux) (pieces : List Bytes) :
    (demux.taking pieces).queue =
      demux.queue ++ packets (transcript demux.popAll.2 pieces) := by
  induction pieces generalizing demux with
  | nil => exact (List.append_nil _).symm
  | cons piece pieces ih =>
    have hpiece : packets (transcript demux.popAll.2 [piece]) =
        (demux.popAll.2.append piece).1.queue := by
      simp only [transcript, List.append_nil, packets_append, packets_recorded, packets_received,
        List.nil_append, Demux.popAll_eq]
    rw [Demux.taking_cons, ih, Demux.queue_append_popAll, transcript_cons, packets_append, hpiece,
      List.append_assoc]

/-! ## A session beside a bare demultiplexer -/

/-- An open session has read what a bare demultiplexer was fed, and neither is blocked. -/
structure Follows (session : Session) (demux : Demux) : Prop where
  isOpen : session.isOpen = true
  drained : session.demux = demux.popAll.2
  free : ¬ demux.Blocked session.settings.maxBufferSize

theorem fault?_refreshed (session : Session) (now : Nat) (demux : Demux) :
    (session.refreshed now demux).fault? =
      if demux.Blocked session.settings.maxBufferSize then
        some (demux.blockage session.settings.maxBufferSize)
      else none := by
  show (if demux.failed then some (Cause.malformed demux.framing)
    else if session.settings.maxBufferSize < demux.buffer.length then
      some (.overfull demux.buffer.length session.settings.maxBufferSize)
    else none) = _
  by_cases hfailed : demux.failed = true
  · rw [if_pos hfailed, if_pos (.inl hfailed), Demux.blockage, if_pos hfailed]
  · rw [if_neg hfailed, Demux.blockage, if_neg hfailed]
    by_cases hlong : session.settings.maxBufferSize < demux.buffer.length
    · rw [if_pos hlong, if_pos (.inr hlong)]
    · have hfree : ¬ demux.Blocked session.settings.maxBufferSize :=
        not_or.mpr ⟨hfailed, hlong⟩
      rw [if_neg hlong, if_neg hfree]

/-- One read: what the bare demultiplexer tells, and the end if it is blocked by it. -/
theorem read_of_follows {session : Session} {demux : Demux} (h : session.Follows demux) (now : Nat)
    (bytes : Bytes) :
    let limit := session.settings.maxBufferSize
    let after := (demux.append bytes).1
    let entries := transcript demux.popAll.2 [bytes]
    session.read now bytes =
      if after.Blocked limit then
        (((session.refreshed now after).close (some (after.blockage limit))).1,
          entries ++ [.broken (after.blockage limit), .closed, .disconnected])
      else (session.refreshed now after, entries) := by
  intro limit after entries
  have hrefreshed : session.refreshed now (demux.popAll.2.append bytes).1 =
      session.refreshed now after := by
    have hpop := Demux.popAll_append demux bytes
    simp only [Demux.popAll_eq] at hpop ⊢
    simp only [refreshed, hpop, after]
  have hentries : (demux.popAll.2.append bytes).2.map Entry.recorded ++
      (demux.popAll.2.append bytes).1.queue.map Entry.received = entries := by
    simp only [entries, transcript, Demux.popAll_eq, List.append_nil]
  rw [read_eq, h.drained]
  simp only [hrefreshed, hentries, fault?_refreshed]
  by_cases hblocked : after.Blocked limit
  · rw [if_pos hblocked, if_pos hblocked]
    rfl
  · rw [if_neg hblocked, if_neg hblocked]

theorem follows_refreshed {session : Session} {demux : Demux} (hopen : session.isOpen = true)
    (hfree : ¬ demux.Blocked session.settings.maxBufferSize) (now : Nat) :
    (session.refreshed now demux).Follows demux :=
  ⟨hopen, (congrArg Prod.snd demux.popAll_eq).symm, hfree⟩

/-- Pieces that do not block the bare demultiplexer are all read, and the session goes on. -/
theorem receive_of_free {session : Session} {demux : Demux} (h : session.Follows demux) (now : Nat)
    {pieces : List Bytes}
    (hfree : ¬ (demux.taking (demux.admitted session.settings.maxBufferSize pieces)).Blocked
      session.settings.maxBufferSize) :
    let reads := demux.admitted session.settings.maxBufferSize pieces
    (session.receive now pieces).2 = transcript demux.popAll.2 reads ∧
      (session.receive now pieces).1.settings = session.settings ∧
      (session.receive now pieces).1.Follows (demux.taking reads) := by
  intro reads
  induction pieces generalizing session demux with
  | nil => exact ⟨rfl, rfl, h⟩
  | cons piece pieces ih =>
    by_cases hpiece : (demux.append piece).1.Blocked session.settings.maxBufferSize
    · rw [Demux.admitted_cons_of_blocked hpiece] at hfree
      exact absurd hpiece hfree
    · have hreads : reads = piece :: (demux.append piece).1.admitted
          session.settings.maxBufferSize pieces := Demux.admitted_cons_of_free hpiece pieces
      rw [Demux.admitted_cons_of_free hpiece, Demux.taking_cons] at hfree
      have hread := read_of_follows h now piece
      simp only [if_neg hpiece] at hread
      have hlater := follows_refreshed h.isOpen hpiece now
      obtain ⟨hentries, hsettings, hfollows⟩ := ih hlater hfree
      rw [receive_cons h.isOpen, hread, hreads, transcript_cons demux piece (Demux.admitted _ _ _),
        Demux.taking_cons]
      exact ⟨congrArg _ hentries, hsettings, hfollows⟩

/-- Of pieces that block the bare demultiplexer those up to the one that does are read, and then the
session closes. -/
theorem receive_of_blocked {session : Session} {demux : Demux} (h : session.Follows demux)
    (now : Nat) {pieces : List Bytes}
    (hblocked : (demux.taking (demux.admitted session.settings.maxBufferSize pieces)).Blocked
      session.settings.maxBufferSize) :
    let limit := session.settings.maxBufferSize
    let reads := demux.admitted limit pieces
    (session.receive now pieces).2 = transcript demux.popAll.2 reads ++
        [.broken ((demux.taking reads).blockage limit), .closed, .disconnected] ∧
      (session.receive now pieces).1.isOpen = false := by
  intro limit reads
  induction pieces generalizing session demux with
  | nil => exact absurd hblocked h.free
  | cons piece pieces ih =>
    have hread := read_of_follows h now piece
    by_cases hpiece : (demux.append piece).1.Blocked session.settings.maxBufferSize
    · have hreads : reads = [piece] := Demux.admitted_cons_of_blocked hpiece pieces
      simp only [if_pos hpiece] at hread
      rw [receive_cons h.isOpen, hread, receive_of_closed (close_isOpen _ _), hreads,
        List.append_nil]
      exact ⟨rfl, rfl⟩
    · have hreads : reads = piece :: (demux.append piece).1.admitted limit pieces :=
        Demux.admitted_cons_of_free hpiece pieces
      rw [Demux.admitted_cons_of_free hpiece, Demux.taking_cons] at hblocked
      simp only [if_neg hpiece] at hread
      have hlater := follows_refreshed h.isOpen hpiece now
      obtain ⟨hentries, hclosed⟩ := ih hlater hblocked
      rw [receive_cons h.isOpen, hread, hreads, transcript_cons demux piece (Demux.admitted _ _ _),
        Demux.taking_cons, List.append_assoc]
      exact ⟨congrArg _ hentries, hclosed⟩

end Session

end IceTcp
