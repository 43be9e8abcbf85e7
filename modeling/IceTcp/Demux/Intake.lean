import IceTcp.Demux
import IceTcp.Framing.Cut

/-!
# Taking in long streams

A demultiplexer joins what arrives to its buffer and its queue. A stream may arrive byte by byte
while a long message is awaited, and long after it has failed; so an intake keeps bytes beside the
buffer until they reach what the demultiplexer waits for, keeps packets beside the queue, and counts
both. What an operation costs then depends on what arrives, and not on what is already there.

Main results:

* `Demux.append_of_length_lt_awaited`: what does not reach what is waited for makes the buffer
  longer and nothing else.
* `Intake.append_view`, `Intake.pop_view`, `Intake.popAll_view`, `Intake.run_view`: an intake does
  what the demultiplexer does that it stands for.
* `Demux.fst_feed`: feeding pieces ends in the state that appending them one by one ends in.
* `Intake.feed_view`: an intake that is fed reports what the demultiplexer would that it stands for.
-/

namespace IceTcp

namespace Demux

/-! ## Waiting -/

/-- The number of bytes that the buffer has to hold before anything happens, as far as can be told
now. -/
def awaited (demux : Demux) : Nat :=
  match demux.framing with
  | .undecided =>
    if demux.buffer.length < minimumThreshold ∨ recognize demux.buffer ≠ none then 0
    else demux.policy.threshold
  | .relay | .direct => demux.framing.awaited demux.buffer

theorem parse_of_length_lt_awaited {demux : Demux} {more : Bytes}
    (hopen : demux.failed = false) (h : (demux.buffer ++ more).length < demux.awaited) :
    { demux with buffer := demux.buffer ++ more }.parse =
      ({ demux with buffer := demux.buffer ++ more }, []) := by
  obtain ⟨policy, framing, buffer, queue, failed⟩ := demux
  subst hopen
  cases framing with
  | undecided =>
    simp only [awaited] at h
    split at h
    · exact absurd h (Nat.not_lt_zero _)
    · rename_i hfront
      rw [not_or, Nat.not_lt, Decidable.not_not] at hfront
      have hthree : 3 ≤ buffer.length := hfront.1
      have hnone : recognize (buffer ++ more) = none := by
        rw [← recognize_take_three, List.take_append_of_le_length hthree, recognize_take_three]
        exact hfront.2
      simp only [parse, Policy.decision, hnone, if_pos h]
  | relay | direct =>
    simp only [awaited] at h
    have hcut := Framing.cut_append_of_length_lt h
    simp [parse, extract, Framing.drain_of_wait hcut, Framing.drainRecords_of_wait hcut]

theorem append_of_length_lt_awaited {demux : Demux} {kept bytes : Bytes}
    (hopen : demux.failed = false)
    (h : (demux.buffer ++ kept ++ bytes).length < demux.awaited) :
    { demux with buffer := demux.buffer ++ kept }.append bytes =
      ({ demux with buffer := demux.buffer ++ kept ++ bytes }, []) := by
  rw [append, if_neg (by simp [hopen]), List.append_assoc]
  rw [List.append_assoc] at h
  exact parse_of_length_lt_awaited hopen h

end Demux

/-- A demultiplexer with what has arrived since and is not joined to it yet. -/
structure Intake where
  demux : Demux
  /-- The bytes behind the buffer, latest first. -/
  kept : Bytes
  /-- The packets behind the queue, latest first. -/
  recent : List Packet
  /-- Fewer bytes than this can be kept in addition. -/
  room : Nat
  /-- The number of bytes that are not resolved. -/
  buffered : Nat
  /-- The number of packets that wait. -/
  waiting : Nat
  buffered_eq : buffered = demux.buffer.length + kept.length
  waiting_eq : waiting = demux.queue.length + recent.length
  /-- What is kept does not reach what is waited for. -/
  short : 0 < room → demux.failed = false ∧ buffered + room ≤ demux.awaited

namespace Intake

/-- The demultiplexer that an intake stands for. -/
def view (intake : Intake) : Demux :=
  { intake.demux with
    buffer := intake.demux.buffer ++ intake.kept.reverse
    queue := intake.demux.queue ++ intake.recent.reverse }

/-- How many bytes a demultiplexer with so many in its buffer is short of what it waits for. -/
def roomOf (demux : Demux) (buffered : Nat) : Nat :=
  if demux.failed then 0 else demux.awaited - buffered

theorem short_of_lt_roomOf {demux : Demux} {buffered : Nat} (h : 0 < roomOf demux buffered) :
    demux.failed = false ∧ buffered + roomOf demux buffered ≤ demux.awaited := by
  simp only [roomOf] at h ⊢
  split at h
  · exact absurd h (Nat.lt_irrefl _)
  · rename_i hopen
    rw [if_neg hopen]
    exact ⟨Bool.eq_false_iff.mpr hopen, by omega⟩

/-- The intake of a demultiplexer. -/
def ofDemux (demux : Demux) : Intake where
  demux
  kept := []
  recent := []
  room := roomOf demux demux.buffer.length
  buffered := demux.buffer.length
  waiting := demux.queue.length
  buffered_eq := rfl
  waiting_eq := rfl
  short := short_of_lt_roomOf

theorem length_queue_view (intake : Intake) : intake.view.queue.length = intake.waiting := by
  simp [view, intake.waiting_eq]

/-! ## Bytes in -/

/-- Puts bytes aside that do not reach what is waited for. -/
def keep (intake : Intake) (bytes : Bytes) (h : bytes.length < intake.room) : Intake :=
  { intake with
    kept := bytes.reverseAux intake.kept
    room := intake.room - bytes.length
    buffered := intake.buffered + bytes.length
    buffered_eq := by
      simp only [List.reverseAux_eq, List.length_append, List.length_reverse, intake.buffered_eq]
      omega
    short := fun _ => by
      have := intake.short (Nat.zero_lt_of_lt h)
      exact ⟨this.1, by omega⟩ }

/-- The demultiplexer with the kept bytes joined to its buffer, and no packets. -/
def joined (intake : Intake) : Demux :=
  { intake.demux with buffer := intake.demux.buffer ++ intake.kept.reverse, queue := [] }

theorem waiting_add_length (intake : Intake) (packets : List Packet) :
    intake.waiting + packets.length =
      intake.demux.queue.length + (packets.reverseAux intake.recent).length := by
  simp only [List.reverseAux_eq, List.length_append, List.length_reverse, intake.waiting_eq]
  omega

/-- Hands bytes over, behind those that are kept. -/
def handOver (intake : Intake) (bytes : Bytes) : Intake × List Record :=
  let (after, records) := intake.joined.append bytes
  let buffered := after.buffer.length
  ({ demux := { after with queue := intake.demux.queue }
     kept := []
     recent := after.queue.reverseAux intake.recent
     room := roomOf after buffered
     buffered
     waiting := intake.waiting + after.queue.length
     buffered_eq := rfl
     waiting_eq := intake.waiting_add_length after.queue
     short := short_of_lt_roomOf },
    records)

/-- Takes bytes of the stream. -/
def append (intake : Intake) (bytes : Bytes) : Intake × List Record :=
  if h : bytes.length < intake.room then (intake.keep bytes h, [])
  else if intake.demux.failed then (intake, [])
  else intake.handOver bytes

theorem view_keep (intake : Intake) {bytes : Bytes} (h : bytes.length < intake.room) :
    intake.view.append bytes = ((intake.keep bytes h).view, []) := by
  obtain ⟨hopen, hshort⟩ := intake.short (Nat.zero_lt_of_lt h)
  rw [intake.buffered_eq] at hshort
  have hlength : (intake.demux.buffer ++ intake.kept.reverse ++ bytes).length <
      intake.demux.awaited := by
    simp only [List.length_append, List.length_reverse]
    omega
  have hqueued : ({ intake.demux with
      queue := intake.demux.queue ++ intake.recent.reverse } : Demux).failed = false := hopen
  rw [view, Demux.append_of_length_lt_awaited hqueued hlength]
  simp [view, keep, List.reverseAux_eq]

theorem view_handOver (intake : Intake) (bytes : Bytes) :
    intake.view.append bytes = ((intake.handOver bytes).1.view, (intake.handOver bytes).2) := by
  have hjoined : { intake.view with queue := [] } = intake.joined := rfl
  rw [Demux.append_eq_append_emptied, hjoined, handOver]
  simp [view, List.reverseAux_eq]

/-- An intake takes bytes as the demultiplexer does that it stands for. -/
theorem append_view (intake : Intake) (bytes : Bytes) :
    intake.view.append bytes = ((intake.append bytes).1.view, (intake.append bytes).2) := by
  unfold append
  split
  · rename_i h
    exact intake.view_keep h
  · split
    · rename_i hfailed
      have hview : intake.view.failed = true := hfailed
      exact Demux.append_of_failed hview bytes
    · exact intake.view_handOver bytes

/-! ## Packets out -/

/-- Takes the packet that has waited longest. -/
def pop (intake : Intake) : Option Packet × Intake :=
  match h : intake.demux.queue with
  | packet :: later =>
    (some packet,
      { intake with
        demux := { intake.demux with queue := later }
        waiting := intake.waiting - 1
        waiting_eq := by
          have hlength := intake.waiting_eq
          rw [h, List.length_cons] at hlength
          dsimp only
          omega })
  | [] =>
    match hrecent : intake.recent.reverse with
    | [] => (none, intake)
    | packet :: later =>
      (some packet,
        { intake with
          demux := { intake.demux with queue := later }
          recent := []
          waiting := intake.waiting - 1
          waiting_eq := by
            have hlength := intake.waiting_eq
            rw [h, List.length_nil, ← List.length_reverse, hrecent, List.length_cons] at hlength
            dsimp only [List.length_nil]
            omega })

/-- Takes all packets. -/
def popAll (intake : Intake) : List Packet × Intake :=
  (intake.demux.queue ++ intake.recent.reverse,
    { intake with
      demux := { intake.demux with queue := [] }
      recent := []
      waiting := 0
      waiting_eq := rfl })

/-- An intake gives packets as the demultiplexer does that it stands for. -/
theorem pop_view (intake : Intake) :
    intake.view.pop = ((intake.pop).1, (intake.pop).2.view) := by
  unfold pop
  split
  · rename_i h
    simp [Demux.pop, view, h]
  · rename_i h
    split
    · rename_i hrecent
      simp [Demux.pop, view, h, hrecent]
    · rename_i hrecent
      simp [Demux.pop, view, h, hrecent]

theorem popAll_view (intake : Intake) :
    intake.view.popAll = ((intake.popAll).1, (intake.popAll).2.view) := by
  simp [Demux.popAll_eq, popAll, view]

/-! ## Histories -/

/-- Carries one operation out. -/
def step (intake : Intake) : Demux.Op → Intake × Demux.Result
  | .append bytes =>
    let (appended, records) := intake.append bytes
    (appended, .appended (!appended.demux.failed) records)
  | .pop =>
    let (packet, popped) := intake.pop
    (popped, .popped packet)

/-- Carries out the operations of a history in order. -/
def run (intake : Intake) : List Demux.Op → Intake × List Demux.Result
  | [] => (intake, [])
  | op :: ops =>
    let (stepped, result) := intake.step op
    let (final, results) := stepped.run ops
    (final, result :: results)

theorem step_view (intake : Intake) (op : Demux.Op) :
    intake.view.step op = ((intake.step op).1.view, (intake.step op).2) := by
  cases op with
  | append bytes =>
    simp only [Demux.step, step, append_view]
    rfl
  | pop => simp only [Demux.step, step, pop_view]

/-- A history of an intake is one of the demultiplexer that it stands for. -/
theorem run_view (intake : Intake) (ops : List Demux.Op) :
    intake.view.run ops = ((intake.run ops).1.view, (intake.run ops).2) := by
  induction ops generalizing intake with
  | nil => rfl
  | cons op ops ih => simp only [Demux.run, run, step_view, ih]

end Intake

/-! ## Feeding a stream in pieces

`feed` is the history of a stream that arrives in pieces. It reports which piece decided the
framing, which one made the stream fail, and where packets turned up.
-/

/-- What feeding a stream in pieces shows. -/
structure Feeding where
  /-- The number of pieces fed. -/
  count : Nat
  /-- What was recorded. -/
  records : Array Record
  /-- The piece that decided the framing. -/
  decidedAt : Option Nat
  /-- The first piece after which the stream was not sound. -/
  failedAt : Option Nat
  /-- Each piece that changed the number of waiting packets, and that number. -/
  grew : Array (Nat × Nat)
  deriving DecidableEq, Repr

namespace Feeding

/-- Nothing has been fed. -/
def start : Feeding := ⟨0, #[], none, none, #[]⟩

/-- Notes what one more piece has done: whether it decided the framing, whether the stream is
failed behind it, how many packets waited before and wait now, and what was recorded. -/
def note (feeding : Feeding) (decided failed : Bool) (before after : Nat) (records : List Record) :
    Feeding :=
  { count := feeding.count + 1
    records := records.foldl Array.push feeding.records
    decidedAt := if decided then some feeding.count else feeding.decidedAt
    failedAt := feeding.failedAt <|> if failed then some feeding.count else none
    grew := if after = before then feeding.grew else feeding.grew.push (feeding.count, after) }

end Feeding

namespace Demux

/-- Feeds one more piece. -/
def feedPiece (state : Demux × Feeding) (piece : Bytes) : Demux × Feeding :=
  let (before, feeding) := state
  let (after, records) := before.append piece
  (after, feeding.note (after.framing ≠ before.framing) after.failed before.queue.length
    after.queue.length records)

/-- Feeds a stream in pieces; pieces that arrive after a failure are not taken. -/
def feed (demux : Demux) (pieces : List Bytes) : Demux × Feeding :=
  pieces.foldl feedPiece (demux, .start)

theorem fst_foldl_feedPiece (state : Demux × Feeding) (pieces : List Bytes) :
    (pieces.foldl feedPiece state).1 = (state.1.run (pieces.map Op.append)).1 := by
  induction pieces generalizing state with
  | nil => rfl
  | cons piece pieces ih =>
    rw [List.foldl_cons, ih]
    rfl

/-- Feeding pieces is appending them one by one. -/
theorem fst_feed (demux : Demux) (pieces : List Bytes) :
    (demux.feed pieces).1 = (demux.run (pieces.map Op.append)).1 := fst_foldl_feedPiece _ _

end Demux

namespace Intake

/-- Feeds one more piece. -/
def feedPiece (state : Intake × Feeding) (piece : Bytes) : Intake × Feeding :=
  let (before, feeding) := state
  let framing := before.demux.framing
  let waiting := before.waiting
  let (after, records) := before.append piece
  (after, feeding.note (after.demux.framing ≠ framing) after.demux.failed waiting after.waiting
    records)

/-- Feeds a stream in pieces. -/
def feed (intake : Intake) (pieces : List Bytes) : Intake × Feeding :=
  pieces.foldl feedPiece (intake, .start)

theorem feedPiece_view (intake : Intake) (feeding : Feeding) (piece : Bytes) :
    Demux.feedPiece (intake.view, feeding) piece =
      ((feedPiece (intake, feeding) piece).1.view, (feedPiece (intake, feeding) piece).2) := by
  simp only [Demux.feedPiece, feedPiece, append_view, length_queue_view]
  rfl

theorem foldl_feedPiece_view (intake : Intake) (feeding : Feeding) (pieces : List Bytes) :
    pieces.foldl Demux.feedPiece (intake.view, feeding) =
      ((pieces.foldl feedPiece (intake, feeding)).1.view,
        (pieces.foldl feedPiece (intake, feeding)).2) := by
  induction pieces generalizing intake feeding with
  | nil => rfl
  | cons piece pieces ih => rw [List.foldl_cons, List.foldl_cons, feedPiece_view, ih]

/-- An intake that is fed reports what the demultiplexer would that it stands for. -/
theorem feed_view (intake : Intake) (pieces : List Bytes) :
    intake.view.feed pieces = ((intake.feed pieces).1.view, (intake.feed pieces).2) :=
  foldl_feedPiece_view intake .start pieces

end Intake

end IceTcp
