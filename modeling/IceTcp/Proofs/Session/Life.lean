import IceTcp.Proofs.Session.Reading

/-!
# What one client lives through

For one client a server is a slot that is empty until the client connects and holds its session from
then on. Each event of the client acts on the slot, and time passes in between. Sends with nothing
in between may be joined to one: with a limit that is not in the way this shows the observer the
same and leaves the session in the same state.

Main results:

* `withinLimit_live`: with ample settings no event closes a session for lack of room.
* `slotGist_live_joined`: sends may be joined.
-/

namespace IceTcp.Session

/-! ## Events of one client -/

/-- What can happen to one client. -/
inductive Event where
  /-- A listener takes the connection and serves it by these settings. -/
  | connect (listener : Nat) (settings : Settings)
  | send (bytes : Bytes)
  | finish
  | reset
  | wait (duration : Nat)
  deriving DecidableEq, Repr

/-- The time that an event takes. -/
def Event.duration : Event → Nat
  | .wait duration => duration
  | .connect _ _ | .send _ | .finish | .reset => 0

/-- Lets something happen in a session, if there is one and it is open. -/
def attend (slot : Option Session) (action : Session → Session × List Entry) :
    Option Session × List Entry :=
  match slot with
  | some session =>
    if session.isOpen then
      let (after, entries) := action session
      (some after, entries)
    else (slot, [])
  | none => (slot, [])

/-- What an event does at a time. -/
def meet (now : Nat) (slot : Option Session) : Event → Option Session × List Entry
  | .connect listener settings =>
    let (session, entries) := start listener settings now
    (some session, entries)
  | .send bytes => attend slot fun session => session.send now bytes
  | .finish => attend slot fun session => session.close none
  | .reset => attend slot fun session => session.close (some .reset)
  | .wait duration => attend slot (expire (now + duration))

/-- What the events of a client do, one after the other, from a time on. -/
def live (now : Nat) (slot : Option Session) : List Event → Option Session × List Entry
  | [] => (slot, [])
  | event :: events =>
    let (after, entries) := meet now slot event
    let (final, more) := live (now + event.duration) after events
    (final, entries ++ more)

theorem live_cons (now : Nat) (slot : Option Session) (event : Event) (events : List Event) :
    live now slot (event :: events) =
      ((live (now + event.duration) (meet now slot event).1 events).1,
        (meet now slot event).2 ++
          (live (now + event.duration) (meet now slot event).1 events).2) := rfl

theorem attend_of_closed {session : Session} (h : session.isOpen = false)
    (action : Session → Session × List Entry) :
    attend (some session) action = (some session, []) := by
  rw [attend, if_neg (Bool.eq_false_iff.mp h)]

theorem attend_of_open {session : Session} (h : session.isOpen = true)
    (action : Session → Session × List Entry) :
    attend (some session) action = (some (action session).1, (action session).2) := if_pos h

theorem expire_of_closed {session : Session} (h : session.isOpen = false) (now : Nat) :
    session.expire now = (session, []) := by
  rw [expire, if_neg]
  rintro ⟨hopen, -⟩
  exact Bool.noConfusion (h.symm.trans hopen)

theorem start_of_pos {settings : Settings} (h : 0 < settings.idleTimeout) (listener now : Nat) :
    start listener settings now =
      (⟨settings, .withPolicy settings.policy, now, true⟩, [.accepted listener, .connected]) := by
  have hdeadline : ¬ now + settings.idleTimeout * 1000 ≤ now := by omega
  rw [start, expire, if_neg fun hexpire => hdeadline hexpire.2]

theorem start_of_zero {settings : Settings} (h : settings.idleTimeout = 0) (listener now : Nat) :
    start listener settings now =
      (⟨settings, .withPolicy settings.policy, now, false⟩,
        [.accepted listener, .connected, .broken .idle, .closed, .disconnected]) := by
  have hdeadline : now + settings.idleTimeout * 1000 ≤ now := by omega
  rw [start, expire, if_pos ⟨rfl, hdeadline⟩]
  rfl

/-! ## Limits that are not in the way -/

/-- The settings that an event brings are ample. -/
def Event.Ample : Event → Prop
  | .connect _ settings => settings.Ample
  | .send _ | .finish | .reset | .wait _ => True

/-- The session in a slot has enough room, if it is open. -/
def Cared (slot : Option Session) : Prop :=
  ∀ session, slot = some session → session.isOpen = true → session.Roomy

theorem cared_none : Cared none := nofun

theorem cared_start {settings : Settings} (h : settings.Ample) (listener now : Nat) :
    Cared (some (start listener settings now).1) ∧
      WithinLimit (start listener settings now).2 := by
  have hentries : WithinLimit [.accepted listener, .connected] := by
    intro size limit hmem
    simp at hmem
  simp only [start, expire]
  split
  · refine ⟨?_, hentries.append (withinLimit_close ?_)⟩
    · intro session hsession hopen
      obtain rfl := Option.some.inj hsession
      cases hopen
    · intro size limit hcause
      cases hcause
  · refine ⟨?_, hentries⟩
    intro session hsession _
    obtain rfl := Option.some.inj hsession
    exact ⟨Demux.silent_withPolicy settings.policy, h⟩

theorem cared_attend {slot : Option Session} (hslot : Cared slot)
    {action : Session → Session × List Entry}
    (haction : ∀ session, session.Roomy → WithinLimit (action session).2 ∧
      ((action session).1.isOpen = true → (action session).1.Roomy)) :
    Cared (attend slot action).1 ∧ WithinLimit (attend slot action).2 := by
  cases slot with
  | none => exact ⟨cared_none, withinLimit_nil⟩
  | some session =>
    cases hopen : session.isOpen with
    | false =>
      rw [attend_of_closed hopen]
      exact ⟨hslot, withinLimit_nil⟩
    | true =>
      obtain ⟨hentries, hroomy⟩ := haction session (hslot session rfl hopen)
      rw [attend_of_open hopen]
      refine ⟨?_, hentries⟩
      intro after hafter
      obtain rfl := Option.some.inj hafter
      exact hroomy

theorem roomy_close {session : Session} {cause : Option Cause}
    (h : ∀ size limit, cause ≠ some (.overfull size limit)) :
    WithinLimit (session.close cause).2 ∧
      ((session.close cause).1.isOpen = true → (session.close cause).1.Roomy) :=
  ⟨withinLimit_close h, nofun⟩

theorem roomy_expire {session : Session} (h : session.Roomy) (now : Nat) :
    WithinLimit (session.expire now).2 ∧
      ((session.expire now).1.isOpen = true → (session.expire now).1.Roomy) := by
  unfold expire
  split
  · exact roomy_close nofun
  · exact ⟨withinLimit_nil, fun _ => h⟩

theorem cared_meet {slot : Option Session} (hslot : Cared slot) {event : Event}
    (h : event.Ample) (now : Nat) :
    Cared (meet now slot event).1 ∧ WithinLimit (meet now slot event).2 := by
  cases event with
  | connect listener settings => exact cared_start h listener now
  | send bytes =>
    exact cared_attend hslot fun session hroomy => receive_of_roomy (fun _ => hroomy) now _
  | finish => exact cared_attend hslot fun session _ => roomy_close nofun
  | reset => exact cared_attend hslot fun session _ => roomy_close nofun
  | wait duration => exact cared_attend hslot fun session hroomy => roomy_expire hroomy _

/-- With ample settings no event closes a session for lack of room. -/
theorem withinLimit_live {slot : Option Session} (hslot : Cared slot) {events : List Event}
    (h : ∀ event ∈ events, event.Ample) (now : Nat) : WithinLimit (live now slot events).2 := by
  induction events generalizing now slot with
  | nil => exact withinLimit_nil
  | cons event events ih =>
    obtain ⟨hafter, hentries⟩ := cared_meet hslot (h event List.mem_cons_self) now
    rw [live_cons]
    exact hentries.append (ih hafter (fun later hmem => h later (List.mem_cons_of_mem _ hmem)) _)

/-! ## What matters -/

/-- What matters of something that has happened in a slot: whether there is a session, its state if
it is open, and what the observer was told. -/
def slotGist (outcome : Option Session × List Entry) : Option (Option Session) × List Entry :=
  (outcome.1.map standing, observed outcome.2)

/-- A slot in which the same matters meets an event alike. -/
theorem slotGist_meet {slot other : Option Session}
    (h : slot.map standing = other.map standing) (now : Nat) (event : Event) :
    slotGist (meet now slot event) = slotGist (meet now other event) := by
  have hattend (action : Session → Session × List Entry) :
      slotGist (attend slot action) = slotGist (attend other action) := by
    cases slot with
    | none =>
      cases other with
      | none => rfl
      | some session => cases h
    | some session =>
      cases other with
      | none => cases h
      | some twin =>
        have hstanding : session.standing = twin.standing := Option.some.inj h
        cases hopen : session.isOpen with
        | false =>
          have htwin : twin.isOpen = false := by
            rw [standing_of_closed hopen] at hstanding
            exact isOpen_of_standing hstanding.symm
          rw [attend_of_closed hopen, attend_of_closed htwin]
          simp only [slotGist, Option.map_some, hstanding]
        | true =>
          rw [standing_of_open hopen] at hstanding
          cases htwin : twin.isOpen with
          | false =>
            rw [standing_of_closed htwin] at hstanding
            cases hstanding
          | true =>
            rw [standing_of_open htwin] at hstanding
            rw [Option.some.inj hstanding]
  cases event with
  | connect listener settings => rfl
  | send bytes => exact hattend _
  | finish => exact hattend _
  | reset => exact hattend _
  | wait duration => exact hattend _

/-- What comes of events depends on what has mattered before them, and on nothing else. -/
theorem slotGist_live {slot other : Option Session} (h : slot.map standing = other.map standing)
    (now : Nat) (events : List Event) :
    slotGist (live now slot events) = slotGist (live now other events) := by
  induction events generalizing now slot other with
  | nil => simp only [live, slotGist, h]
  | cons event events ih =>
    obtain ⟨hafter, hentries⟩ := Prod.mk.inj (slotGist_meet h now event)
    obtain ⟨hfinal, hmore⟩ := Prod.mk.inj (ih hafter (now + event.duration))
    simp only [live_cons, slotGist, observed_append, hentries, hfinal, hmore]

theorem slotGist_behind {first second : Option Session × List Entry}
    (h : slotGist first = slotGist second) (entries : List Entry) :
    slotGist (first.1, entries ++ first.2) = slotGist (second.1, entries ++ second.2) := by
  obtain ⟨hslot, hentries⟩ := Prod.mk.inj h
  simp only [slotGist, observed_append, hslot, hentries]

theorem slotGist_live_after {first second : Option Session × List Entry}
    (h : slotGist first = slotGist second) (now : Nat) (events : List Event) :
    slotGist ((live now first.1 events).1, first.2 ++ (live now first.1 events).2) =
      slotGist ((live now second.1 events).1, second.2 ++ (live now second.1 events).2) := by
  obtain ⟨hslot, hentries⟩ := Prod.mk.inj h
  obtain ⟨hfinal, hmore⟩ := Prod.mk.inj (slotGist_live hslot now events)
  simp only [slotGist, observed_append, hentries, hfinal, hmore]

/-! ## Joining sends -/

/-- Puts bytes in front of events, as one send. -/
def flush (pending : Bytes) (events : List Event) : List Event :=
  if pending = [] then events else .send pending :: events

/-- Joins sends with nothing in between to one, behind bytes that have been sent before. Sends of no
bytes vanish. -/
def joined (pending : Bytes) : List Event → List Event
  | [] => flush pending []
  | .send bytes :: events => joined (pending ++ bytes) events
  | event :: events => flush pending (event :: joined [] events)

theorem joined_cons_of_ne_send {event : Event} (h : ∀ bytes, event ≠ .send bytes) (pending : Bytes)
    (events : List Event) :
    joined pending (event :: events) = flush pending (event :: joined [] events) := by
  cases event with
  | send bytes => exact absurd rfl (h bytes)
  | connect listener settings => rfl
  | finish => rfl
  | reset => rfl
  | wait duration => rfl

theorem meet_send_nil (now : Nat) (slot : Option Session) :
    meet now slot (.send []) = (slot, []) := by
  simp only [meet, send_nil, attend]
  split
  · split <;> rfl
  · rfl

theorem live_flush (now : Nat) (slot : Option Session) (pending : Bytes) (events : List Event) :
    live now slot (flush pending events) = live now slot (.send pending :: events) := by
  rw [flush]
  split
  · rename_i hnil
    rw [live_cons, hnil, meet_send_nil]
    rfl
  · rfl

theorem meet_send_some (now : Nat) (session : Session) (bytes : Bytes) :
    meet now (some session) (.send bytes) =
      (some (session.send now bytes).1, (session.send now bytes).2) := by
  simp only [meet]
  cases hopen : session.isOpen with
  | false => rw [attend_of_closed hopen, Session.send, receive_of_closed hopen]
  | true => rw [attend_of_open hopen]

theorem slotGist_meet_send {slot : Option Session} (hslot : Cared slot) (now : Nat)
    (first second : Bytes) :
    slotGist ((meet now (meet now slot (.send first)).1 (.send second)).1,
        (meet now slot (.send first)).2 ++
          (meet now (meet now slot (.send first)).1 (.send second)).2) =
      slotGist (meet now slot (.send (first ++ second))) := by
  cases slot with
  | none => rfl
  | some session =>
    simp only [meet_send_some]
    cases hopen : session.isOpen with
    | false => simp only [Session.send, receive_of_closed hopen, List.append_nil]
    | true =>
      have hsend := gist_send_append hopen (hslot session rfl hopen) now first second
      obtain ⟨hstanding, hentries⟩ := Prod.mk.inj hsend
      simp only [slotGist, Option.map_some, hstanding]
      exact congrArg _ hentries

theorem slotGist_live_send_send {slot : Option Session} (hslot : Cared slot) (now : Nat)
    (first second : Bytes) (events : List Event) :
    slotGist (live now slot (.send first :: .send second :: events)) =
      slotGist (live now slot (.send (first ++ second) :: events)) := by
  have hsends := slotGist_live_after (slotGist_meet_send hslot now first second) now events
  rw [live_cons, live_cons, live_cons, ← List.append_assoc]
  exact hsends

/-- Sends may be joined: what the observer is told stays the same, and so does the state of an open
session. -/
theorem slotGist_live_joined {slot : Option Session} (hslot : Cared slot) {events : List Event}
    (h : ∀ event ∈ events, event.Ample) (now : Nat) (pending : Bytes) :
    slotGist (live now slot (.send pending :: events)) =
      slotGist (live now slot (joined pending events)) := by
  induction events generalizing slot now pending with
  | nil => rw [joined, live_flush]
  | cons event events ih =>
    have hlater : ∀ later ∈ events, later.Ample := fun later hmem =>
      h later (List.mem_cons_of_mem _ hmem)
    by_cases hsend : ∃ bytes, event = .send bytes
    · obtain ⟨bytes, rfl⟩ := hsend
      rw [joined, ← ih hslot hlater, slotGist_live_send_send hslot]
    · -- The pending bytes are sent now, and behind the event nothing is pending.
      have hflush := joined_cons_of_ne_send (not_exists.mp hsend) pending events
      have hample : (Event.send pending).Ample := trivial
      have hpending := (cared_meet hslot hample now).1
      have hafter := (cared_meet hpending (h event List.mem_cons_self) now).1
      have hjoined := ih hafter hlater (now + event.duration) []
      rw [← live_flush, flush, if_pos rfl] at hjoined
      rw [hflush, live_flush, live_cons, live_cons, live_cons now slot (.send pending),
        live_cons _ _ event]
      exact slotGist_behind (slotGist_behind hjoined _) _

theorem slotGist_live_of_joined {slot : Option Session} (hslot : Cared slot)
    {events others : List Event} (hevents : ∀ event ∈ events, event.Ample)
    (hothers : ∀ event ∈ others, event.Ample) (h : joined [] events = joined [] others)
    (now : Nat) : slotGist (live now slot events) = slotGist (live now slot others) := by
  have hjoin {given : List Event} (hgiven : ∀ event ∈ given, event.Ample) :
      slotGist (live now slot given) = slotGist (live now slot (joined [] given)) := by
    rw [← slotGist_live_joined hslot hgiven, ← live_flush, flush, if_pos rfl]
  rw [hjoin hevents, hjoin hothers, h]

end IceTcp.Session
