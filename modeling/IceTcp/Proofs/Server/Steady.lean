import IceTcp.Proofs.Demux.Fragmentation
import IceTcp.Proofs.Server.Activity
import IceTcp.Proofs.Session.Life
import IceTcp.Proofs.Session.Transcript

/-!
# What holds of all open sessions at all times

A session that is still open after an event has handed on every packet, holds no more than its limit
allows and nothing that could still be cut off, and has not been silent for too long. Each of the
checks that a session makes keeps one part of this: the two after a read, and the one when time has
passed.

Whatever the steps of a server are, every session that is open behind them is steady. So what a
server holds for its clients is bounded by their number, and no client is served that has been
silent for as long as its interface allows.

Main results:

* `Session.Steady.receive`: a session that survives its reads is steady.
* `Session.Steady.expire`: a session that survives the passing of time is steady.
* `Session.kept_meet`: every event leaves a slot without a session, or with one that is closed or
  steady.
* `steady_step`, `steady_run`: a step, and so a sequence of steps, keeps all open sessions steady.
* `steady_of_isOpen`: what holds of a session that is open.
-/

namespace IceTcp

namespace Session

/-- What holds of an open session between two events. -/
structure Steady (now : Nat) (session : Session) : Prop where
  /-- The stream is not malformed, and what is unresolved is within the limit. -/
  free : ¬ session.demux.Blocked session.settings.maxBufferSize
  /-- No packet waits. -/
  emptied : session.demux.queue = []
  /-- Nothing is left to cut off. -/
  settled : session.demux.Settled
  begun : session.lastActivity ≤ now
  patient : now < session.deadline

theorem Steady.idleTimeout_pos {now : Nat} {session : Session} (h : session.Steady now) :
    0 < session.settings.idleTimeout := by
  have hbegun := h.begun
  have hpatient := h.patient
  unfold deadline at hpatient
  omega

/-! ## One session -/

theorem steady_refreshed {session : Session} {now : Nat} {demux : Demux}
    (hfree : ¬ demux.Blocked session.settings.maxBufferSize) (hsettled : demux.Settled)
    (hpatience : 0 < session.settings.idleTimeout) : (session.refreshed now demux).Steady now := by
  refine ⟨hfree, rfl, Demux.settled_of_queue hsettled _, Nat.le_refl now, ?_⟩
  show now < now + session.settings.idleTimeout * 1000
  omega

theorem Steady.read {session : Session} {now : Nat} (h : session.Steady now) {bytes : Bytes}
    (hopen : (session.read now bytes).1.isOpen = true) : (session.read now bytes).1.Steady now := by
  rw [read_eq] at hopen ⊢
  simp only [fault?_refreshed] at hopen ⊢
  by_cases hblocked : (session.demux.append bytes).1.Blocked session.settings.maxBufferSize
  · rw [if_pos hblocked] at hopen
    cases hopen
  · rw [if_neg hblocked]
    exact steady_refreshed hblocked (Demux.settled_append _ _) h.idleTimeout_pos

/-- A session that survives its reads is steady. -/
theorem Steady.receive {session : Session} {now : Nat} (h : session.Steady now)
    {pieces : List Bytes} (hopen : (session.receive now pieces).1.isOpen = true) :
    (session.receive now pieces).1.Steady now := by
  induction pieces generalizing session with
  | nil => exact h
  | cons piece pieces ih =>
    cases hbefore : session.isOpen with
    | false =>
      rw [receive_of_closed hbefore] at hopen ⊢
      exact h
    | true =>
      rw [receive_cons hbefore] at hopen ⊢
      cases hread : (session.read now piece).1.isOpen with
      | false =>
        rw [receive_of_closed hread] at hopen
        exact absurd (hread.symm.trans hopen) Bool.noConfusion
      | true => exact ih (h.read hread) hopen

/-- A session that survives the passing of time is steady. -/
theorem Steady.expire {session : Session} {now later : Nat} (h : session.Steady now)
    (hlater : now ≤ later) (hopen : (session.expire later).1.isOpen = true) :
    (session.expire later).1.Steady later := by
  obtain ⟨hbefore, hpatient⟩ := (expire_isOpen later session).mp hopen
  have hsame : session.expire later = (session, []) := by
    unfold Session.expire
    exact if_neg fun hexpire => Nat.not_le.mpr hpatient hexpire.2
  rw [hsame]
  exact ⟨h.free, h.emptied, h.settled, Nat.le_trans h.begun hlater, hpatient⟩

theorem steady_start {listener now : Nat} {settings : Settings}
    (hopen : (start listener settings now).1.isOpen = true) :
    (start listener settings now).1.Steady now := by
  by_cases hpatience : settings.idleTimeout = 0
  · rw [start_of_zero hpatience] at hopen
    cases hopen
  · have hpos := Nat.pos_of_ne_zero hpatience
    rw [start_of_pos hpos]
    have hfree := Demux.not_blocked_withPolicy settings.maxBufferSize settings.policy
    have hsettled := (Demux.Origin.withPolicy settings.policy).settled_demux
    refine ⟨hfree, rfl, hsettled, Nat.le_refl now, ?_⟩
    show now < now + settings.idleTimeout * 1000
    omega

/-! ## One slot -/

/-- The session in a slot is steady, if there is one and it is open. -/
def Kept (now : Nat) (slot : Option Session) : Prop :=
  ∀ session, slot = some session → session.isOpen = true → session.Steady now

theorem kept_attend {slot : Option Session} {now later : Nat} (h : Kept now slot)
    {action : Session → Session × List Entry}
    (haction : ∀ session, session.Steady now → (action session).1.isOpen = true →
      (action session).1.Steady later) : Kept later (attend slot action).1 := by
  intro after hafter hopen
  cases slot with
  | none => cases hafter
  | some session =>
    cases hbefore : session.isOpen with
    | false =>
      rw [attend_of_closed hbefore] at hafter
      obtain rfl := Option.some.inj hafter
      exact absurd (hbefore.symm.trans hopen) Bool.noConfusion
    | true =>
      rw [attend_of_open hbefore] at hafter
      obtain rfl := Option.some.inj hafter
      exact haction session (h session rfl hbefore) hopen

/-- Every event keeps a slot. -/
theorem kept_meet {slot : Option Session} {now : Nat} (h : Kept now slot) (event : Event) :
    Kept (now + event.duration) (meet now slot event).1 := by
  cases event with
  | connect listener settings =>
    show Kept now (some (start listener settings now).1)
    intro session hsession hopen
    rw [← Option.some.inj hsession] at hopen ⊢
    exact steady_start hopen
  | send bytes => exact kept_attend h fun session hsteady => hsteady.receive
  | finish => exact kept_attend h fun session _ hopen => absurd hopen Bool.false_ne_true
  | reset => exact kept_attend h fun session _ hopen => absurd hopen Bool.false_ne_true
  | wait duration =>
    exact kept_attend h fun session hsteady => hsteady.expire (Nat.le_add_right now duration)

end Session

/-! ## All sessions of a server -/

namespace Server

/-- All open sessions are steady. -/
def Steady (server : Server) : Prop :=
  ∀ client : Nat, Session.Kept server.now server.sessions[client]?

theorem steady_listening (listeners : List Session.Settings) : (listening listeners).Steady := by
  intro client session hsession
  cases hsession

/-- A step is at most one event for each client, and that keeps its slot. -/
theorem steady_step {server : Server} (h : server.Steady) (step : Step) :
    (server.step step).1.Steady := by
  intro client
  obtain ⟨hafter, -⟩ := Prod.mk.inj (step_eq_live server client step)
  rw [hafter, (frame_step server client step).2.2]
  cases event? server.listeners client server.sessions.length step with
  | none => exact h client
  | some event => exact Session.kept_meet (h client) event

theorem steady_run {server : Server} (h : server.Steady) (steps : List Step) :
    (server.run steps).1.Steady := by
  induction steps generalizing server with
  | nil => exact h
  | cons step steps ih => exact ih (steady_step h step)

/-- A session that is open has not failed, no packet waits in it, it holds no more than the limit,
and an append of nothing succeeds, records nothing and changes nothing. Its client was last active
less than the idle timeout of its interface ago. -/
theorem steady_of_isOpen {config : Config} {steps : List Step} {client : Nat} {session : Session}
    (hslot : (config.serving.run steps).1.sessions[client]? = some session)
    (hopen : session.isOpen = true) :
    session.demux.failed = false ∧ session.demux.queue = [] ∧
      session.demux.buffer.length ≤ config.server.maxBufferSize ∧
      session.demux.step (.append []) = (session.demux, .appended true []) ∧
      ∃ interface last, Served config steps client interface last ∧ last ≤ elapsed steps ∧
        elapsed steps < last + interface.idleTimeout * 1000 := by
  have hsteady : session.Steady (config.serving.run steps).1.now :=
    steady_run (steady_listening _) steps client session hslot hopen
  obtain ⟨interface, hserved⟩ := exists_served hslot
  obtain ⟨hsettings, -⟩ := hserved.eq_of_slot hslot
  obtain ⟨hfailed, hlong⟩ := not_or.mp hsteady.free
  have hsound : session.demux.failed = false := Bool.eq_false_iff.mpr hfailed
  have hbegun := hsteady.begun
  have hpatient := hsteady.patient
  rw [hsettings] at hlong
  rw [Session.deadline, hsettings] at hpatient
  rw [now_run_serving] at hbegun hpatient
  refine ⟨hsound, hsteady.emptied, Nat.not_lt.mp hlong, ?_, interface, session.lastActivity,
    hserved, hbegun, hpatient⟩
  have hsettled : session.demux.append [] = (session.demux, []) := hsteady.settled
  simp only [Demux.step, hsettled, hsound, Bool.not_false]

/-- A client that has sent half a message is still served when its time is all but up. -/
theorem steady_of_isOpen_loopback :
    let config : Config :=
      { Config.standard with
        server := ⟨[⟨.v4 ⟨127, 0, 0, 1⟩ 0, 20⟩], ServerSettings.standardMaxBufferSize⟩ }
    let steps : List Step :=
      [.connect 0, .wait 15000, .send 0 [0x40, 0x01, 0x00], .wait 19999]
    ∃ session, (config.serving.run steps).1.sessions[0]? = some session ∧ session.isOpen = true ∧
      session.demux.buffer = [0x40, 0x01, 0x00] ∧ elapsed steps = 34999 ∧
      session.demux.step (.append []) = (session.demux, .appended true []) ∧
      ∃ interface last, Served config steps 0 interface last ∧
        elapsed steps < last + interface.idleTimeout * 1000 := by
  intro config steps
  let session : Session :=
    ⟨config.settings ⟨.v4 ⟨127, 0, 0, 1⟩ 0, 20⟩,
      ⟨config.policy, .relay, [0x40, 0x01, 0x00], [], false⟩, 15000, true⟩
  have hslot : (config.serving.run steps).1.sessions[0]? = some session := by
    decide +kernel
  obtain ⟨-, -, -, hsettled, interface, last, hserved, -, hpatient⟩ := steady_of_isOpen hslot rfl
  exact ⟨session, hslot, rfl, rfl, rfl, hsettled, interface, last, hserved, hpatient⟩

end Server

end IceTcp
