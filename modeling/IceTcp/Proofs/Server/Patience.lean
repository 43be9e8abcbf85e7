import IceTcp.Proofs.Server.Activity

/-!
# Patience

How long a session is kept without a byte is the matter of the interface that its client has
connected to, and of nothing else: the time counts from the last activity of the client itself, and
it makes no difference in how many goes it passes. Where an interface has no patience at all, a
session closes as it begins.

Main results:

* `view_wait_of_served`: what the passing of time does to a session.
* `run_cons_of_other`: what does not renew the patience with a client.
* `run_wait_wait`: time may pass in two goes.
* `story_of_zero`: a client that meets no patience.
* `patience_exact`: all of it together.
-/

namespace IceTcp

/-- A session that expires in two goes expires as it does in one. -/
theorem Session.expire_expire {first second : Nat} (h : first ≤ second) (session : Session) :
    ((session.expire first).1.expire second).1 = (session.expire second).1 ∧
      (session.expire first).2 ++ ((session.expire first).1.expire second).2 =
        (session.expire second).2 := by
  by_cases hexpire : session.isOpen ∧ session.deadline ≤ first
  · have hfirst : session.expire first = session.close (some .idle) := if_pos hexpire
    have hsecond : session.expire second = session.close (some .idle) :=
      if_pos ⟨hexpire.1, Nat.le_trans hexpire.2 h⟩
    rw [hfirst, hsecond, expire_of_closed (close_isOpen _ _), List.append_nil]
    exact ⟨rfl, rfl⟩
  · have hfirst : session.expire first = (session, []) := if_neg hexpire
    rw [hfirst, List.nil_append]
    exact ⟨rfl, rfl⟩

namespace Server

open Session (Entry)

/-! ## Time in two goes -/

theorem wait_wait (server : Server) (first second : Nat) :
    ((server.wait first).1.wait second).1 = (server.wait (first + second)).1 ∧
      ∀ client, about client (server.wait first).2.entries ++
          about client ((server.wait first).1.wait second).2.entries =
        about client (server.wait (first + second)).2.entries := by
  have hnow : server.now + first + second = server.now + (first + second) := Nat.add_assoc ..
  have hexpire := Session.expire_expire (Nat.le_add_right (server.now + first) second)
  constructor
  · simp only [wait, List.map_map, hnow] at hexpire ⊢
    congr 1
    apply List.map_congr_left
    intro session _
    exact (hexpire session).1
  · intro client
    have hview (server : Server) (duration : Nat) := (view_wait server client duration).trans
      (attend_expire server.sessions[client]? (server.now + duration))
    obtain ⟨hslot, hfirst⟩ := Prod.mk.inj (hview server first)
    obtain ⟨-, hsecond⟩ := Prod.mk.inj (hview (server.wait first).1 second)
    obtain ⟨-, hwhole⟩ := Prod.mk.inj (hview server (first + second))
    rw [hfirst, hsecond, hwhole, hslot]
    cases server.sessions[client]? with
    | none => rfl
    | some session =>
      rw [← hnow]
      exact (hexpire session).2

/-- Two waits in a row may be made as one, whatever comes behind them. -/
theorem run_wait_wait (server : Server) (first second : Nat) (steps : List Step) :
    (server.run (.wait first :: .wait second :: steps)).1 =
        (server.run (.wait (first + second) :: steps)).1 ∧
      ∀ client, story client (server.run (.wait first :: .wait second :: steps)).2 =
        story client (server.run (.wait (first + second) :: steps)).2 := by
  obtain ⟨hserver, hentries⟩ := wait_wait server first second
  constructor
  · show (((server.wait first).1.wait second).1.run steps).1 = _
    rw [hserver]
    rfl
  · intro client
    rw [story_cons, story_cons, story_cons, ← List.append_assoc]
    show about client (server.wait first).2.entries ++
        about client ((server.wait first).1.wait second).2.entries ++
          story client (((server.wait first).1.wait second).1.run steps).2 = _
    rw [hentries, hserver]
    rfl

/-! ## What counts -/

/-- Whether a step is not that of a client that is there: another one connects or does
something. -/
def Step.IsOther (client : Nat) : Step → Prop
  | .connect _ => True
  | .send other _ | .finish other | .reset other => other ≠ client
  | .wait _ => False

/-- Nothing that is done by another client, and no send of no bytes, does anything to a session or
takes any time. -/
theorem view_step_of_other {server : Server} {client : Nat} {session : Session}
    (hslot : server.sessions[client]? = some session) {step : Step}
    (h : step = .send client [] ∨ step.IsOther client) :
    view client (server.step step) = (some session, []) ∧ step.duration = 0 := by
  rcases h with rfl | hother
  · refine ⟨?_, rfl⟩
    rw [step_eq_live, event?, if_pos rfl, hslot, Option.toList_some, Session.live_cons,
      Session.meet_send_nil]
    rfl
  · cases step with
    | connect listener => exact ⟨view_connect_of_present hslot listener, rfl⟩
    | send other bytes => exact ⟨(view_act_other hother server _).trans (by rw [hslot]), rfl⟩
    | finish other => exact ⟨(view_act_other hother server _).trans (by rw [hslot]), rfl⟩
    | reset other => exact ⟨(view_act_other hother server _).trans (by rw [hslot]), rfl⟩
    | wait duration => exact hother.elim

theorem noticed_of_lt {client connected others : Nat} (listeners : List Session.Settings)
    (h : client < connected) (hothers : client < others) (steps : List Step) :
    noticed listeners client connected steps = noticed listeners client others steps := by
  induction steps generalizing connected others with
  | nil => rfl
  | cons step steps ih =>
    have hevent : event? listeners client connected step = event? listeners client others step := by
      cases step with
      | connect listener =>
        simp only [event?, if_neg (Nat.ne_of_gt h), if_neg (Nat.ne_of_gt hothers)]
      | send other bytes => rfl
      | finish other => rfl
      | reset other => rfl
      | wait duration => rfl
    have hafter {count : Nat} (hcount : client < count) :
        client < connectedAfter listeners count step := by
      unfold connectedAfter
      split
      · split <;> omega
      all_goals exact hcount
    rw [noticed, noticed, hevent, ih (hafter h) (hafter hothers)]

/-- Where two servers have the same session for a client, at the same time and with the same
listeners, steps do the same to it and tell the same of it. -/
theorem run_of_same_slot {server twin : Server} {client : Nat} {session : Session}
    (hslot : server.sessions[client]? = some session)
    (htwin : twin.sessions[client]? = some session)
    (hlisteners : server.listeners = twin.listeners) (hnow : server.now = twin.now)
    (steps : List Step) :
    (server.run steps).1.sessions[client]? = (twin.run steps).1.sessions[client]? ∧
      story client (server.run steps).2 = story client (twin.run steps).2 := by
  have hlength := (List.getElem?_eq_some_iff.mp hslot).1
  have htwinLength := (List.getElem?_eq_some_iff.mp htwin).1
  have hsame := run_eq_live server client steps
  rw [hslot, hlisteners, hnow, noticed_of_lt _ hlength htwinLength, ← htwin, ← run_eq_live] at hsame
  exact Prod.mk.inj hsame

/-- A step of another client and a send of no bytes make no difference to a client that is there,
now or later. -/
theorem run_cons_of_other {server : Server} {client : Nat} {session : Session}
    (hslot : server.sessions[client]? = some session) {step : Step}
    (h : step = .send client [] ∨ step.IsOther client) (steps : List Step) :
    (server.run (step :: steps)).1.sessions[client]? = (server.run steps).1.sessions[client]? ∧
      story client (server.run (step :: steps)).2 = story client (server.run steps).2 := by
  obtain ⟨hview, hduration⟩ := view_step_of_other hslot h
  obtain ⟨hafter, hentries⟩ := Prod.mk.inj hview
  have hlisteners := (frame_step server client step).1
  have hnow : (server.step step).1.now = server.now := by
    rw [now_step, hduration, Nat.add_zero]
  obtain ⟨hfinal, hstory⟩ := run_of_same_slot hafter hslot hlisteners hnow steps
  refine ⟨hfinal, ?_⟩
  rw [story_cons, hview, List.nil_append]
  exact hstory

/-- What the passing of time does to a session depends on when its client was last active and on the
interface that the client connected to. -/
theorem view_wait_of_served {config : Config} {steps : List Step} {client : Nat}
    {interface : Interface} {last : Nat} {session : Session}
    (hserved : Served config steps client interface last)
    (hslot : (config.serving.run steps).1.sessions[client]? = some session) (duration : Nat) :
    view client ((config.serving.run steps).1.wait duration) =
      if session.isOpen ∧ last + interface.idleTimeout * 1000 ≤ elapsed steps + duration then
        (some { session with isOpen := false }, [.broken .idle, .closed, .disconnected])
      else (some session, []) := by
  obtain ⟨hsettings, hlast⟩ := hserved.eq_of_slot hslot
  have hdeadline : session.deadline = last + interface.idleTimeout * 1000 := by
    rw [Session.deadline, hlast, hsettings]
    rfl
  rw [view_wait, attend_expire, hslot, now_run_serving, ← hdeadline]
  simp only [Option.map_some, Option.getD_some, Session.expire]
  split <;> rfl

/-! ## No patience -/

theorem connect_of_zero {server : Server} {listener : Nat} {settings : Session.Settings}
    (hlistener : server.listeners[listener]? = some settings) (hzero : settings.idleTimeout = 0) :
    (server.connect listener).2 =
        .trace ([.accepted listener, .connected, .broken .idle, .closed, .disconnected].map
          fun entry => (server.sessions.length, entry)) ∧
      ∃ session,
        (server.connect listener).1.sessions[server.sessions.length]? = some session ∧
        session.isOpen = false := by
  unfold connect
  rw [hlistener]
  dsimp only
  rw [Session.start_of_zero hzero, List.getElem?_concat_length]
  exact ⟨rfl, _, rfl, rfl⟩

theorem story_of_absent {config : Config} {steps : List Step} {client : Nat}
    (h : (config.serving.run steps).1.sessions[client]? = none) :
    story client (config.serving.run steps).2 = [] := by
  rcases run_serving config client steps with
    ⟨-, hstory, -⟩ | ⟨_, _, _, session, _, -, -, hslot, -⟩
  · exact hstory
  · rw [show (config.serving.run steps).1.sessions[client]? = some session from hslot] at h
    cases h

/-- Where a listener has no patience, the whole story of a client is over as it connects, and no
packet is in it. -/
theorem story_of_zero {config : Config} {before : List Step} {listener : Nat}
    {interface : Interface} (hinterface : config.server.interfaces[listener]? = some interface)
    (hzero : interface.idleTimeout = 0) (later : List Step) :
    let reached := (config.serving.run before).1
    let client := reached.sessions.length
    let told := [.accepted listener, .connected, .broken .idle, .closed, .disconnected]
    let outcome := config.serving.run (before ++ .connect listener :: later)
    (reached.step (.connect listener)).2 = .trace (told.map fun entry => (client, entry)) ∧
      story client outcome.2 = told ∧
      ∃ session, outcome.1.sessions[client]? = some session ∧ session.isOpen = false := by
  intro reached client told outcome
  have habsent : reached.sessions[client]? = none := List.getElem?_eq_none (Nat.le_refl _)
  have hlistener : reached.listeners[listener]? = some (config.settings interface) := by
    rw [listeners_run]
    exact listener_serving hinterface
  obtain ⟨hanswer, session, hslot, hclosed⟩ := connect_of_zero hlistener hzero
  obtain ⟨hfinal, hlater, -⟩ := run_of_closed hslot hclosed later
  have htold : about client (reached.connect listener).2.entries = told := by
    rw [hanswer]
    exact about_self client told
  have houtcome : outcome = _ := run_append config.serving before (.connect listener :: later)
  rw [houtcome]
  refine ⟨hanswer, ?_, session, hfinal, hclosed⟩
  rw [story_append, story_of_absent habsent, List.nil_append]
  show about client (reached.connect listener).2.entries ++
    story client ((reached.connect listener).1.run later).2 = told
  rw [htold, hlater, List.append_nil]

/-! ## All of it -/

/-- Idleness is exact. Time that passes closes the session of a client for idleness if and only if
the session is open and, when the time has passed, the client was last active no less than the idle
timeout of its interface ago; otherwise it does nothing to the session. What another client does,
and a send of no bytes, make no difference to a session, then or later. Nor does it make one to
anything whether time passes in two goes or in one. A client of an interface without any patience is
closed by the answer to its connection, and no packet is ever told of it. -/
theorem patience_exact (config : Config) :
    (∀ steps client, let outcome := config.serving.run steps
      (outcome.1.sessions[client]? = none →
        ∀ duration, view client (outcome.1.step (.wait duration)) = (none, [])) ∧
      ∀ session, outcome.1.sessions[client]? = some session →
        (∃ interface last, Served config steps client interface last) ∧
        (∀ interface last, Served config steps client interface last → ∀ duration,
          view client (outcome.1.step (.wait duration)) =
            if session.isOpen ∧ last + interface.idleTimeout * 1000 ≤ elapsed steps + duration then
              (some { session with isOpen := false }, [.broken .idle, .closed, .disconnected])
            else (some session, [])) ∧
        ∀ step, step = .send client [] ∨ step.IsOther client → ∀ later,
          let plain := config.serving.run (steps ++ later)
          let disturbed := config.serving.run (steps ++ step :: later)
          disturbed.1.sessions[client]? = plain.1.sessions[client]? ∧
            story client disturbed.2 = story client plain.2) ∧
      (∀ before after first second,
        let split := config.serving.run (before ++ .wait first :: .wait second :: after)
        let whole := config.serving.run (before ++ .wait (first + second) :: after)
        split.1 = whole.1 ∧ ∀ client, story client split.2 = story client whole.2) ∧
      ∀ before listener interface later,
        config.server.interfaces[listener]? = some interface → interface.idleTimeout = 0 →
        let reached := (config.serving.run before).1
        let client := reached.sessions.length
        let told := [.accepted listener, .connected, .broken .idle, .closed, .disconnected]
        let outcome := config.serving.run (before ++ .connect listener :: later)
        (reached.step (.connect listener)).2 = .trace (told.map fun entry => (client, entry)) ∧
          story client outcome.2 = told ∧
          ∃ session, outcome.1.sessions[client]? = some session ∧ session.isOpen = false := by
  refine ⟨fun steps client => ⟨?_, ?_⟩, ?_, ?_⟩
  · intro habsent duration
    show view client ((config.serving.run steps).1.wait duration) = _
    rw [view_wait, habsent]
    rfl
  · intro session hslot
    obtain ⟨interface, hserved⟩ := exists_served hslot
    refine ⟨⟨interface, _, hserved⟩, fun interface last hserved duration => ?_, ?_⟩
    · exact view_wait_of_served hserved hslot duration
    · intro step hother later plain disturbed
      obtain ⟨hfinal, hstory⟩ := run_cons_of_other hslot hother later
      have hplain : plain = _ := run_append config.serving steps later
      have hdisturbed : disturbed = _ := run_append config.serving steps (step :: later)
      rw [hplain, hdisturbed]
      refine ⟨hfinal, ?_⟩
      rw [story_append, story_append, hstory]
  · intro before after first second split whole
    obtain ⟨hserver, hstory⟩ := run_wait_wait (config.serving.run before).1 first second after
    have hsplit : split = _ := run_append config.serving before _
    have hwhole : whole = _ := run_append config.serving before _
    rw [hsplit, hwhole]
    refine ⟨hserver, fun client => ?_⟩
    rw [story_append, story_append, hstory]
  · intro before listener interface later hinterface hzero
    exact story_of_zero hinterface hzero later

end Server

end IceTcp
