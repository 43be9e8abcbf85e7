import IceTcp.Proofs.Server.LifeCycle

/-!
# When a client was last active

A client is active when it connects and whenever bytes arrive that its open session reads. When that
was shows in the steps and their answers; the session of the client holds the last such time, and it
holds the settings of the interface that the client connected to.

Main results:

* `now_run`: the clock of a server tells how long its steps took.
* `activity_step_of_present`, `activity_run_of_present`: what steps leave of a session.
* `activity_run_of_connect`: what they leave of a client that connects in between.
* `exists_served`, `Served.eq_of_slot`: a session and the client that it is of.
-/

namespace IceTcp

/-! ## One session -/

namespace Session

theorem settings_read (now : Nat) (session : Session) (bytes : Bytes) :
    (session.read now bytes).1.settings = session.settings := by
  rw [read_eq]
  dsimp only
  split <;> rfl

theorem lastActivity_read (now : Nat) (session : Session) (bytes : Bytes) :
    (session.read now bytes).1.lastActivity = now := by
  rw [read_eq]
  dsimp only
  split <;> rfl

theorem connected_notMem_close (session : Session) (cause : Option Cause) :
    Entry.connected ∉ (session.close cause).2 := by
  cases cause <;> simp [close]

theorem settings_receive (now : Nat) (session : Session) (pieces : List Bytes) :
    (session.receive now pieces).1.settings = session.settings := by
  induction pieces generalizing session with
  | nil => rfl
  | cons piece pieces ih =>
    cases hopen : session.isOpen with
    | false => rw [receive_of_closed hopen]
    | true => rw [receive_cons hopen, ih, settings_read]

theorem lastActivity_receive_of_eq {now : Nat} {session : Session} (h : session.lastActivity = now)
    (pieces : List Bytes) : (session.receive now pieces).1.lastActivity = now := by
  induction pieces generalizing session with
  | nil => exact h
  | cons piece pieces ih =>
    cases hopen : session.isOpen with
    | false =>
      rw [receive_of_closed hopen]
      exact h
    | true =>
      rw [receive_cons hopen]
      exact ih (lastActivity_read now session piece)

theorem lastActivity_send {session : Session} (hopen : session.isOpen = true) (now : Nat)
    (bytes : Bytes) :
    (session.send now bytes).1.lastActivity = if bytes ≠ [] then now else session.lastActivity := by
  by_cases hbytes : bytes = []
  · rw [hbytes, send_nil, if_neg (not_not_intro rfl)]
  · rw [if_pos hbytes]
    have hflatten := Bytes.flatten_chunks (show 0 < readSize by decide) bytes
    unfold Session.send
    cases hpieces : bytes.chunks readSize with
    | nil =>
      rw [hpieces] at hflatten
      exact absurd hflatten.symm hbytes
    | cons piece pieces =>
      rw [receive_cons hopen]
      exact lastActivity_receive_of_eq (lastActivity_read now session piece) pieces

theorem settings_start (listener : Nat) (settings : Settings) (now : Nat) :
    (start listener settings now).1.settings = settings := by
  unfold start expire
  dsimp only
  split <;> rfl

theorem lastActivity_start (listener : Nat) (settings : Settings) (now : Nat) :
    (start listener settings now).1.lastActivity = now := by
  unfold start expire
  dsimp only
  split <;> rfl

end Session

namespace Server

open Session (Entry)

/-! ## Time -/

/-- The time that a step takes. -/
def Step.duration : Step → Nat
  | .wait duration => duration
  | .connect _ | .send _ _ | .finish _ | .reset _ => 0

/-- The time that steps take. -/
def elapsed : List Step → Nat
  | [] => 0
  | step :: steps => step.duration + elapsed steps

theorem now_step (server : Server) (step : Step) :
    (server.step step).1.now = server.now + step.duration := by
  cases step with
  | connect listener =>
    show (server.connect listener).1.now = server.now
    unfold connect
    split <;> rfl
  | send client bytes => exact (listeners_act server client _).2
  | finish client => exact (listeners_act server client _).2
  | reset client => exact (listeners_act server client _).2
  | wait duration => rfl

theorem now_run (server : Server) (steps : List Step) :
    (server.run steps).1.now = server.now + elapsed steps := by
  induction steps generalizing server with
  | nil => rfl
  | cons step steps ih =>
    show ((server.step step).1.run steps).1.now = server.now + (step.duration + elapsed steps)
    rw [ih, now_step, Nat.add_assoc]

/-! ## Activity -/

/-- Whether a step and its answer show the client active: it connects, or it sends some bytes and
its session is open. -/
def Step.Renews (client : Nat) (answer : Answer) : Step → Prop
  | .connect _ => (client, Entry.connected) ∈ answer.entries
  | .send other bytes => other = client ∧ bytes ≠ [] ∧ answer ≠ .notConnected
  | .finish _ | .reset _ | .wait _ => False

instance (client : Nat) (answer : Answer) (step : Step) : Decidable (step.Renews client answer) :=
  match step with
  | .connect _ => inferInstanceAs (Decidable (_ ∈ _))
  | .send _ _ => inferInstanceAs (Decidable (_ ∧ _ ∧ _))
  | .finish _ | .reset _ | .wait _ => inferInstanceAs (Decidable False)

/-- The times at which a client is active in steps that are made from a time on, oldest first. -/
def activity (client now : Nat) : List Step → List Answer → List Nat
  | step :: steps, answer :: answers =>
    (if step.Renews client answer then [now] else []) ++
      activity client (now + step.duration) steps answers
  | _, _ => []

section

variable {server : Server} {client : Nat}

theorem activity_cons (step : Step) (steps : List Step) :
    activity client server.now (step :: steps) (server.run (step :: steps)).2 =
      (if step.Renews client (server.step step).2 then [server.now] else []) ++
        activity client (server.step step).1.now steps ((server.step step).1.run steps).2 := by
  rw [now_step]
  rfl

/-- A step that does not tell of a connection of a client and sends nothing for it does not show it
active. -/
theorem not_renews_of_untold {step : Step} {answer : Answer} {entries : List Entry}
    (hentries : about client answer.entries = entries) (htold : .connected ∉ entries)
    (hsent : step.sent client answer = []) : ¬ step.Renews client answer := by
  intro hrenews
  cases step with
  | connect listener => exact htold (hentries ▸ mem_about.mpr hrenews)
  | send other bytes =>
    obtain ⟨hother, -, hanswer⟩ := hrenews
    have hbytes : Step.sent client (.send other bytes) answer = [bytes] :=
      if_pos ⟨hother, hanswer⟩
    rw [hbytes] at hsent
    cases hsent
  | finish other => exact hrenews
  | reset other => exact hrenews
  | wait duration => exact hrenews

/-! ## One step -/

/-- What a step leaves of a session: its settings, and its last activity unless the step renews
it. -/
theorem activity_step_of_present {session : Session}
    (hslot : server.sessions[client]? = some session) (step : Step) :
    ∃ after, (server.step step).1.sessions[client]? = some after ∧
      after.settings = session.settings ∧
      after.lastActivity =
        if step.Renews client (server.step step).2 then server.now else session.lastActivity := by
  cases hopen : session.isOpen with
  | false =>
    obtain ⟨hafter, hentries⟩ := Prod.mk.inj (view_step_of_closed hslot hopen step)
    have hsent := sent_of_not_open (not_open_of_closed hslot hopen) step
    have hrenews := not_renews_of_untold hentries List.not_mem_nil hsent
    exact ⟨session, hafter, rfl, (if_neg hrenews).symm⟩
  | true =>
    rcases step_of_open hslot hopen step with
      ⟨hview, hsent⟩ | ⟨bytes, rfl, hview, hsent⟩ | ⟨cause, -, -, -, hview, hsent⟩
    · obtain ⟨hafter, hentries⟩ := Prod.mk.inj hview
      have hrenews := not_renews_of_untold hentries List.not_mem_nil hsent
      exact ⟨session, hafter, rfl, (if_neg hrenews).symm⟩
    · obtain ⟨hafter, -⟩ := Prod.mk.inj hview
      refine ⟨_, hafter, Session.settings_receive _ _ _, ?_⟩
      have hanswer : (server.step (.send client bytes)).2 ≠ .notConnected := by
        intro hanswer
        rw [hanswer] at hsent
        have hnone : Step.sent client (.send client bytes) .notConnected = [] :=
          if_neg fun h => h.2 rfl
        rw [hnone] at hsent
        cases hsent
      rw [Session.lastActivity_send hopen]
      by_cases hbytes : bytes ≠ []
      · rw [if_pos hbytes, if_pos ⟨rfl, hbytes, hanswer⟩]
      · rw [if_neg hbytes, if_neg fun hrenews => hbytes hrenews.2.1]
    · obtain ⟨hafter, hentries⟩ := Prod.mk.inj hview
      have htold := Session.connected_notMem_close session cause
      exact ⟨_, hafter, rfl, (if_neg (not_renews_of_untold hentries htold hsent)).symm⟩

/-! ## Many steps -/

/-- What steps leave of a session: its settings, and its last activity unless they renew it. -/
theorem activity_run_of_present {session : Session}
    (hslot : server.sessions[client]? = some session) (steps : List Step) :
    ∃ after, (server.run steps).1.sessions[client]? = some after ∧
      after.settings = session.settings ∧
      after.lastActivity =
        (activity client server.now steps (server.run steps).2).getLast?.getD
          session.lastActivity := by
  induction steps generalizing server session with
  | nil => exact ⟨session, hslot, rfl, rfl⟩
  | cons step steps ih =>
    obtain ⟨middle, hmiddle, hsettings, hactivity⟩ := activity_step_of_present hslot step
    obtain ⟨after, hafter, hsame, hlast⟩ := ih hmiddle
    refine ⟨after, hafter, hsame.trans hsettings, ?_⟩
    rw [hlast, hactivity, activity_cons, List.getLast?_append, Option.getD_or]
    split <;> rfl

theorem activity_append (first second : List Step) :
    activity client server.now (first ++ second) (server.run (first ++ second)).2 =
      activity client server.now first (server.run first).2 ++
        activity client (server.run first).1.now second ((server.run first).1.run second).2 := by
  induction first generalizing server with
  | nil => rfl
  | cons step steps ih =>
    rw [List.cons_append, activity_cons, activity_cons, ih, List.append_assoc]
    rfl

/-- What a connection and later steps leave of the client that has connected: a session of the
settings of its listener, with the last activity. -/
theorem activity_run_of_connect {listener : Nat} {settings : Session.Settings} {before : List Step}
    (hclient : (server.run before).1.sessions.length = client)
    (hlistener : server.listeners[listener]? = some settings) (later : List Step) :
    ∃ session,
      (server.run (before ++ .connect listener :: later)).1.sessions[client]? = some session ∧
      session.settings = settings ∧
      (activity client server.now (before ++ .connect listener :: later)
        (server.run (before ++ .connect listener :: later)).2).getLast? =
          some session.lastActivity := by
  rw [activity_append, run_append]
  have hlisteners := listeners_run server before
  generalize (server.run before).1 = reached at hclient hlisteners ⊢
  obtain ⟨hslot, hentries⟩ := Prod.mk.inj (view_connect_of_next hclient (hlisteners ▸ hlistener))
  have hrenews : Step.Renews client (reached.step (.connect listener)).2 (.connect listener) := by
    apply mem_about.mp
    rw [show about client (reached.step (.connect listener)).2.entries = _ from hentries]
    exact .tail _ (.head _)
  obtain ⟨session, hfinal, hsame, hlast⟩ := activity_run_of_present hslot later
  refine ⟨session, hfinal, hsame.trans (Session.settings_start _ _ _), ?_⟩
  rw [activity_cons, if_pos hrenews, List.getLast?_append, List.getLast?_append,
    List.getLast?_singleton, Option.or_some, Option.some_or, hlast, Session.lastActivity_start]
  rfl

end

/-! ## The server of a configuration -/

theorem now_run_serving (config : Config) (steps : List Step) :
    (config.serving.run steps).1.now = elapsed steps :=
  (now_run config.serving steps).trans (Nat.zero_add _)

theorem listener_serving {config : Config} {listener : Nat} {interface : Interface}
    (h : config.server.interfaces[listener]? = some interface) :
    config.serving.listeners[listener]? = some (config.settings interface) := by
  show (config.server.interfaces.map config.settings)[listener]? = _
  rw [List.getElem?_map, h, Option.map_some]

/-- By these steps a client has connected to an interface, and it was last active at that time. -/
structure Served (config : Config) (steps : List Step) (client : Nat) (interface : Interface)
    (last : Nat) : Prop where
  connected : ∃ before listener later, steps = before ++ .connect listener :: later ∧
    (config.serving.run before).1.sessions.length = client ∧
    config.server.interfaces[listener]? = some interface
  last : (activity client 0 steps (config.serving.run steps).2).getLast? = some last

/-- The session of a client that has connected holds how its interface serves it and when it was
last active. -/
theorem Served.eq_of_slot {config : Config} {steps : List Step} {client : Nat}
    {interface : Interface} {last : Nat} {session : Session}
    (h : Served config steps client interface last)
    (hslot : (config.serving.run steps).1.sessions[client]? = some session) :
    session.settings = config.settings interface ∧ session.lastActivity = last := by
  obtain ⟨⟨before, listener, later, rfl, hclient, hinterface⟩, hlast⟩ := h
  obtain ⟨other, hother, hsettings, hactivity⟩ :=
    activity_run_of_connect hclient (listener_serving hinterface) later
  rw [hslot] at hother
  obtain rfl := Option.some.inj hother
  exact ⟨hsettings, Option.some.inj (hactivity.symm.trans hlast)⟩

/-- A client that has a session has connected to an interface. -/
theorem exists_served {config : Config} {steps : List Step} {client : Nat} {session : Session}
    (hslot : (config.serving.run steps).1.sessions[client]? = some session) :
    ∃ interface, Served config steps client interface session.lastActivity := by
  have habsent : config.serving.sessions[client]? = none := rfl
  rcases run_of_absent habsent steps with
    ⟨hnone, -⟩ | ⟨before, listener, later, settings, _, _, rfl, hclient, hlistener, -⟩
  · rw [hslot] at hnone
    cases hnone
  · obtain ⟨other, hother, -, hactivity⟩ := activity_run_of_connect hclient hlistener later
    rw [hslot] at hother
    obtain rfl := Option.some.inj hother
    have hinterface : (config.server.interfaces.map config.settings)[listener]? = some settings :=
      hlistener
    rw [List.getElem?_map] at hinterface
    obtain ⟨interface, hinterface, -⟩ := Option.map_eq_some_iff.mp hinterface
    exact ⟨interface, ⟨before, listener, later, rfl, hclient, hinterface⟩, hactivity⟩

end Server

end IceTcp
