import IceTcp.Proofs.Session.Life
import IceTcp.Server

/-!
# Clients of a server do not disturb each other

What a server does to one client is what the client's own events do, and these are few of the steps
of the server: the connection that makes the client, what the client does, and the passing of time.
Steps of other clients leave its session as it is and tell nothing about it.

Main results:

* `step_eq_live`: one step, as it is noticed by one client.
* `run_eq_live`: a sequence of steps, as it is noticed by one client.
-/

namespace IceTcp

/-! ## Events in two goes -/

/-- The time that events take. -/
def Session.span : List Session.Event → Nat
  | [] => 0
  | event :: events => event.duration + span events

theorem Session.live_append (now : Nat) (slot : Option Session)
    (first second : List Session.Event) :
    live now slot (first ++ second) =
      ((live (now + span first) (live now slot first).1 second).1,
        (live now slot first).2 ++ (live (now + span first) (live now slot first).1 second).2) := by
  induction first generalizing now slot with
  | nil => rfl
  | cons event events ih =>
    rw [List.cons_append, live_cons, live_cons, ih, span, Nat.add_assoc, List.append_assoc]

namespace Server

open Session (Entry Event live meet attend span)

/-! ## What is told about one client -/

/-- What an answer tells. -/
def Answer.entries : Answer → List (Nat × Entry)
  | .trace entries => entries
  | .notConnected | .refused => []

/-- What entries tell about one client. -/
def about (client : Nat) (entries : List (Nat × Entry)) : List Entry :=
  entries.filterMap fun (other, entry) => if other = client then some entry else none

/-- What answers tell about one client, in order. -/
def story (client : Nat) (answers : List Answer) : List Entry :=
  answers.flatMap fun answer => about client answer.entries

theorem about_append (client : Nat) (first second : List (Nat × Entry)) :
    about client (first ++ second) = about client first ++ about client second :=
  List.filterMap_append

theorem about_self (client : Nat) (entries : List Entry) :
    about client (entries.map fun entry => (client, entry)) = entries := by
  have hsome : ((fun x : Nat × Entry => if x.1 = client then some x.2 else none) ∘
      fun entry => (client, entry)) = some := funext fun _ => if_pos rfl
  rw [about, List.filterMap_map]
  exact (congrArg (List.filterMap · entries) hsome).trans List.filterMap_some

theorem about_other {client other : Nat} (h : other ≠ client) (entries : List Entry) :
    about client (entries.map fun entry => (other, entry)) = [] := by
  rw [about, List.filterMap_map, List.filterMap_eq_nil_iff]
  intro entry _
  exact if_neg h

theorem mem_about {client : Nat} {entry : Entry} {entries : List (Nat × Entry)} :
    entry ∈ about client entries ↔ (client, entry) ∈ entries := by
  rw [about, List.mem_filterMap]
  constructor
  · rintro ⟨⟨other, found⟩, hmem, hfound⟩
    simp only [Option.ite_none_right_eq_some, Option.some.injEq] at hfound
    obtain ⟨rfl, rfl⟩ := hfound
    exact hmem
  · intro hmem
    exact ⟨(client, entry), hmem, if_pos rfl⟩

theorem about_zipIdx {α : Type} (outcomes : List (α × List Entry)) (first index : Nat) :
    about (first + index) ((outcomes.zipIdx first).map fun ((_, entries), client) =>
        entries.map fun entry => (client, entry)).flatten =
      (outcomes[index]?.map Prod.snd).getD [] ∧
    ∀ client < first, about client ((outcomes.zipIdx first).map fun ((_, entries), client) =>
        entries.map fun entry => (client, entry)).flatten = [] := by
  induction outcomes generalizing first index with
  | nil => exact ⟨rfl, fun _ _ => rfl⟩
  | cons outcome outcomes ih =>
    obtain ⟨state, entries⟩ := outcome
    simp only [List.zipIdx_cons, List.map_cons, List.flatten_cons, about_append]
    constructor
    · cases index with
      | zero =>
        have hlater := (ih (first + 1) 0).2 first (Nat.lt_succ_self first)
        simp only [Nat.add_zero, about_self, hlater, List.append_nil]
        rfl
      | succ index =>
        have hlater := (ih (first + 1) index).1
        rw [Nat.add_right_comm] at hlater
        rw [about_other (by omega), List.nil_append, ← Nat.add_assoc, hlater]
        rfl
    · intro client hclient
      have hlater := (ih (first + 1) 0).2 client (Nat.lt_succ_of_lt hclient)
      rw [about_other (by omega), hlater]
      rfl

/-! ## What one client notices -/

/-- What a step is to a client, when a number of clients have connected before. -/
def event? (listeners : List Session.Settings) (client connected : Nat) : Step → Option Event
  | .connect listener =>
    match listeners[listener]? with
    | some settings => if connected = client then some (.connect listener settings) else none
    | none => none
  | .send other bytes => if other = client then some (.send bytes) else none
  | .finish other => if other = client then some .finish else none
  | .reset other => if other = client then some .reset else none
  | .wait duration => some (.wait duration)

/-- How many clients have connected after a step. -/
def connectedAfter (listeners : List Session.Settings) (connected : Nat) : Step → Nat
  | .connect listener => if listener < listeners.length then connected + 1 else connected
  | .send _ _ | .finish _ | .reset _ | .wait _ => connected

/-- What a client notices of steps, when a number of clients have connected before. -/
def noticed (listeners : List Session.Settings) (client connected : Nat) : List Step → List Event
  | [] => []
  | step :: steps =>
    (event? listeners client connected step).toList ++
      noticed listeners client (connectedAfter listeners connected step) steps

/-! ## One step -/

/-- What a server has for a client, and what an answer tells about it. -/
def view (client : Nat) (outcome : Server × Answer) : Option Session × List Entry :=
  (outcome.1.sessions[client]?, about client outcome.2.entries)

theorem view_act (server : Server) (client : Nat) (action : Session → Session × List Entry) :
    view client (server.act client action) = attend server.sessions[client]? action := by
  cases hslot : server.sessions[client]? with
  | none =>
    simp only [act, hslot, view, Answer.entries]
    rfl
  | some session =>
    have hlength : client < server.sessions.length := (List.getElem?_eq_some_iff.mp hslot).1
    cases hopen : session.isOpen with
    | false =>
      simp only [act, hslot, hopen, Bool.false_eq_true, if_false, view, Answer.entries]
      rw [Session.attend_of_closed hopen]
      rfl
    | true =>
      simp only [act, hslot, hopen, if_true, view, Answer.entries, about_self]
      rw [Session.attend_of_open hopen, List.getElem?_set_self hlength]

theorem view_act_other {client other : Nat} (h : other ≠ client) (server : Server)
    (action : Session → Session × List Entry) :
    view client (server.act other action) = (server.sessions[client]?, []) := by
  unfold act
  split
  · split
    · simp only [view, Answer.entries, about_other h, List.getElem?_set_ne h]
    · rfl
  · rfl

theorem view_connect (server : Server) (client listener : Nat) :
    view client (server.connect listener) =
      live server.now server.sessions[client]?
        (event? server.listeners client server.sessions.length (.connect listener)).toList := by
  cases hsettings : server.listeners[listener]? with
  | none =>
    simp only [connect, hsettings, view, event?]
    rfl
  | some settings =>
    simp only [connect, hsettings, view, event?, Answer.entries]
    by_cases hclient : server.sessions.length = client
    · subst hclient
      rw [if_pos rfl, about_self, List.getElem?_concat_length]
      simp only [Option.toList_some, live, meet, List.append_nil]
    · rw [if_neg hclient, about_other hclient]
      have hsessions (session : Session) :
          (server.sessions ++ [session])[client]? = server.sessions[client]? := by
        rcases Nat.lt_or_gt_of_ne hclient with hlt | hgt
        · have hlong : (server.sessions ++ [session]).length ≤ client := by
            rw [List.length_append, List.length_singleton]
            exact hlt
          rw [List.getElem?_eq_none hlong, List.getElem?_eq_none (Nat.le_of_lt hlt)]
        · exact List.getElem?_append_left hgt
      rw [hsessions]
      rfl

theorem attend_expire (slot : Option Session) (now : Nat) :
    attend slot (Session.expire now) =
      (slot.map fun session => (session.expire now).1,
        (slot.map fun session => (session.expire now).2).getD []) := by
  cases slot with
  | none => rfl
  | some session =>
    cases hopen : session.isOpen with
    | false =>
      rw [Session.attend_of_closed hopen, Option.map_some, Option.map_some,
        Session.expire_of_closed hopen]
      rfl
    | true =>
      rw [Session.attend_of_open hopen]
      rfl

theorem view_wait (server : Server) (client duration : Nat) :
    view client (server.wait duration) =
      attend server.sessions[client]? (Session.expire (server.now + duration)) := by
  have habout := (about_zipIdx
    (server.sessions.map (Session.expire (server.now + duration))) 0 client).1
  rw [Nat.zero_add] at habout
  simp only [wait, view, Answer.entries, habout, List.getElem?_map, Option.map_map, attend_expire]
  rfl

/-- One step, as a client notices it. -/
theorem step_eq_live (server : Server) (client : Nat) (step : Step) :
    view client (server.step step) =
      live server.now server.sessions[client]?
        (event? server.listeners client server.sessions.length step).toList := by
  have hact (other : Nat) (event : Event) (action : Session → Session × List Entry)
      (hevent : meet server.now server.sessions[client]? event =
        attend server.sessions[client]? action) :
      view client (server.act other action) = live server.now server.sessions[client]?
        (if other = client then some event else none).toList := by
    by_cases hother : other = client
    · rw [if_pos hother, hother, view_act, ← hevent, Option.toList_some, Session.live_cons]
      simp only [live, List.append_nil]
    · rw [if_neg hother, view_act_other hother]
      rfl
  cases step with
  | connect listener => exact view_connect server client listener
  | send other bytes => exact hact other (.send bytes) _ rfl
  | finish other => exact hact other .finish _ rfl
  | reset other => exact hact other .reset _ rfl
  | wait duration =>
    rw [Server.step, view_wait]
    simp only [event?, Option.toList_some, live, meet, List.append_nil]

/-! ## Many steps -/

theorem frame_step (server : Server) (client : Nat) (step : Step) :
    (server.step step).1.listeners = server.listeners ∧
      (server.step step).1.sessions.length =
        connectedAfter server.listeners server.sessions.length step ∧
      (server.step step).1.now = server.now +
        span (event? server.listeners client server.sessions.length step).toList := by
  have hspan (other : Nat) (event : Event) (hevent : event.duration = 0) :
      span (if other = client then some event else none).toList = 0 := by
    split
    · rw [Option.toList_some, span, span, hevent]
    · rfl
  have hact (other : Nat) (event : Event) (hevent : event.duration = 0)
      (action : Session → Session × List Entry) :
      (server.act other action).1.listeners = server.listeners ∧
        (server.act other action).1.sessions.length = server.sessions.length ∧
        (server.act other action).1.now = server.now +
          span (if other = client then some event else none).toList := by
    obtain ⟨hlisteners, hnow⟩ := listeners_act server other action
    refine ⟨hlisteners, length_sessions_act server other action, ?_⟩
    rw [hnow, hspan other event hevent, Nat.add_zero]
  cases step with
  | connect listener =>
    simp only [Server.step, connect, event?, connectedAfter]
    cases hsettings : server.listeners[listener]? with
    | none =>
      have hlength := List.getElem?_eq_none_iff.mp hsettings
      refine ⟨rfl, ?_, rfl⟩
      rw [if_neg (Nat.not_lt.mpr hlength)]
    | some settings =>
      have hlength := (List.getElem?_eq_some_iff.mp hsettings).1
      refine ⟨rfl, ?_, ?_⟩
      · rw [if_pos hlength, List.length_append, List.length_singleton]
      · simp only [hspan server.sessions.length (.connect listener settings) rfl]
        rfl
  | send other bytes => exact hact other (.send bytes) rfl _
  | finish other => exact hact other .finish rfl _
  | reset other => exact hact other .reset rfl _
  | wait duration =>
    refine ⟨rfl, ?_, ?_⟩
    · simp only [Server.step, wait, List.length_map, connectedAfter]
    · rfl

/-- A sequence of steps, as a client notices it: its session and what is told about it. -/
theorem run_eq_live (server : Server) (client : Nat) (steps : List Step) :
    ((server.run steps).1.sessions[client]?, story client (server.run steps).2) =
      live server.now server.sessions[client]?
        (noticed server.listeners client server.sessions.length steps) := by
  induction steps generalizing server with
  | nil => rfl
  | cons step steps ih =>
    obtain ⟨hsession, hentries⟩ := Prod.mk.inj (step_eq_live server client step)
    obtain ⟨hlisteners, hconnected, hnow⟩ := frame_step server client step
    have hlater := ih (server.step step).1
    rw [hsession, hlisteners, hconnected, hnow] at hlater
    obtain ⟨hfinal, hmore⟩ := Prod.mk.inj hlater
    rw [noticed, Session.live_append]
    simp only [run, story, List.flatMap_cons]
    rw [hentries, hfinal]
    exact congrArg _ (congrArg _ hmore)

end Server

end IceTcp
