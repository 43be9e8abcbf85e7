import IceTcp.Proofs.Server.Isolation
import IceTcp.Server.Service

/-!
# The limit on unresolved bytes

A session closes when more bytes stay unresolved than its limit allows. A limit of at least the
capacity of the demultiplexer never gets in the way, whatever happens to the server; then what the
observer is told about a client does not depend on how the bytes of the client are split over sends
either. Any lower limit can be hit by a single client.

Main results:

* `resplit_of_flatten_eq`: sending the same bytes in other pieces is a resplit.
* `buffer_guard_reach`: which limits get in the way, and what holds of those that do not.
-/

namespace IceTcp

theorem Config.capacity_policy (config : Config) :
    config.policy.capacity = max 65551 (max 3 config.detection.threshold - 1) := by
  rw [Policy.capacity, policy, DetectionSettings.policy, Policy.threshold_ofThreshold,
    Nat.max_comm 3]

namespace Server

open Session (Entry Event joined live observed)

/-! ## The same bytes in other pieces -/

/-- For a client, two sequences of steps differ in nothing but how its bytes are split: it notices
the same when sends with nothing in between are joined. -/
def Resplit (listeners : List Session.Settings) (client : Nat) (steps others : List Step) : Prop :=
  joined [] (noticed listeners client 0 steps) = joined [] (noticed listeners client 0 others)

instance (listeners : List Session.Settings) (client : Nat) (steps others : List Step) :
    Decidable (Resplit listeners client steps others) :=
  inferInstanceAs (Decidable (_ = _))

theorem noticed_append (listeners : List Session.Settings) (client connected : Nat)
    (first second : List Step) :
    noticed listeners client connected (first ++ second) =
      noticed listeners client connected first ++
        noticed listeners client (first.foldl (connectedAfter listeners) connected) second := by
  induction first generalizing connected with
  | nil => rfl
  | cons step steps ih =>
    rw [List.cons_append, noticed, noticed, ih, List.append_assoc, List.foldl_cons]

theorem noticed_sends (listeners : List Session.Settings) (client connected : Nat)
    (pieces : List Bytes) (after : List Step) :
    noticed listeners client connected (pieces.map (Step.send client) ++ after) =
      pieces.map Event.send ++ noticed listeners client connected after := by
  induction pieces with
  | nil => rfl
  | cons piece pieces ih =>
    rw [List.map_cons, List.cons_append, noticed, connectedAfter, ih, event?, if_pos rfl]
    rfl

theorem joined_sends (pending : Bytes) (pieces : List Bytes) (events : List Event) :
    joined pending (pieces.map Event.send ++ events) =
      joined (pending ++ pieces.flatten) events := by
  induction pieces generalizing pending with
  | nil => rw [List.flatten_nil, List.append_nil, List.map_nil, List.nil_append]
  | cons piece pieces ih =>
    rw [List.map_cons, List.cons_append, joined, ih, List.flatten_cons, List.append_assoc]

theorem joined_append_congr {events others : List Event}
    (h : ∀ pending, joined pending events = joined pending others) (front : List Event)
    (pending : Bytes) : joined pending (front ++ events) = joined pending (front ++ others) := by
  induction front generalizing pending with
  | nil => exact h pending
  | cons event front ih =>
    cases event with
    | send bytes => exact ih (pending ++ bytes)
    | connect listener settings => simp only [List.cons_append, joined, ih]
    | finish => simp only [List.cons_append, joined, ih]
    | reset => simp only [List.cons_append, joined, ih]
    | wait duration => simp only [List.cons_append, joined, ih]

/-- Sending the same bytes in other pieces is a resplit. -/
theorem resplit_of_flatten_eq (listeners : List Session.Settings) (client : Nat)
    (before after : List Step) {pieces others : List Bytes} (h : pieces.flatten = others.flatten) :
    Resplit listeners client (before ++ (pieces.map (Step.send client) ++ after))
      (before ++ (others.map (Step.send client) ++ after)) := by
  rw [Resplit, noticed_append _ _ _ before, noticed_append _ _ _ before, noticed_sends,
    noticed_sends]
  refine joined_append_congr (fun pending => ?_) _ _
  rw [joined_sends, joined_sends, h]

/-! ## Limits that are not in the way -/

theorem ample_of_event? {listeners : List Session.Settings}
    (h : ∀ settings ∈ listeners, settings.Ample) {client connected : Nat} {step : Step}
    {event : Event} (hevent : event? listeners client connected step = some event) :
    event.Ample := by
  cases step with
  | connect listener =>
    cases hsettings : listeners[listener]? with
    | none =>
      simp only [event?, hsettings] at hevent
      cases hevent
    | some settings =>
      simp only [event?, hsettings, Option.ite_none_right_eq_some, Option.some.injEq] at hevent
      obtain ⟨-, rfl⟩ := hevent
      exact h settings (List.mem_of_getElem? hsettings)
  | send other bytes =>
    simp only [event?, Option.ite_none_right_eq_some, Option.some.injEq] at hevent
    obtain ⟨-, rfl⟩ := hevent
    trivial
  | finish other =>
    simp only [event?, Option.ite_none_right_eq_some, Option.some.injEq] at hevent
    obtain ⟨-, rfl⟩ := hevent
    trivial
  | reset other =>
    simp only [event?, Option.ite_none_right_eq_some, Option.some.injEq] at hevent
    obtain ⟨-, rfl⟩ := hevent
    trivial
  | wait duration =>
    obtain rfl := Option.some.inj hevent
    trivial

theorem ample_of_mem_noticed {listeners : List Session.Settings}
    (h : ∀ settings ∈ listeners, settings.Ample) (client connected : Nat) (steps : List Step) :
    ∀ event ∈ noticed listeners client connected steps, event.Ample := by
  induction steps generalizing connected with
  | nil => nofun
  | cons step steps ih =>
    intro event hmem
    rcases List.mem_append.mp hmem with hmem | hmem
    · exact ample_of_event? h (Option.mem_toList.mp hmem)
    · exact ih _ event hmem

theorem run_listening (listeners : List Session.Settings) (client : Nat) (steps : List Step) :
    (((listening listeners).run steps).1.sessions[client]?,
        story client ((listening listeners).run steps).2) =
      live 0 none (noticed listeners client 0 steps) :=
  run_eq_live (listening listeners) client steps

theorem withinLimit_run {listeners : List Session.Settings}
    (h : ∀ settings ∈ listeners, settings.Ample) (client : Nat) (steps : List Step) :
    Session.WithinLimit (story client ((listening listeners).run steps).2) := by
  have hstory := congrArg Prod.snd (run_listening listeners client steps)
  simp only at hstory
  rw [hstory]
  exact Session.withinLimit_live Session.cared_none (ample_of_mem_noticed h client 0 steps) 0

/-- With ample settings a resplit shows the observer the same and leaves the session open or closed
as the other does. -/
theorem observed_story_of_resplit {listeners : List Session.Settings}
    (h : ∀ settings ∈ listeners, settings.Ample) {client : Nat} {steps others : List Step}
    (hresplit : Resplit listeners client steps others) :
    observed (story client ((listening listeners).run steps).2) =
        observed (story client ((listening listeners).run others).2) ∧
      ((listening listeners).run steps).1.sessions[client]?.map Session.isOpen =
        ((listening listeners).run others).1.sessions[client]?.map Session.isOpen := by
  have hgist := Session.slotGist_live_of_joined Session.cared_none
    (ample_of_mem_noticed h client 0 steps) (ample_of_mem_noticed h client 0 others) hresplit 0
  rw [← run_listening, ← run_listening] at hgist
  obtain ⟨hslot, hobserved⟩ := Prod.mk.inj hgist
  have hopen (slot : Option Session) :
      slot.map Session.isOpen = (slot.map Session.standing).map Option.isSome := by
    rw [Option.map_map]
    exact congrArg (slot.map ·) (funext fun session => session.isSome_standing.symm)
  refine ⟨hobserved, ?_⟩
  rw [hopen, hopen, hslot]

/-! ## Limits that are -/

theorem exists_overfull_of_not_ample {listeners : List Session.Settings} {listener : Nat}
    {settings : Session.Settings} (hlistener : listeners[listener]? = some settings)
    (hpatience : 0 < settings.idleTimeout)
    (hlimit : settings.maxBufferSize < settings.policy.capacity) :
    ∃ bytes size,
      Entry.broken (.overfull size settings.maxBufferSize) ∈
          story 0 ((listening listeners).run [.connect listener, .send 0 bytes]).2 ∧
        ((listening listeners).run [.connect listener, .send 0 bytes]).1.sessions[0]?.map
          Session.isOpen = some false := by
  -- The client sends as much as can be held back; the reads stop where the limit is passed.
  obtain ⟨bytes, hsilent, hlength⟩ := Demux.exists_silent_length_eq_capacity settings.policy
  have hflatten := Bytes.flatten_chunks (show 0 < Session.readSize by decide) bytes
  have hnoticed : noticed listeners 0 0 [.connect listener, .send 0 bytes] =
      [.connect listener settings, .send bytes] := by
    simp only [noticed, event?, hlistener, if_true]
    rfl
  let session : Session := ⟨settings, .withPolicy settings.policy, 0, true⟩
  have hrun : live 0 none [.connect listener settings, .send bytes] =
      (some (session.send 0 bytes).1,
        [.accepted listener, .connected] ++ (session.send 0 bytes).2) := by
    have hconnect : Session.meet 0 none (.connect listener settings) =
        (some session, [.accepted listener, .connected]) := by
      rw [Session.meet, Session.start_of_pos hpatience]
    rw [Session.live_cons, hconnect, Session.live_cons, Session.meet_send_some]
    simp only [live, List.append_nil]
    rfl
  have hclosed : (∃ size, Entry.broken (.overfull size settings.maxBufferSize) ∈
      (session.send 0 bytes).2) ∧ (session.send 0 bytes).1.isOpen = false := by
    refine Session.receive_of_silent rfl (Demux.silent_withPolicy settings.policy) (Nat.zero_le _)
      0 ?_ ?_
    · rw [hflatten]
      exact hsilent
    · rw [hflatten, hlength]
      exact Nat.lt_of_lt_of_eq hlimit (Nat.zero_add _).symm
  obtain ⟨⟨size, hmem⟩, hopen⟩ := hclosed
  obtain ⟨hslot, hstory⟩ :=
    Prod.mk.inj (run_listening listeners 0 [.connect listener, .send 0 bytes])
  rw [hnoticed, hrun] at hslot hstory
  refine ⟨bytes, size, ?_, ?_⟩
  · rw [hstory]
    exact List.mem_append_right _ hmem
  · rw [hslot, Option.map_some, hopen]

end Server

open Server (Step story Resplit)

/-- The reach of the buffer guard. A limit that is not below the greatest number of bytes that a
demultiplexer can hold back closes no session, whatever the steps are, and what the observer is told
about a client then depends on the bytes of the client and not on how they are split over sends; the
limit that is not configured is such a one. Under any lower limit, a client that connects to a
listener with some patience can send what makes the guard close its session. -/
theorem buffer_guard_reach (config : Config) :
    let limit := config.server.maxBufferSize
    let capacity := max 65551 (max 3 config.detection.threshold - 1)
    (capacity ≤ limit → ∀ steps : List Step,
        (∀ answer ∈ (config.serving.run steps).2, ∀ client size most,
          (client, Session.Entry.broken (.overfull size most)) ∉ answer.entries) ∧
        ∀ client others, Resplit config.serving.listeners client steps others →
          Session.observed (story client (config.serving.run steps).2) =
              Session.observed (story client (config.serving.run others).2) ∧
            (config.serving.run steps).1.sessions[client]?.map Session.isOpen =
              (config.serving.run others).1.sessions[client]?.map Session.isOpen) ∧
      (limit = ServerSettings.standardMaxBufferSize → config.detection = .standard →
        capacity ≤ limit) ∧
      (limit < capacity → ∀ listener interface,
        config.server.interfaces[listener]? = some interface → 0 < interface.idleTimeout →
          ∃ bytes size,
            Session.Entry.broken (.overfull size limit) ∈
                story 0 (config.serving.run [.connect listener, .send 0 bytes]).2 ∧
              (config.serving.run [.connect listener, .send 0 bytes]).1.sessions[0]?.map
                Session.isOpen = some false) := by
  intro limit capacity
  have hcapacity : config.policy.capacity = capacity := config.capacity_policy
  refine ⟨?_, ?_, ?_⟩
  · -- All listeners serve by the same limit and the same policy, so all of them are ample.
    intro hample steps
    have hlisteners : ∀ settings ∈ config.server.interfaces.map config.settings,
        settings.Ample := by
      intro settings hmem
      obtain ⟨interface, -, rfl⟩ := List.mem_map.mp hmem
      exact Nat.le_trans (Nat.le_of_eq hcapacity) hample
    constructor
    · intro answer hanswer client size most hmem
      have hstory : Session.Entry.broken (.overfull size most) ∈
          story client (config.serving.run steps).2 :=
        List.mem_flatMap.mpr ⟨answer, hanswer, Server.mem_about.mpr hmem⟩
      exact Server.withinLimit_run hlisteners client steps size most hstory
    · intro client others hresplit
      exact Server.observed_story_of_resplit hlisteners hresplit
  · intro hlimit hdetection
    simp only [capacity, hlimit, hdetection]
    decide
  · intro hlimit listener interface hinterface hpatience
    have hlistener : (config.server.interfaces.map config.settings)[listener]? =
        some (config.settings interface) := by
      rw [List.getElem?_map, hinterface, Option.map_some]
    exact Server.exists_overfull_of_not_ample hlistener hpatience
      (Nat.lt_of_lt_of_eq hlimit hcapacity.symm)

/-- Within the standard limit, three sends show the observer what one send of their bytes shows. -/
theorem buffer_guard_reach_loopback :
    let config : Config :=
      { Config.standard with
        server := ⟨[⟨.v4 ⟨127, 0, 0, 1⟩ 0, 20⟩], ServerSettings.standardMaxBufferSize⟩ }
    max 65551 (max 3 config.detection.threshold - 1) ≤ config.server.maxBufferSize ∧
      Session.observed (story 0 (config.serving.run
          [.connect 0, .send 0 [0x40], .send 0 [0x01, 0x00], .send 0 [0x00, 0x00]]).2) =
        Session.observed (story 0 (config.serving.run
          [.connect 0, .send 0 [0x40, 0x01, 0x00, 0x00, 0x00]]).2) := by
  intro config
  have hlimit : max 65551 (max 3 config.detection.threshold - 1) ≤ config.server.maxBufferSize := by
    decide
  have hflatten : List.flatten [[0x40], [0x01, 0x00], [0x00, 0x00]] =
      List.flatten [([0x40, 0x01, 0x00, 0x00, 0x00] : Bytes)] := rfl
  have hresplit := Server.resplit_of_flatten_eq config.serving.listeners 0 [.connect 0] [] hflatten
  exact ⟨hlimit, (((buffer_guard_reach config).1 hlimit _).2 0 _ hresplit).1⟩

end IceTcp
