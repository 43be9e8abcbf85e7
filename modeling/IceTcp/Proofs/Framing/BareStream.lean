import IceTcp.Proofs.Framing.BareMessage
import IceTcp.Proofs.Framing.Envelope

/-!
# Draining a bare stream

A bare stream splits into messages in one way only, so there is a longest sequence of messages that
it starts with. Draining cuts these off, but for one case: four bytes are not looked at yet, and a
ChannelData message without data is no longer than that. At the very end of a stream it waits for a
byte behind it.

Main results:

* `IsBareMessage.eq_of_append_eq`: at most one message starts a stream.
* `Framing.drain_flatten_append`: messages are cut off one by one.
* `Framing.drain_of_isDead`: what is cut off in front of something dead.
* `Framing.exists_isLongest`: what is cut off of a sound stream.
-/

namespace IceTcp

/-! ## Sequences of messages -/

theorem IsBareMessage.four_lt_length_append {message rest : Bytes} (h : IsBareMessage message)
    (hrest : rest ≠ []) : 4 < (message ++ rest).length := by
  have hfour := h.four_le_length
  have hpos := List.length_pos_iff.mpr hrest
  rw [List.length_append]
  omega

/-- At most one message starts a stream. -/
theorem IsBareMessage.eq_of_append_eq {first second more later : Bytes}
    (hfirst : IsBareMessage first) (hsecond : IsBareMessage second)
    (h : first ++ more = second ++ later) : first = second := by
  have hcut {message rest : Bytes} (hmessage : IsBareMessage message) :
      cutMessage (message ++ (rest ++ [0])) = .packet (.ofPayload message) (rest ++ [0]) :=
    cutMessage_append_of_isBareMessage hmessage (hmessage.four_lt_length_append (by simp))
  have hone : cutMessage (first ++ (more ++ [0])) = .packet (.ofPayload first) (more ++ [0]) :=
    hcut hfirst
  have hother :
      cutMessage (second ++ (later ++ [0])) = .packet (.ofPayload second) (later ++ [0]) :=
    hcut hsecond
  rw [← List.append_assoc, h, List.append_assoc, hother] at hone
  exact (congrArg Packet.data (Cut.packet.inj hone).1).symm

/-- The longest sequence of messages that a stream starts with. -/
structure IsLongest (stream : Bytes) (messages : List Bytes) : Prop where
  bare : ∀ message ∈ messages, IsBareMessage message
  isPrefix : messages.flatten <+: stream
  /-- Any other such sequence is the front of this one. -/
  longest : ∀ others : List Bytes, (∀ message ∈ others, IsBareMessage message) →
    others.flatten <+: stream → others <+: messages

theorem isPrefix_of_flatten_isPrefix {messages others : List Bytes} {rest : Bytes}
    (hmessages : ∀ message ∈ messages, IsBareMessage message)
    (hothers : ∀ message ∈ others, IsBareMessage message)
    (hrest : ∀ message, IsBareMessage message → ¬ message <+: rest)
    (h : others.flatten <+: messages.flatten ++ rest) : others <+: messages := by
  rw [← List.flatMap_id, ← List.flatMap_id] at h
  exact isPrefix_of_flatMap_isPrefix (fun _ _ _ _ hfirst hsecond => hfirst.eq_of_append_eq hsecond)
    hmessages hothers hrest h

/-! ## Draining -/

/-- Messages are cut off one by one when something follows the last of them. -/
theorem Framing.drain_flatten_append {messages : List Bytes} {rest : Bytes}
    (h : ∀ message ∈ messages, IsBareMessage message) (hrest : rest ≠ []) :
    Framing.relay.drain (messages.flatten ++ rest) =
      { Framing.relay.drain rest with
        packets := messages.map .ofPayload ++ (Framing.relay.drain rest).packets } := by
  have hcut : ∀ message ∈ messages, ∀ behind, rest <:+ behind →
      Framing.relay.cut (id message ++ behind) = .packet (.ofPayload message) behind := by
    intro message hmem behind hbehind
    have hbare := h message hmem
    exact cutMessage_append_of_isBareMessage hbare
      (hbare.four_lt_length_append (hbehind.ne_nil hrest))
  rw [← List.flatMap_id]
  exact drain_flatMap_append hcut

/-- In front of something dead all messages are cut off, and it stays. -/
theorem Framing.drain_of_isDead {messages : List Bytes} {rest : Bytes}
    (h : ∀ message ∈ messages, IsBareMessage message) (hdead : IsDead rest) :
    ∃ fault, Framing.relay.drain (messages.flatten ++ rest) =
      ⟨messages.map .ofPayload, rest, some fault⟩ := by
  obtain ⟨fault, hfault⟩ := exists_malformed_of_isDead hdead
  have hcut : Framing.relay.cut rest = .malformed fault := hfault
  have hrest : rest ≠ [] := by
    rintro rfl
    cases hdead
  refine ⟨fault, ?_⟩
  rw [drain_flatten_append h hrest, drain_of_malformed hcut, List.append_nil]

theorem Framing.isBareMessage_of_mem_drain {bytes : Bytes} {packet : Packet}
    (h : packet ∈ (Framing.relay.drain bytes).packets) :
    IsBareMessage packet.data ∧ packet = .ofPayload packet.data := by
  refine forall_mem_packets_drain
    (P := fun packet => IsBareMessage packet.data ∧ packet = .ofPayload packet.data)
    ?_ bytes packet h
  intro bytes packet rest hcut
  exact isBareMessage_of_cutMessage hcut

theorem Framing.exists_messages_drain (bytes : Bytes) :
    ∃ messages : List Bytes, (∀ message ∈ messages, IsBareMessage message) ∧
      (Framing.relay.drain bytes).packets = messages.map .ofPayload ∧
      messages.flatten ++ (Framing.relay.drain bytes).rest = bytes := by
  refine ⟨(Framing.relay.drain bytes).packets.map Packet.data, ?_, ?_, ?_⟩
  · intro message hmem
    obtain ⟨packet, hpacket, rfl⟩ := List.mem_map.mp hmem
    exact (isBareMessage_of_mem_drain hpacket).1
  · rw [List.map_map]
    refine (List.map_id _).symm.trans (List.map_congr_left ?_)
    intro packet hpacket
    exact (isBareMessage_of_mem_drain hpacket).2
  · rw [← List.flatMap_def]
    exact envelopes_append_rest Framing.relay bytes

theorem Framing.exists_messages_of_fault {bytes : Bytes} {fault : Fault}
    (h : (Framing.relay.drain bytes).fault = some fault) :
    ∃ messages : List Bytes, (∀ message ∈ messages, IsBareMessage message) ∧
      (Framing.relay.drain bytes).packets = messages.map .ofPayload ∧
      messages.flatten ++ (Framing.relay.drain bytes).rest = bytes ∧
      IsDead (Framing.relay.drain bytes).rest := by
  obtain ⟨messages, hbare, hpackets, hbytes⟩ := exists_messages_drain bytes
  have hcut := cut_rest_drain .relay bytes
  rw [Drained.verdict, h] at hcut
  exact ⟨messages, hbare, hpackets, hbytes, isDead_of_cutMessage hcut⟩

/-- The messages of a longest sequence that are cut off. A message of four bytes, which is
ChannelData without data, is not while nothing follows it. -/
def cutOff (stream : Bytes) (messages : List Bytes) : List Bytes :=
  if messages.flatten = stream ∧ messages.getLast?.map List.length = some 4 then messages.dropLast
  else messages

theorem cutOff_concat_of_length_eq {messages : List Bytes} {last : Bytes} (h : last.length = 4) :
    cutOff (messages.flatten ++ last) (messages ++ [last]) = messages := by
  have hflatten : (messages ++ [last]).flatten = messages.flatten ++ last := by
    rw [List.flatten_append, List.flatten_singleton]
  have hlast : (messages ++ [last]).getLast?.map List.length = some 4 := by
    rw [List.getLast?_concat, Option.map_some, h]
  rw [cutOff, if_pos ⟨hflatten, hlast⟩, List.dropLast_concat]

/-- A last message of four bytes is not cut off. -/
theorem Framing.packets_drain_of_length_eq {messages : List Bytes} {last : Bytes}
    (h : ∀ message ∈ messages, IsBareMessage message) (hlast : last.length = 4) :
    (Framing.relay.drain (messages.flatten ++ last)).packets = messages.map .ofPayload := by
  have hne : last ≠ [] := by
    rintro rfl
    cases hlast
  have hwait : Framing.relay.cut last = .wait := cutMessage_of_length_le (Nat.le_of_eq hlast)
  rw [drain_flatten_append h hne, drain_of_wait hwait, List.append_nil]

theorem not_isPrefix_of_wait {rest : Bytes} (hwait : cutMessage rest = .wait)
    (hrest : ¬ IsBareMessage rest) (message : Bytes) (h : IsBareMessage message) :
    ¬ message <+: rest := by
  rintro ⟨behind, rfl⟩
  have hbehind : behind ≠ [] := by
    rintro rfl
    rw [List.append_nil] at hrest
    exact hrest h
  rw [cutMessage_append_of_isBareMessage h (h.four_lt_length_append hbehind)] at hwait
  cases hwait

theorem IsBareMessage.length_eq_of_wait {message : Bytes} (h : IsBareMessage message)
    (hwait : cutMessage message = .wait) : message.length = 4 := by
  refine Nat.le_antisymm (Nat.not_lt.mp ?_) h.four_le_length
  intro hlong
  have hlength : 4 < (message ++ []).length := by rwa [List.append_nil]
  have hcut := cutMessage_append_of_isBareMessage h hlength
  rw [List.append_nil, hwait] at hcut
  cases hcut

/-- What is cut off of a sound stream: the longest sequence of messages that it starts with, save
for a last one that waits for a byte behind it. -/
theorem Framing.exists_isLongest {bytes : Bytes}
    (hsound : (Framing.relay.drain bytes).fault = none) :
    ∃ messages, IsLongest bytes messages ∧
      (Framing.relay.drain bytes).packets = (cutOff bytes messages).map .ofPayload ∧
      (cutOff bytes messages).flatten ++ (Framing.relay.drain bytes).rest = bytes := by
  obtain ⟨messages, hbare, hpackets, hbytes⟩ := exists_messages_drain bytes
  have hwait : cutMessage (Framing.relay.drain bytes).rest = .wait := cut_rest_of_sound hsound
  generalize hdrain : (Framing.relay.drain bytes).rest = rest at hbytes hwait
  by_cases hrest : IsBareMessage rest
  -- The rest is a message itself, which is too short to be looked at.
  · have hlength := hrest.length_eq_of_wait hwait
    have hall : ∀ message ∈ messages ++ [rest], IsBareMessage message := by
      intro message hmem
      rcases List.mem_append.mp hmem with hmem | hmem
      · exact hbare message hmem
      · rwa [List.mem_singleton.mp hmem]
    have hflatten : (messages ++ [rest]).flatten = bytes := by
      rw [List.flatten_append, List.flatten_singleton, hbytes]
    have hcutOff : cutOff bytes (messages ++ [rest]) = messages := by
      rw [← hbytes, cutOff_concat_of_length_eq hlength]
    refine ⟨messages ++ [rest], ⟨hall, ?_, ?_⟩, ?_, ?_⟩
    · exact ⟨[], by rw [List.append_nil, hflatten]⟩
    · intro others hothers hprefix
      have hnil (message : Bytes) (hmessage : IsBareMessage message) : ¬ message <+: [] := by
        intro hprefix
        have hfour := hmessage.four_le_length
        rw [List.prefix_nil.mp hprefix] at hfour
        cases hfour
      refine isPrefix_of_flatten_isPrefix hall hothers hnil ?_
      rwa [List.append_nil, hflatten]
    · rw [hcutOff, hpackets]
    · rw [hcutOff, hbytes]
  · have hcutOff : cutOff bytes messages = messages := by
      rw [cutOff, if_neg]
      rintro ⟨hflatten, hlast⟩
      -- Were the last message four bytes long and at the end, it would not have been cut off.
      obtain ⟨last, hmem, hlength⟩ := Option.map_eq_some_iff.mp hlast
      obtain ⟨front, rfl⟩ := List.getLast?_eq_some_iff.mp hmem
      have hfront : ∀ message ∈ front, IsBareMessage message := fun message hm =>
        hbare message (List.mem_append_left _ hm)
      have hshort := packets_drain_of_length_eq hfront hlength
      rw [List.flatten_append, List.flatten_singleton] at hflatten
      rw [hflatten, hpackets] at hshort
      have hcount := congrArg List.length hshort
      simp only [List.length_map, List.length_append, List.length_singleton] at hcount
      omega
    refine ⟨messages, ⟨hbare, ⟨rest, hbytes⟩, ?_⟩, ?_, ?_⟩
    · intro others hothers hprefix
      refine isPrefix_of_flatten_isPrefix hbare hothers (not_isPrefix_of_wait hwait hrest) ?_
      rwa [hbytes]
    · rw [hcutOff, hpackets]
    · rw [hcutOff, hbytes]

end IceTcp
