import IceTcp.Framing.Cut
import IceTcp.Proofs.Codec.Stability

/-!
# Cutting a stream that arrives in parts

A message is cut off a buffer by looking at its front only, so what has been decided about a buffer
stays decided when more bytes arrive behind it: a message that was cut off is cut off again, with
the new bytes behind the rest, and a malformed front stays malformed. Only waiting is provisional.
Hence a stream may be cut off in two goes, and the second one goes on with what the first one left.

Main results:

* `Framing.cut_append`: one attempt with more bytes behind the buffer.
* `Framing.cut_eq_wait_of_isPrefix`: a part of a message waits.
* `Framing.drain_flatMap_append`: messages in front are cut off one by one.
* `Framing.drain_append`: cutting everything off in two goes.
* `Framing.cut_rest_drain`: the rest waits, or starts with what is malformed.
* `Framing.forall_mem_packets_drain`: what holds of each message that is cut off.
-/

namespace IceTcp

/-! ## One message -/

/-- The same outcome with more bytes behind the buffer. -/
def Cut.extend (more : Bytes) : Cut → Cut
  | .packet found rest => .packet found (rest ++ more)
  | .wait => .wait
  | .malformed fault => .malformed fault

theorem cutFrame_append {bytes : Bytes} (h : cutFrame bytes ≠ .wait) (more : Bytes) :
    cutFrame (bytes ++ more) = (cutFrame bytes).extend more := by
  match bytes with
  | [] | [_] => exact absurd rfl h
  | high :: low :: rest =>
    simp only [List.cons_append, cutFrame] at h ⊢
    by_cases hlength : be16 high low < minimumFrameSize
    · rw [if_pos hlength, if_pos hlength]
      rfl
    · rw [if_neg hlength] at h ⊢
      rw [if_neg hlength]
      have hlong : ¬ rest.length < be16 high low := fun hshort => h (if_pos hshort)
      have hmore : ¬ (rest ++ more).length < be16 high low := by
        rw [List.length_append]
        omega
      rw [if_neg hlong, if_neg hmore, List.take_append_of_le_length (by omega),
        List.drop_append_of_le_length (by omega)]
      rfl

theorem cutProbed_append {kind : MessageKind} {probe : Probe} {fault : Fault} {bytes : Bytes}
    (h : cutProbed kind probe fault bytes ≠ .wait) (more : Bytes) :
    cutProbed kind probe fault (bytes ++ more) =
      (cutProbed kind probe fault bytes).extend more := by
  cases probe with
  | complete size =>
    simp only [cutProbed] at h ⊢
    have hlong : ¬ bytes.length < size := fun hshort => h (if_pos hshort)
    have hmore : ¬ (bytes ++ more).length < size := by
      rw [List.length_append]
      omega
    rw [if_neg hlong, if_neg hmore, List.take_append_of_le_length (by omega),
      List.drop_append_of_le_length (by omega)]
    rfl
  | notEnough => exact absurd rfl h
  | invalid => rfl

theorem ne_notEnough_of_cutProbed {kind : MessageKind} {probe : Probe} {fault : Fault}
    {bytes : Bytes} (h : cutProbed kind probe fault bytes ≠ .wait) : probe ≠ .notEnough := by
  intro hprobe
  rw [hprobe] at h
  exact h rfl

theorem not_length_le_of_cutMessage {bytes : Bytes} (h : cutMessage bytes ≠ .wait) :
    ¬ bytes.length ≤ minimumPacketHeader := fun hle => h (cutMessage_of_length_le hle)

theorem cutMessage_append {bytes : Bytes} (h : cutMessage bytes ≠ .wait) (more : Bytes) :
    cutMessage (bytes ++ more) = (cutMessage bytes).extend more := by
  have hlength := not_length_le_of_cutMessage h
  match bytes with
  | [] => exact absurd (Nat.zero_le _) hlength
  | first :: rest =>
    have hmore : ¬ (first :: (rest ++ more)).length ≤ minimumPacketHeader := by
      simp only [List.length_cons, List.length_append] at hlength ⊢
      omega
    rw [cutMessage_of_length_gt hlength] at h ⊢
    rw [List.cons_append, cutMessage_of_length_gt hmore, ← List.cons_append]
    cases hkind : MessageKind.ofByte first with
    | stun =>
      rw [hkind] at h
      simp only
      rw [Stun.readsHeader.append_of_ne_notEnough (ne_notEnough_of_cutProbed h)]
      exact cutProbed_append h more
    | channelData =>
      rw [hkind] at h
      simp only
      rw [(ChannelData.readsHeader true).append_of_ne_notEnough (ne_notEnough_of_cutProbed h)]
      exact cutProbed_append h more
    | unknown => rfl

/-- What an attempt has decided does not change when more bytes arrive. -/
theorem Framing.cut_append {framing : Framing} {bytes : Bytes} (h : framing.cut bytes ≠ .wait)
    (more : Bytes) : framing.cut (bytes ++ more) = (framing.cut bytes).extend more := by
  cases framing with
  | undecided => exact absurd rfl h
  | relay => exact cutMessage_append h more
  | direct => exact cutFrame_append h more

/-- A message that is cut off when it is there as a whole is waited for as long as it is not. -/
theorem Framing.cut_eq_wait_of_isPrefix {framing : Framing} {message front rest : Bytes}
    {packet : Packet} (hmessage : framing.cut (message ++ rest) = .packet packet rest)
    (hfront : front <+: message) (hne : front ≠ message) : framing.cut front = .wait := by
  obtain ⟨missing, rfl⟩ := hfront
  cases hcut : framing.cut front with
  | wait => rfl
  | packet found behind =>
    -- What was cut off in front would be cut off of the message too, and leave less behind it.
    have hlater := framing.cut_append (by rw [hcut]; exact Cut.noConfusion) (missing ++ rest)
    rw [← List.append_assoc, hmessage, hcut] at hlater
    have hbehind : rest = behind ++ (missing ++ rest) := (Cut.packet.inj hlater).2
    have hlength := congrArg List.length hbehind
    simp only [List.length_append] at hlength
    have hmissing : missing = [] := List.eq_nil_of_length_eq_zero (by omega)
    rw [hmissing, List.append_nil] at hne
    exact absurd rfl hne
  | malformed fault =>
    have hlater := framing.cut_append (by rw [hcut]; exact Cut.noConfusion) (missing ++ rest)
    rw [← List.append_assoc, hmessage, hcut] at hlater
    cases hlater

/-- All but the last byte of a message waits for it. -/
theorem Framing.cut_eq_wait_of_last {framing : Framing} {part : Bytes} {last : UInt8}
    {packet : Packet} (h : framing.cut (part ++ [last]) = .packet packet []) :
    framing.cut part = .wait := by
  have hmessage : framing.cut ((part ++ [last]) ++ []) = .packet packet [] := by
    rw [List.append_nil]
    exact h
  refine cut_eq_wait_of_isPrefix hmessage (List.prefix_append _ _) ?_
  intro hwhole
  have hlength := congrArg List.length hwhole
  simp only [List.length_append, List.length_singleton] at hlength
  omega

/-! ## All messages -/

@[simp] theorem Framing.drain_undecided (bytes : Bytes) :
    Framing.undecided.drain bytes = ⟨[], bytes, none⟩ := drain_of_wait rfl

/-- Where each of some messages is cut off in front of what ends with the rest, they are cut off one
by one. -/
theorem Framing.drain_flatMap_append {α : Type} {framing : Framing} {written : α → Bytes}
    {packet : α → Packet} {messages : List α} {rest : Bytes}
    (hcut : ∀ message ∈ messages, ∀ behind, rest <:+ behind →
      framing.cut (written message ++ behind) = .packet (packet message) behind) :
    framing.drain (messages.flatMap written ++ rest) =
      { framing.drain rest with
        packets := messages.map packet ++ (framing.drain rest).packets } := by
  induction messages with
  | nil => rfl
  | cons message messages ih =>
    have hrest : rest <:+ messages.flatMap written ++ rest := List.suffix_append _ _
    have hfirst := hcut message List.mem_cons_self _ hrest
    have hlater := ih fun later hmem => hcut later (List.mem_cons_of_mem _ hmem)
    rw [List.flatMap_cons, List.append_assoc, drain_of_packet hfirst, hlater]
    rfl

/-- Goes on with a drained buffer when more bytes have arrived. Behind a fault they stay where they
are. -/
def Drained.resume (framing : Framing) (drained : Drained) (more : Bytes) : Drained :=
  match drained.fault with
  | none =>
    let later := framing.drain (drained.rest ++ more)
    { later with packets := drained.packets ++ later.packets }
  | some _ => { drained with rest := drained.rest ++ more }

theorem Drained.resume_cons (framing : Framing) (drained : Drained) (packet : Packet)
    (more : Bytes) :
    Drained.resume framing { drained with packets := packet :: drained.packets } more =
      { drained.resume framing more with
        packets := packet :: (drained.resume framing more).packets } := by
  obtain ⟨packets, rest, fault⟩ := drained
  cases fault <;> rfl

/-- A buffer may be drained in two goes. -/
theorem Framing.drain_append (framing : Framing) (bytes more : Bytes) :
    framing.drain (bytes ++ more) = (framing.drain bytes).resume framing more := by
  -- As long as an attempt decides something, it decides the same on the longer buffer.
  induction bytes using Framing.drain.induct framing with
  | case1 bytes packet rest hcut ih =>
    have hmore : framing.cut (bytes ++ more) = .packet packet (rest ++ more) := by
      rw [framing.cut_append (by rw [hcut]; exact Cut.noConfusion), hcut]
      rfl
    rw [drain_of_packet hcut, drain_of_packet hmore, Drained.resume_cons, ih]
  | case2 bytes hcut =>
    rw [drain_of_wait hcut]
    rfl
  | case3 bytes fault hcut =>
    have hmore : framing.cut (bytes ++ more) = .malformed fault := by
      rw [framing.cut_append (by rw [hcut]; exact Cut.noConfusion), hcut]
      rfl
    rw [drain_of_malformed hcut, drain_of_malformed hmore]
    rfl

theorem Framing.drain_append_of_sound {framing : Framing} {bytes : Bytes}
    (h : (framing.drain bytes).fault = none) (more : Bytes) :
    framing.drain (bytes ++ more) =
      { framing.drain ((framing.drain bytes).rest ++ more) with
        packets := (framing.drain bytes).packets ++
          (framing.drain ((framing.drain bytes).rest ++ more)).packets } := by
  rw [drain_append, Drained.resume, h]

theorem Framing.drain_append_of_fault {framing : Framing} {bytes : Bytes} {fault : Fault}
    (h : (framing.drain bytes).fault = some fault) (more : Bytes) :
    framing.drain (bytes ++ more) =
      { framing.drain bytes with rest := (framing.drain bytes).rest ++ more } := by
  rw [drain_append, Drained.resume, h]
  simp only [h]

/-- What the next attempt on a rest gives. -/
def Drained.verdict (drained : Drained) : Cut :=
  match drained.fault with
  | none => .wait
  | some fault => .malformed fault

/-- The rest of a drained buffer waits, or starts with what is malformed. -/
theorem Framing.cut_rest_drain (framing : Framing) (bytes : Bytes) :
    framing.cut (framing.drain bytes).rest = (framing.drain bytes).verdict := by
  induction bytes using Framing.drain.induct framing with
  | case1 bytes packet rest hcut ih =>
    rw [drain_of_packet hcut]
    exact ih
  | case2 bytes hcut =>
    rw [drain_of_wait hcut]
    exact hcut
  | case3 bytes fault hcut =>
    rw [drain_of_malformed hcut]
    exact hcut

theorem Framing.cut_rest_of_sound {framing : Framing} {bytes : Bytes}
    (h : (framing.drain bytes).fault = none) :
    framing.cut (framing.drain bytes).rest = .wait := by
  rw [cut_rest_drain, Drained.verdict, h]

/-- What holds of whatever an attempt cuts off holds of every message of a drained buffer. -/
theorem Framing.forall_mem_packets_drain {framing : Framing} {P : Packet → Prop}
    (hcut : ∀ bytes packet rest, framing.cut bytes = .packet packet rest → P packet)
    (bytes : Bytes) : ∀ packet ∈ (framing.drain bytes).packets, P packet := by
  induction bytes using Framing.drain.induct framing with
  | case1 bytes first rest hfirst ih =>
    intro packet hmem
    rw [drain_of_packet hfirst] at hmem
    rcases List.mem_cons.mp hmem with rfl | hlater
    · exact hcut bytes packet rest hfirst
    · exact ih packet hlater
  | case2 bytes hwait =>
    intro packet hmem
    rw [drain_of_wait hwait] at hmem
    cases hmem
  | case3 bytes fault hfault =>
    intro packet hmem
    rw [drain_of_malformed hfault] at hmem
    cases hmem

end IceTcp
