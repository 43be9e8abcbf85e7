import IceTcp.Proofs.Framing.Envelope

/-!
# The language of a bare stream

A bare stream is a sequence of STUN messages and padded ChannelData messages. `IsBareMessage` says
what such a message is, octet by octet, and `IsDead` says when the front of a buffer can no longer
become one; neither of them mentions how messages are cut off.

Main results:

* `cutMessage_append_of_isBareMessage`, `isBareMessage_of_cutMessage`: a message is cut off exactly
  when one is in front and more than four bytes have arrived.
* `exists_cutMessage_eq_malformed_iff`: an attempt finds a fault exactly where the front is dead.
-/

namespace IceTcp

/-- A whole message of a bare stream. -/
inductive IsBareMessage : Bytes → Prop
  /-- A STUN message: its header announces a body of whole words and holds the magic cookie. -/
  | stun {type₀ type₁ length₀ length₁ : UInt8} {rest : Bytes} (htype : type₀ ≤ 0x03)
      (hwords : be16 length₀ length₁ % 4 = 0) (hsize : rest.length = 12 + be16 length₀ length₁) :
      IsBareMessage (type₀ :: type₁ :: length₀ :: length₁ :: 0x21 :: 0x12 :: 0xA4 :: 0x42 :: rest)
  /-- A ChannelData message: the length is that of the data, which are padded to whole words. -/
  | channelData {number₀ number₁ length₀ length₁ : UInt8} {rest : Bytes} (hfirst : 0x40 ≤ number₀)
      (hlast : number₀ ≤ 0x4F) (hsize : rest.length = (be16 length₀ length₁ + 3) / 4 * 4) :
      IsBareMessage (number₀ :: number₁ :: length₀ :: length₁ :: rest)

/-- The front of a bare stream that no message can start with. -/
inductive IsDead : Bytes → Prop
  /-- The first octet is of neither kind; more than a ChannelData header has arrived. -/
  | first {first : UInt8} {rest : Bytes} (hlength : 4 ≤ rest.length) (hstun : ¬ first ≤ 0x03)
      (hchannel : ¬ (0x40 ≤ first ∧ first ≤ 0x4F)) : IsDead (first :: rest)
  /-- A STUN header has arrived, and it is not one. -/
  | header {type₀ type₁ length₀ length₁ cookie₀ cookie₁ cookie₂ cookie₃ : UInt8} {rest : Bytes}
      (hlength : 12 ≤ rest.length) (htype : type₀ ≤ 0x03)
      (hheader : [cookie₀, cookie₁, cookie₂, cookie₃] ≠ [0x21, 0x12, 0xA4, 0x42] ∨
        be16 length₀ length₁ % 4 ≠ 0) :
      IsDead (type₀ :: type₁ :: length₀ :: length₁ :: cookie₀ :: cookie₁ :: cookie₂ :: cookie₃ ::
        rest)

/-! ## Octets and fields -/

theorem not_channel_of_le_three {first : UInt8} (h : first ≤ 0x03) : ¬ 0x40 ≤ first := by
  intro hge
  have h3 : first.toNat ≤ 3 := h
  have h64 : 64 ≤ first.toNat := hge
  omega

theorem Stun.probe_cons_of_le_three {type₀ : UInt8}
    (type₁ length₀ length₁ cookie₀ cookie₁ cookie₂ cookie₃ : UInt8) {rest : Bytes}
    (h : 12 ≤ rest.length) (htype : type₀ ≤ 0x03) :
    probe (type₀ :: type₁ :: length₀ :: length₁ :: cookie₀ :: cookie₁ :: cookie₂ :: cookie₃ ::
        rest) =
      if [cookie₀, cookie₁, cookie₂, cookie₃] = [0x21, 0x12, 0xA4, 0x42] ∧
          be16 length₀ length₁ % 4 = 0 then .complete (20 + be16 length₀ length₁)
      else .invalid := by
  rw [probe_cons _ _ _ _ _ _ _ _ h, if_neg (not_channel_of_le_three htype)]
  simp only [ne_eq, cookie_eq_iff]
  by_cases hcookie : [cookie₀, cookie₁, cookie₂, cookie₃] = [0x21, 0x12, 0xA4, 0x42]
  · by_cases hwords : be16 length₀ length₁ % 4 = 0
    · rw [if_neg (not_not_intro hcookie), if_neg (not_not_intro hwords), if_pos ⟨hcookie, hwords⟩]
    · rw [if_neg (not_not_intro hcookie), if_pos hwords, if_neg (fun h => hwords h.2)]
  · rw [if_pos hcookie, if_neg (fun h => hcookie h.1)]

theorem ChannelData.probe_cons_of_channel {number₀ : UInt8} (number₁ length₀ length₁ : UInt8)
    (rest : Bytes) (hfirst : 0x40 ≤ number₀) (hlast : number₀ ≤ 0x4F) :
    probe true (number₀ :: number₁ :: length₀ :: length₁ :: rest) =
      .complete (4 + (be16 length₀ length₁ + 3) / 4 * 4) := by
  rw [probe_cons, if_pos ((isChannel_be16_iff _ _).mpr ⟨hfirst, hlast⟩), if_pos rfl, add_padding]

/-! ## What is cut off -/

theorem IsBareMessage.four_le_length {message : Bytes} (h : IsBareMessage message) :
    4 ≤ message.length := by
  cases h with
  | stun htype hwords hsize =>
    simp only [List.length_cons]
    omega
  | channelData hfirst hlast hsize =>
    simp only [List.length_cons]
    omega

theorem cutProbed_append_of_complete {kind : MessageKind} {fault : Fault} {message : Bytes}
    {size : Nat} (h : message.length = size) (rest : Bytes) :
    cutProbed kind (.complete size) fault (message ++ rest) = .packet ⟨kind, message⟩ rest := by
  have hlong : ¬ (message ++ rest).length < size := by
    rw [List.length_append]
    omega
  rw [cutProbed, if_neg hlong, ← h, List.take_left, List.drop_left]

/-- A message in front is cut off as soon as more than four bytes have arrived. -/
theorem cutMessage_append_of_isBareMessage {message : Bytes} (h : IsBareMessage message)
    {rest : Bytes} (hlength : 4 < (message ++ rest).length) :
    cutMessage (message ++ rest) = .packet (.ofPayload message) rest := by
  have hlong : ¬ (message ++ rest).length ≤ minimumPacketHeader := Nat.not_le.mpr hlength
  cases h with
  | @stun type₀ type₁ length₀ length₁ body htype hwords hsize =>
    have hbody : 12 ≤ (body ++ rest).length := by
      rw [List.length_append]
      omega
    have hkind := (MessageKind.ofByte_eq_stun_iff type₀).mpr htype
    rw [List.cons_append] at hlong ⊢
    rw [cutMessage_of_length_gt hlong, hkind]
    simp only [List.cons_append]
    rw [Stun.probe_cons_of_le_three _ _ _ _ _ _ _ hbody htype, if_pos ⟨rfl, hwords⟩]
    simp only [← List.cons_append]
    rw [cutProbed_append_of_complete, Packet.ofPayload, MessageKind.identify, hkind]
    simp only [List.length_cons]
    omega
  | @channelData number₀ number₁ length₀ length₁ body hfirst hlast hsize =>
    have hkind := (MessageKind.ofByte_eq_channelData_iff number₀).mpr ⟨hfirst, hlast⟩
    rw [List.cons_append] at hlong ⊢
    rw [cutMessage_of_length_gt hlong, hkind]
    simp only [List.cons_append]
    rw [ChannelData.probe_cons_of_channel _ _ _ _ hfirst hlast]
    simp only [← List.cons_append]
    rw [cutProbed_append_of_complete, Packet.ofPayload, MessageKind.identify, hkind]
    simp only [List.length_cons]
    omega

theorem isBareMessage_of_stunProbe {message : Bytes} (hkind : MessageKind.identify message = .stun)
    (hprobe : Stun.probe message = .complete message.length) : IsBareMessage message := by
  have hheader : 20 ≤ message.length := Stun.le_length_of_probe (by rw [hprobe]; exact nofun)
  obtain ⟨type₀, _, _, _, _, _, _, _, rest, rfl, hrest⟩ := Stun.exists_fields hheader
  have htype := (MessageKind.ofByte_eq_stun_iff type₀).mp hkind
  rw [Stun.probe_cons_of_le_three _ _ _ _ _ _ _ hrest htype] at hprobe
  split at hprobe
  · rename_i h
    obtain ⟨hcookie, hwords⟩ := h
    simp only [List.cons.injEq, and_true] at hcookie
    obtain ⟨rfl, rfl, rfl, rfl⟩ := hcookie
    refine .stun htype hwords ?_
    simp only [Probe.complete.injEq, List.length_cons] at hprobe
    omega
  · cases hprobe

theorem isBareMessage_of_channelDataProbe {message : Bytes}
    (hprobe : ChannelData.probe true message = .complete message.length) :
    IsBareMessage message := by
  match message with
  | number₀ :: number₁ :: length₀ :: length₁ :: rest =>
    rw [ChannelData.probe_cons] at hprobe
    split at hprobe
    · rename_i hchannel
      obtain ⟨hfirst, hlast⟩ := (ChannelData.isChannel_be16_iff _ _).mp hchannel
      refine .channelData hfirst hlast ?_
      simp only [if_true, ChannelData.add_padding, Probe.complete.injEq, List.length_cons] at hprobe
      omega
    · cases hprobe
  | [] | [_] | [_, _] | [_, _, _] => cases hprobe

theorem eq_ofPayload_of_cutProbed {kind : MessageKind} {probe : Probe} {fault : Fault}
    {bytes rest : Bytes} {packet : Packet} (hidentify : MessageKind.identify bytes = kind)
    (hpos : ∀ size, probe = .complete size → 0 < size)
    (h : cutProbed kind probe fault bytes = .packet packet rest) :
    MessageKind.identify packet.data = kind ∧ packet = .ofPayload packet.data := by
  obtain ⟨hbytes, hkind, hprobe⟩ := eq_of_cutProbed h
  have hne : packet.data ≠ [] := List.length_pos_iff.mp (hpos _ hprobe)
  have hdata : MessageKind.identify packet.data = kind := by
    rw [← MessageKind.identify_append hne rest, ← hbytes, hidentify]
  refine ⟨hdata, ?_⟩
  rw [Packet.ofPayload, hdata, ← hkind]

/-- What is cut off is a message, of the kind that its first octet tells. -/
theorem isBareMessage_of_cutMessage {bytes rest : Bytes} {packet : Packet}
    (h : cutMessage bytes = .packet packet rest) :
    IsBareMessage packet.data ∧ packet = .ofPayload packet.data := by
  have hlength := not_length_le_of_cutMessage (by rw [h]; exact Cut.noConfusion)
  match bytes with
  | [] => cases h
  | first :: behind =>
    rw [cutMessage_of_length_gt hlength] at h
    split at h
    · rename_i hkind
      have hstun : MessageKind.identify (first :: behind) = .stun := hkind
      have hpos (size : Nat) (hsize : Stun.probe (first :: behind) = .complete size) : 0 < size :=
        Nat.lt_of_lt_of_le (Nat.zero_lt_succ _) (Stun.size_of_probe hsize).1
      obtain ⟨hidentify, hpacket⟩ := eq_ofPayload_of_cutProbed hstun hpos h
      obtain ⟨hbytes, -, hprobe⟩ := eq_of_cutProbed h
      have hheader := (Stun.size_of_probe hprobe).1
      rw [hbytes, Stun.probe_append hheader] at hprobe
      exact ⟨isBareMessage_of_stunProbe hidentify hprobe, hpacket⟩
    · rename_i hkind
      have hchannel : MessageKind.identify (first :: behind) = .channelData := hkind
      have hpos (size : Nat) (hsize : ChannelData.probe true (first :: behind) = .complete size) :
          0 < size :=
        Nat.lt_of_lt_of_le (Nat.zero_lt_succ _) (ChannelData.size_of_probe hsize).1
      obtain ⟨-, hpacket⟩ := eq_ofPayload_of_cutProbed hchannel hpos h
      obtain ⟨hbytes, -, hprobe⟩ := eq_of_cutProbed h
      have hheader := (ChannelData.size_of_probe hprobe).1
      rw [hbytes, ChannelData.probe_append true hheader] at hprobe
      exact ⟨isBareMessage_of_channelDataProbe hprobe, hpacket⟩
    · cases h

/-! ## What is malformed -/

theorem exists_malformed_of_isDead {bytes : Bytes} (h : IsDead bytes) :
    ∃ fault, cutMessage bytes = .malformed fault := by
  cases h with
  | @first first rest hlength hstun hchannel =>
    have hlong : ¬ (first :: rest).length ≤ minimumPacketHeader := by
      simp only [List.length_cons, minimumPacketHeader]
      omega
    have hkind : MessageKind.ofByte first = .unknown := by
      rw [MessageKind.ofByte, if_neg hstun, if_neg hchannel]
    rw [cutMessage_of_length_gt hlong, hkind]
    exact ⟨.firstByte first, rfl⟩
  | @header type₀ type₁ length₀ length₁ cookie₀ cookie₁ cookie₂ cookie₃ rest hlength htype
      hheader =>
    have hlong : ¬ (type₀ :: type₁ :: length₀ :: length₁ :: cookie₀ :: cookie₁ :: cookie₂ ::
        cookie₃ :: rest).length ≤ minimumPacketHeader := by
      simp only [List.length_cons, minimumPacketHeader]
      omega
    have hinvalid : ¬ ([cookie₀, cookie₁, cookie₂, cookie₃] = [0x21, 0x12, 0xA4, 0x42] ∧
        be16 length₀ length₁ % 4 = 0) := by
      rintro ⟨hcookie, hwords⟩
      rcases hheader with hne | hne
      · exact hne hcookie
      · exact hne hwords
    rw [cutMessage_of_length_gt hlong, (MessageKind.ofByte_eq_stun_iff type₀).mpr htype]
    simp only
    rw [Stun.probe_cons_of_le_three _ _ _ _ _ _ _ hlength htype, if_neg hinvalid]
    exact ⟨.stunHeader, rfl⟩

theorem probe_eq_invalid_of_cutProbed {kind : MessageKind} {probe : Probe} {fault found : Fault}
    {bytes : Bytes} (h : cutProbed kind probe fault bytes = .malformed found) :
    probe = .invalid ∧ fault = found := by
  cases probe with
  | complete size =>
    simp only [cutProbed] at h
    split at h <;> cases h
  | notEnough => cases h
  | invalid => exact ⟨rfl, Cut.malformed.inj h⟩

theorem isDead_of_stunProbe {bytes : Bytes} (hkind : MessageKind.identify bytes = .stun)
    (hprobe : Stun.probe bytes = .invalid) : IsDead bytes := by
  have hheader : 20 ≤ bytes.length := Stun.le_length_of_probe (by rw [hprobe]; exact nofun)
  obtain ⟨type₀, _, _, _, _, _, _, _, rest, rfl, hrest⟩ := Stun.exists_fields hheader
  have htype := (MessageKind.ofByte_eq_stun_iff type₀).mp hkind
  rw [Stun.probe_cons_of_le_three _ _ _ _ _ _ _ hrest htype] at hprobe
  split at hprobe
  · cases hprobe
  · rename_i h
    exact .header hrest htype (Decidable.not_and_iff_or_not.mp h)

theorem ChannelData.probe_ne_invalid {bytes : Bytes}
    (hkind : MessageKind.identify bytes = .channelData) : probe true bytes ≠ .invalid := by
  match bytes with
  | number₀ :: number₁ :: length₀ :: length₁ :: rest =>
    obtain ⟨hfirst, hlast⟩ := (MessageKind.ofByte_eq_channelData_iff number₀).mp hkind
    rw [probe_cons_of_channel _ _ _ _ hfirst hlast]
    exact nofun
  | [] | [_] | [_, _] | [_, _, _] => exact nofun

theorem isDead_of_cutMessage {bytes : Bytes} {fault : Fault}
    (h : cutMessage bytes = .malformed fault) : IsDead bytes := by
  have hlength := not_length_le_of_cutMessage (by rw [h]; exact Cut.noConfusion)
  match bytes with
  | [] => cases h
  | first :: rest =>
    rw [cutMessage_of_length_gt hlength] at h
    split at h
    · rename_i hstun
      exact isDead_of_stunProbe hstun (probe_eq_invalid_of_cutProbed h).1
    · rename_i hchannel
      exact absurd (probe_eq_invalid_of_cutProbed h).1 (ChannelData.probe_ne_invalid hchannel)
    · rename_i hunknown
      have hstun : ¬ first ≤ 0x03 := by
        intro hle
        rw [(MessageKind.ofByte_eq_stun_iff first).mpr hle] at hunknown
        cases hunknown
      have hchannel : ¬ (0x40 ≤ first ∧ first ≤ 0x4F) := by
        intro hrange
        rw [(MessageKind.ofByte_eq_channelData_iff first).mpr hrange] at hunknown
        cases hunknown
      refine .first ?_ hstun hchannel
      simp only [List.length_cons, minimumPacketHeader] at hlength
      omega

/-- An attempt finds a fault exactly where the front is dead. -/
theorem exists_cutMessage_eq_malformed_iff {bytes : Bytes} :
    (∃ fault, cutMessage bytes = .malformed fault) ↔ IsDead bytes :=
  ⟨fun ⟨_, h⟩ => isDead_of_cutMessage h, exists_malformed_of_isDead⟩

end IceTcp
