import IceTcp.Message

/-!
# Reading and writing ChannelData messages

The written form of a message is its number, the length of its data in 16 bits, and the data in
full. What was written is read back as long as the length fits its field; of longer data as many
octets are read as the field still says. In the other direction nothing is lost: whatever decodes
starts with the written form of the message that it decodes to, and what follows plays no part.

Main results:

* `exists_decode_iff`: which byte strings decode.
* `decode_eq_ok_iff`: which byte strings decode to a message.
* `probe_encode_append`: how long the probe takes a written message for.
* `decode_encodeInto_append`: both directions, for all numbers and all lengths.
-/

namespace IceTcp.ChannelData

/-! ## Reading -/

/-- A ChannelData header, and behind it at least as many octets as it declares. -/
inductive Fits : Bytes → Prop
  | header {number₀ number₁ length₀ length₁ : UInt8} {rest : Bytes} (hfirst : 0x40 ≤ number₀)
      (hlast : number₀ ≤ 0x4F) (hlength : be16 length₀ length₁ ≤ rest.length) :
      Fits (number₀ :: number₁ :: length₀ :: length₁ :: rest)

/-- A message is what a header declares, and its data are what follows the header. -/
inductive DeclaredBy : Bytes → ChannelData → Prop
  | header {number₀ number₁ length₀ length₁ : UInt8} {payload behind : Bytes} {number : UInt16}
      (hnumber : number.toNat = be16 number₀ number₁)
      (hlength : payload.length = be16 length₀ length₁) :
      DeclaredBy (number₀ :: number₁ :: length₀ :: length₁ :: (payload ++ behind)) ⟨number, payload⟩

theorem declaredBy_of_decode {bytes : Bytes} {message : ChannelData}
    (h : decode bytes = .ok message) :
    DeclaredBy bytes message ∧ IsChannel message.number.toNat := by
  match bytes with
  | [] | [_] | [_, _] | [_, _, _] => cases h
  | number₀ :: number₁ :: length₀ :: length₁ :: rest =>
    rw [decode_cons] at h
    split at h
    · rename_i hchannel
      split at h
      · rename_i hfit
        obtain rfl := Except.ok.inj h
        have hnumber : (UInt16.ofNat (be16 number₀ number₁)).toNat = be16 number₀ number₁ := by
          rw [UInt16.toNat_ofNat']
          exact Nat.mod_eq_of_lt (be16_lt _ _)
        have hlength : (rest.take (be16 length₀ length₁)).length = be16 length₀ length₁ := by
          rw [List.length_take]
          omega
        constructor
        · have hdeclared : DeclaredBy (number₀ :: number₁ :: length₀ :: length₁ ::
              (rest.take (be16 length₀ length₁) ++ rest.drop (be16 length₀ length₁))) _ :=
            .header hnumber hlength
          rwa [List.take_append_drop] at hdeclared
        · simpa only [hnumber] using hchannel
      · cases h
    · cases h

/-- A byte string decodes exactly if it has a header with a channel number, and behind it as many
octets as the header declares. -/
theorem exists_decode_iff {bytes : Bytes} :
    (∃ message, decode bytes = .ok message) ↔ Fits bytes := by
  constructor
  · rintro ⟨message, h⟩
    obtain ⟨⟨hnumber, hlength⟩, hchannel⟩ := declaredBy_of_decode h
    simp only [hnumber] at hchannel
    obtain ⟨hfirst, hlast⟩ := (isChannel_be16_iff _ _).mp hchannel
    apply Fits.header hfirst hlast
    rw [List.length_append]
    omega
  · rintro ⟨hfirst, hlast, hlength⟩
    rw [decode_cons, if_pos ((isChannel_be16_iff _ _).mpr ⟨hfirst, hlast⟩), if_pos hlength]
    exact ⟨_, rfl⟩

theorem DeclaredBy.encode_isPrefix {bytes : Bytes} {message : ChannelData}
    (h : DeclaredBy bytes message) : message.payload.length < 65536 ∧ message.encode <+: bytes := by
  cases h with
  | @header number₀ number₁ length₀ length₁ payload behind number hnumber hlength =>
    constructor
    · show payload.length < 65536
      rw [hlength]
      exact be16_lt _ _
    · show toBe16 number.toNat ++ toBe16 payload.length ++ payload <+: _
      rw [hnumber, hlength, toBe16_be16, toBe16_be16]
      exact List.prefix_append _ _

/-- A byte string decodes to a message exactly if it starts with the written form of it, and the
message has a channel number and a length that its field can say. -/
theorem decode_eq_ok_iff {bytes : Bytes} {message : ChannelData} :
    decode bytes = .ok message ↔
      IsChannel message.number.toNat ∧ message.payload.length < 65536 ∧
        message.encode <+: bytes := by
  constructor
  · intro h
    obtain ⟨hdeclared, hchannel⟩ := declaredBy_of_decode h
    exact ⟨hchannel, hdeclared.encode_isPrefix⟩
  · rintro ⟨hchannel, hlength, trailer, rfl⟩
    exact decode_encode message trailer hchannel hlength

/-! ## Writing -/

theorem encodeInto_eq (buffer : Bytes) (message : ChannelData) :
    encodeInto buffer message = message.encode := rfl

/-- The probe of a written message goes by the length field, as the decoder does. -/
theorem probe_encode_append (padded : Bool) (message : ChannelData) (trailer : Bytes) :
    probe padded (message.encode ++ trailer) =
      if IsChannel message.number.toNat then
        let size := 4 + message.payload.length % 65536
        .complete (if padded then size + padding size else size)
      else .invalid := by
  rw [encode_eq]
  simp only [List.cons_append]
  rw [probe_cons, be16_toBe16 message.number.toNat_lt, be16_ofNat]

/-- Encoder and decoder are inverse to each other. What is written does not depend on what the
buffer held. With anything behind it, it decodes exactly if the number is a channel number: to the
message if the length of its data fits 16 bits, and in any case to the data that the length says
modulo `2 ^ 16`; the probe announces as many octets, with header and padding. Conversely, the
written form of what a byte string decodes to is the front of that byte string. -/
theorem decode_encodeInto_append :
    (∀ (message : ChannelData) (buffer trailer : Bytes),
      let written := encodeInto buffer message
      let size := message.payload.length % 65536
      written = encodeInto [] message ∧
        ((∃ read, decode (written ++ trailer) = .ok read) ↔ IsChannel message.number.toNat) ∧
        (IsChannel message.number.toNat →
          decode (written ++ trailer) = .ok ⟨message.number, message.payload.take size⟩ ∧
            (message.payload.length ≤ 65535 → decode (written ++ trailer) = .ok message) ∧
            probe true written = .complete ((4 + size + 3) / 4 * 4))) ∧
      ∀ (bytes : Bytes) (message : ChannelData), decode bytes = .ok message →
        message.encode = bytes.take (4 + message.payload.length) := by
  constructor
  · intro message buffer trailer written size
    have hwritten : written = message.encode := encodeInto_eq buffer message
    have hdecode := decode_encode_append message trailer
    rw [← hwritten] at hdecode
    refine ⟨rfl, ?_, ?_⟩
    · rw [hdecode]
      by_cases hnumber : IsChannel message.number.toNat
      · simp [hnumber]
      · simp [hnumber]
    · intro hnumber
      rw [if_pos hnumber] at hdecode
      refine ⟨hdecode, ?_, ?_⟩
      · intro hlength
        rw [hwritten]
        exact decode_encode message trailer hnumber (Nat.lt_succ_of_le hlength)
      · have hprobe := probe_encode_append true message []
        rw [List.append_nil, if_pos hnumber, ← hwritten] at hprobe
        simp only [if_true, add_padding] at hprobe
        rw [hprobe]
        congr 1
        omega
  · intro bytes message h
    obtain ⟨-, -, hfront⟩ := decode_eq_ok_iff.mp h
    rw [← length_encode]
    exact List.prefix_iff_eq_take.mp hfront

end IceTcp.ChannelData
