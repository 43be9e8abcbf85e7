import IceTcp.Bytes

/-!
# Messages and packets

Streams of ICE traffic carry STUN messages and ChannelData messages. A stream reader probes the
front of its buffer for the header of one, tells its kind by the first octet, and cuts the message
out as a packet.

The definitions are models of `Probe`, `PacketType`, `Message`, `ChannelData` and `Packet` of the
source, with their operations `probe`, `identify`, `encode`, `decode`, `alignment_32` and
`channel_number`.

Main results:

* `Stun.probe_of_length_lt`, `Stun.length_lt_of_probe_eq_notEnough`: the probe of a STUN header
  waits exactly for the header.
* `Stun.exists_fields`, `Stun.probe_cons`: the fields that a whole header is judged by.
* `Stun.probe_append`: what follows a whole header plays no part.
* `Stun.size_of_probe`: what an accepted header announces is a multiple of 4, from 20 on.
* `ChannelData.isPadded_add_padding`, `ChannelData.padding_lt`: the padding is the least that
  reaches a multiple of 4.
* `ChannelData.probe_of_length_lt`, `ChannelData.length_lt_of_probe_eq_notEnough`,
  `ChannelData.probe_cons`, `ChannelData.probe_append`: the same for the probe of a ChannelData
  header.
* `ChannelData.decode_encode_append`: what the decoder makes of any written form, whatever follows
  it.
* `ChannelData.decode_encode`: a message with a valid number and at most 65535 octets of data
  decodes from its written form.
* `MessageKind.identify_eq_channelData_iff`, `MessageKind.identify_append`: the kind of a message
  depends on its first octet.
-/

namespace IceTcp

/-! ## Outcome of a header probe

A probe looks at the front of a buffer and answers what a stream reader has to know: how long the
message there is, that its header has not arrived yet, or that the header is malformed. Waiting
and rejecting are different answers.
-/

/-- Model of `Probe`: what a probe of the front of a buffer found. -/
inductive Probe where
  /-- A well-formed header; the whole message occupies `size` bytes, header included. -/
  | complete (size : Nat)
  /-- The buffer ends before the header does. -/
  | notEnough
  /-- The header is there and malformed. -/
  | invalid
  deriving DecidableEq, Repr

/-! ## STUN headers

A STUN message (RFC 8489) is a header of 20 octets and a body of attributes. The header has two
octets of type, whose two most significant bits are zero; two octets that give the length of the
body, a multiple of 4; four octets that hold the magic cookie; twelve octets of transaction
identifier.
-/

namespace Stun

/-- The size of a STUN header. -/
def headerSize : Nat := 20

/-- The number that every STUN header holds in its octets 4 to 7. -/
def magicCookie : Nat := 0x2112A442

/-- Model of `probe` for a STUN `Message`: looks at the header at the front of the buffer; the body
need not have arrived. The magic cookie is compared as one number of 32 bits. -/
def probe (bytes : Bytes) : Probe :=
  if bytes.length < headerSize then .notEnough
  else
    match bytes with
    | type₀ :: _ :: length₀ :: length₁ :: cookie₀ :: cookie₁ :: cookie₂ :: cookie₃ :: _ =>
      if 0x40 ≤ type₀ then .invalid
      else if be16 cookie₀ cookie₁ * 65536 + be16 cookie₂ cookie₃ ≠ magicCookie then .invalid
      else if be16 length₀ length₁ % 4 ≠ 0 then .invalid
      else .complete (headerSize + be16 length₀ length₁)
    | _ => .notEnough

theorem probe_of_length_lt {bytes : Bytes} (h : bytes.length < 20) : probe bytes = .notEnough := by
  simp [probe, headerSize, h]

theorem le_length_of_probe {bytes : Bytes} (h : probe bytes ≠ .notEnough) : 20 ≤ bytes.length := by
  rcases Nat.lt_or_ge bytes.length 20 with hlt | hge
  · exact absurd (probe_of_length_lt hlt) h
  · exact hge

/-- A buffer that holds a whole header, field by field. -/
theorem exists_fields {bytes : Bytes} (h : 20 ≤ bytes.length) :
    ∃ type₀ type₁ length₀ length₁ cookie₀ cookie₁ cookie₂ cookie₃ rest,
      bytes = type₀ :: type₁ :: length₀ :: length₁ :: cookie₀ :: cookie₁ :: cookie₂ :: cookie₃ ::
        rest ∧ 12 ≤ rest.length := by
  match bytes with
  | type₀ :: type₁ :: length₀ :: length₁ :: cookie₀ :: cookie₁ :: cookie₂ :: cookie₃ :: rest =>
    refine ⟨_, _, _, _, _, _, _, _, rest, rfl, ?_⟩
    simp only [List.length_cons] at h
    omega
  | [] | [_] | [_, _] | [_, _, _] | [_, _, _, _] | [_, _, _, _, _] | [_, _, _, _, _, _]
  | [_, _, _, _, _, _, _] => simp at h

/-- The probe of a whole header, field by field. -/
theorem probe_cons (type₀ type₁ length₀ length₁ cookie₀ cookie₁ cookie₂ cookie₃ : UInt8)
    {rest : Bytes} (h : 12 ≤ rest.length) :
    probe (type₀ :: type₁ :: length₀ :: length₁ :: cookie₀ :: cookie₁ :: cookie₂ :: cookie₃ ::
        rest) =
      if 0x40 ≤ type₀ then .invalid
      else if be16 cookie₀ cookie₁ * 65536 + be16 cookie₂ cookie₃ ≠ magicCookie then .invalid
      else if be16 length₀ length₁ % 4 ≠ 0 then .invalid
      else .complete (20 + be16 length₀ length₁) := by
  unfold probe headerSize
  rw [if_neg]
  simp only [List.length_cons]
  omega

/-- What follows a whole header plays no part. -/
theorem probe_append {bytes : Bytes} (h : 20 ≤ bytes.length) (more : Bytes) :
    probe (bytes ++ more) = probe bytes := by
  obtain ⟨_, _, _, _, _, _, _, _, rest, rfl, hrest⟩ := exists_fields h
  simp only [List.cons_append]
  rw [probe_cons _ _ _ _ _ _ _ _ hrest, probe_cons]
  rw [List.length_append]
  omega

/-- A header that has arrived is never waited for. -/
theorem length_lt_of_probe_eq_notEnough {bytes : Bytes} (h : probe bytes = .notEnough) :
    bytes.length < 20 := by
  refine Nat.lt_of_not_le fun hheader => ?_
  obtain ⟨_, _, _, _, _, _, _, _, rest, rfl, hrest⟩ := exists_fields hheader
  rw [probe_cons _ _ _ _ _ _ _ _ hrest] at h
  split at h
  · cases h
  · split at h
    · cases h
    · split at h <;> cases h

theorem cookie_eq_iff (cookie₀ cookie₁ cookie₂ cookie₃ : UInt8) :
    be16 cookie₀ cookie₁ * 65536 + be16 cookie₂ cookie₃ = magicCookie ↔
      [cookie₀, cookie₁, cookie₂, cookie₃] = [0x21, 0x12, 0xA4, 0x42] := by
  have h₁ := cookie₁.toNat_lt
  have h₂ := cookie₂.toNat_lt
  have h₃ := cookie₃.toNat_lt
  simp only [List.cons.injEq, and_true, ← UInt8.toNat_inj, be16, magicCookie, UInt8.reduceToNat]
  omega

/-- A message that the probe accepts has at least its header and at most the longest body. -/
theorem size_of_probe {bytes : Bytes} {size : Nat} (h : probe bytes = .complete size) :
    20 ≤ size ∧ size < 20 + 65536 ∧ size % 4 = 0 := by
  unfold probe at h
  split at h
  · cases h
  · split at h
    · rename_i length₀ length₁ _ _ _ _ _ _
      have hlt := be16_lt length₀ length₁
      split at h
      · cases h
      · split at h
        · cases h
        · split at h
          · cases h
          · simp only [Probe.complete.injEq, headerSize] at h
            omega
    · cases h

end Stun

/-! ## ChannelData messages

A ChannelData message (RFC 8656) carries application data over a TURN channel. It has two octets of
channel number, from `0x4000` to `0x4FFF`; two octets that give the length of the data; the data. On
a stream the message is padded to a multiple of 4 octets, and the length field does not count the
padding.
-/

/-- A message on a TURN channel. -/
structure ChannelData where
  /-- The channel. -/
  number : UInt16
  /-- The application data. -/
  payload : Bytes
  deriving DecidableEq, Repr

namespace ChannelData

/-- The size of a ChannelData header. -/
def headerSize : Nat := 4

/-- Channel numbers lie between `0x4000` and `0x4FFF`. -/
def IsChannel (number : Nat) : Prop := 0x4000 ≤ number ∧ number ≤ 0x4FFF

instance (number : Nat) : Decidable (IsChannel number) :=
  inferInstanceAs (Decidable (_ ∧ _))

/-- The first octet of a number tells whether it is a channel number. -/
theorem isChannel_be16_iff (number₀ number₁ : UInt8) :
    IsChannel (be16 number₀ number₁) ↔ 0x40 ≤ number₀ ∧ number₀ ≤ 0x4F := by
  have hlow := number₁.toNat_lt
  have hfirst : 0x40 ≤ number₀ ↔ 64 ≤ number₀.toNat := Iff.rfl
  have hlast : number₀ ≤ 0x4F ↔ number₀.toNat ≤ 79 := Iff.rfl
  rw [hfirst, hlast, IsChannel, be16]
  omega

/-! ### Padding -/

/-- Model of `alignment_32`: the number of octets that pad a message of this size to a multiple of
4. -/
def padding (size : Nat) : Nat := if size % 4 = 0 then 0 else 4 - size % 4

theorem isPadded_add_padding (size : Nat) : (size + padding size) % 4 = 0 := by
  unfold padding
  split <;> omega

theorem padding_lt (size : Nat) : padding size < 4 := by
  unfold padding
  split <;> omega

theorem add_padding (length : Nat) :
    4 + length + padding (4 + length) = 4 + (length + 3) / 4 * 4 := by
  unfold padding
  split <;> omega

/-! ### Probe -/

/-- Model of `probe` for `ChannelData`: looks at the header at the front of the buffer; `padded`
(there `is_tcp`) says whether the message lies on a stream, where its padding belongs to it. -/
def probe (padded : Bool) : Bytes → Probe
  | number₀ :: number₁ :: length₀ :: length₁ :: _ =>
    if IsChannel (be16 number₀ number₁) then
      let size := headerSize + be16 length₀ length₁
      .complete (if padded then size + padding size else size)
    else .invalid
  | _ => .notEnough

theorem probe_cons (padded : Bool) (number₀ number₁ length₀ length₁ : UInt8) (rest : Bytes) :
    probe padded (number₀ :: number₁ :: length₀ :: length₁ :: rest) =
      if IsChannel (be16 number₀ number₁) then
        .complete (if padded then
          4 + be16 length₀ length₁ + padding (4 + be16 length₀ length₁)
          else 4 + be16 length₀ length₁)
      else .invalid := rfl

theorem probe_of_length_lt (padded : Bool) {bytes : Bytes} (h : bytes.length < 4) :
    probe padded bytes = .notEnough := by
  unfold probe
  split
  · simp only [List.length_cons] at h
    omega
  · rfl

/-- A header that has arrived is never waited for. -/
theorem length_lt_of_probe_eq_notEnough {padded : Bool} {bytes : Bytes}
    (h : probe padded bytes = .notEnough) : bytes.length < 4 := by
  match bytes with
  | [] | [_] | [_, _] | [_, _, _] =>
    simp only [List.length_cons, List.length_nil]
    omega
  | number₀ :: number₁ :: length₀ :: length₁ :: rest =>
    rw [probe_cons] at h
    split at h <;> cases h

/-- What follows a whole header plays no part. -/
theorem probe_append (padded : Bool) {bytes : Bytes} (h : 4 ≤ bytes.length) (more : Bytes) :
    probe padded (bytes ++ more) = probe padded bytes := by
  match bytes with
  | _ :: _ :: _ :: _ :: _ => rfl
  | [] | [_] | [_, _] | [_, _, _] => simp at h

/-- A message that the probe accepts has at least its header and at most the longest data. -/
theorem size_of_probe {padded : Bool} {bytes : Bytes} {size : Nat}
    (h : probe padded bytes = .complete size) : 4 ≤ size ∧ size ≤ 65540 := by
  unfold probe at h
  split at h
  · rename_i length₀ length₁ _
    have hlt := be16_lt length₀ length₁
    split at h
    · simp only [Probe.complete.injEq, headerSize] at h
      have hpad := isPadded_add_padding (4 + be16 length₀ length₁)
      have hpadlt := padding_lt (4 + be16 length₀ length₁)
      split at h <;> omega
    · cases h
  · cases h

/-! ### Reading and writing -/

/-- Why bytes are not a ChannelData message. -/
inductive DecodeError where
  /-- The header is incomplete or malformed, or the data are. -/
  | invalidInput
  /-- A field did not consist of as many octets as it has to. -/
  | fieldSize
  deriving DecidableEq, Repr

/-- The text that reports the error. -/
def DecodeError.message : DecodeError → String
  | .invalidInput => "InvalidInput"
  | .fieldSize => "TryFromSliceError(TryFromSliceError(()))"

/-- The 16-bit field at an offset. -/
def field (bytes : Bytes) (offset : Nat) : Except DecodeError Nat :=
  match Bytes.be16? ((bytes.drop offset).take 2) with
  | some n => .ok n
  | none => .error .fieldSize

/-- Model of `decode`: reads a message and ignores what follows it. -/
def decode (bytes : Bytes) : Except DecodeError ChannelData :=
  if bytes.length < headerSize then .error .invalidInput
  else do
    let number ← field bytes 0
    if ¬ IsChannel number then .error .invalidInput
    else
      let length ← field bytes 2
      if length > bytes.length - headerSize then .error .invalidInput
      else .ok ⟨UInt16.ofNat number, (bytes.drop headerSize).take length⟩

/-- The written form of a message, without padding. Data of 65536 octets and more are written in
full behind a length field that has lost its high bits. -/
def encode (message : ChannelData) : Bytes :=
  toBe16 message.number.toNat ++ toBe16 message.payload.length ++ message.payload

/-- Model of `encode`: writes a message into a buffer, in place of what the buffer held. -/
def encodeInto (buffer : Bytes) (message : ChannelData) : Bytes :=
  buffer.take 0 ++ message.encode

theorem length_encode (message : ChannelData) :
    message.encode.length = 4 + message.payload.length := by
  simp only [encode, List.length_append, length_toBe16]

theorem encode_eq (message : ChannelData) :
    message.encode =
      UInt8.ofNat (message.number.toNat / 256) :: UInt8.ofNat message.number.toNat ::
      UInt8.ofNat (message.payload.length / 256) :: UInt8.ofNat message.payload.length ::
      message.payload := rfl

theorem decode_cons (number₀ number₁ length₀ length₁ : UInt8) (rest : Bytes) :
    decode (number₀ :: number₁ :: length₀ :: length₁ :: rest) =
      if IsChannel (be16 number₀ number₁) then
        if be16 length₀ length₁ ≤ rest.length then
          .ok ⟨UInt16.ofNat (be16 number₀ number₁), rest.take (be16 length₀ length₁)⟩
        else .error .invalidInput
      else .error .invalidInput := by
  have hlen : ¬ (number₀ :: number₁ :: length₀ :: length₁ :: rest).length < headerSize := by
    simp only [List.length_cons, headerSize]
    omega
  have hfit : (number₀ :: number₁ :: length₀ :: length₁ :: rest).length - headerSize =
      rest.length := by
    simp only [List.length_cons, headerSize]
    omega
  unfold decode
  rw [if_neg hlen, hfit]
  simp only [field, Bytes.be16?, List.drop_zero, List.drop_succ_cons, List.take_succ_cons,
    List.take_zero, bind, Except.bind, headerSize]
  by_cases hchannel : IsChannel (be16 number₀ number₁)
  · by_cases hle : be16 length₀ length₁ ≤ rest.length
    · simp [hchannel, hle, Nat.not_lt.mpr hle]
    · simp [hchannel, hle, Nat.lt_of_not_le hle]
  · simp [hchannel]

/-- What the decoder makes of the written form of a message: its length field says the length of the
data up to multiples of 65536, and so many of the data are read. -/
theorem decode_encode_append (message : ChannelData) (trailer : Bytes) :
    decode (message.encode ++ trailer) =
      if IsChannel message.number.toNat then
        .ok ⟨message.number, message.payload.take (message.payload.length % 65536)⟩
      else .error .invalidInput := by
  have hnumber := be16_toBe16 message.number.toNat_lt
  have hsize : message.payload.length % 65536 ≤ message.payload.length := Nat.mod_le _ _
  have hfit : message.payload.length % 65536 ≤ (message.payload ++ trailer).length := by
    rw [List.length_append]
    omega
  rw [encode_eq]
  simp only [List.cons_append]
  rw [decode_cons, hnumber, be16_ofNat, if_pos hfit, List.take_append_of_le_length hsize,
    UInt16.ofNat_toNat]

/-- A message with a valid number and a length that fits its field decodes from its written form,
whatever follows. -/
theorem decode_encode (message : ChannelData) (trailer : Bytes)
    (hnumber : IsChannel message.number.toNat) (hlength : message.payload.length < 65536) :
    decode (message.encode ++ trailer) = .ok message := by
  rw [decode_encode_append, if_pos hnumber, Nat.mod_eq_of_lt hlength, List.take_length]

end ChannelData

/-! ## Kinds of messages

Messages of several protocols share a stream; the first octet tells them apart. STUN messages
start with an octet up to `0x03`, TURN ChannelData messages with one in `0x40 … 0x4F`.
-/

/-- Model of `PacketType`: the protocol of a message, as far as its first octet tells. -/
inductive MessageKind where
  | stun
  | channelData
  | unknown
  deriving DecidableEq, Repr

namespace MessageKind

/-- The kind of a message that starts with this octet. -/
def ofByte (first : UInt8) : MessageKind :=
  if first ≤ 0x03 then .stun
  else if 0x40 ≤ first ∧ first ≤ 0x4F then .channelData
  else .unknown

/-- Model of `identify`: the kind of the message at the front of a buffer; an empty buffer has
none. -/
def identify : Bytes → MessageKind
  | [] => .unknown
  | first :: _ => ofByte first

/-- The name of a kind in log lines. -/
def name : MessageKind → String
  | .stun => "STUN"
  | .channelData => "TURN_CHANNEL_DATA"
  | .unknown => "UNKNOWN"

theorem ofByte_eq_stun_iff (first : UInt8) : ofByte first = .stun ↔ first ≤ 0x03 := by
  unfold ofByte
  split
  · simp_all
  · split <;> simp_all

theorem ofByte_eq_channelData_iff (first : UInt8) :
    ofByte first = .channelData ↔ 0x40 ≤ first ∧ first ≤ 0x4F := by
  unfold ofByte
  split
  · rename_i h
    have h3 : first.toNat ≤ 3 := h
    refine ⟨fun e => by simp at e, fun ⟨h40, _⟩ => ?_⟩
    have : 64 ≤ first.toNat := h40
    omega
  · split <;> simp_all

theorem identify_eq_channelData_iff (bytes : Bytes) :
    identify bytes = .channelData ↔
      ∃ first rest, bytes = first :: rest ∧ 0x40 ≤ first ∧ first ≤ 0x4F := by
  cases bytes with
  | nil => simp [identify]
  | cons first rest => simp [identify, ofByte_eq_channelData_iff]

/-- Bytes that follow a nonempty buffer do not change its kind. -/
theorem identify_append {bytes : Bytes} (h : bytes ≠ []) (more : Bytes) :
    identify (bytes ++ more) = identify bytes := by
  cases bytes with
  | nil => exact absurd rfl h
  | cons first rest => rfl

end MessageKind

/-! ## Packets

A packet is one message cut out of a stream, with its kind. Where the stream frames its messages
the frame header is stripped; a bare STUN or ChannelData message stays whole, padding included.
-/

/-- A message cut out of a stream. -/
structure Packet where
  kind : MessageKind
  data : Bytes
  deriving DecidableEq, Repr

namespace Packet

/-- The packet that a frame's payload makes, of the kind that its first octet tells. -/
def ofPayload (payload : Bytes) : Packet := ⟨MessageKind.identify payload, payload⟩

/-- Model of `channel_number`: the channel of a ChannelData packet that decodes. -/
def channelNumber (packet : Packet) : Option UInt16 :=
  match packet.kind with
  | .channelData => (ChannelData.decode packet.data).toOption.map ChannelData.number
  | .stun | .unknown => none

theorem channelNumber_of_kind_ne {packet : Packet} (h : packet.kind ≠ .channelData) :
    packet.channelNumber = none := by
  unfold channelNumber
  split
  · contradiction
  · rfl
  · rfl

theorem channelNumber_of_decode {packet : Packet} {message : ChannelData}
    (hkind : packet.kind = .channelData) (h : ChannelData.decode packet.data = .ok message) :
    packet.channelNumber = some message.number := by
  unfold channelNumber
  rw [hkind, h]
  rfl

end Packet

end IceTcp
