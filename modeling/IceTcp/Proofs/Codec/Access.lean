import IceTcp.Message

/-!
# Reading headers by offset

The probes and the decoder take the octets of a header apart by their positions. Read so, an access
may lie outside of the byte string, and a difference of lengths may be negative; nothing about the
types excludes it. Here each access is checked where it takes place and `none` stands for one that
fails. The checks never fail, since each access stands behind a comparison of lengths, and what is
read is what the header says octet by octet.

Main results:

* `Stun.probeChecked_eq`, `ChannelData.probeChecked_eq`: the probes stay within what they look at.
* `ChannelData.decodeChecked_eq`, `ChannelData.decode_ne_fieldSize`: so does the decoder, and the
  fields that it takes always have the size of a field.
* `Packet.channelNumberChecked_eq`: telling the channel of any packet.
-/

namespace IceTcp

/-! ## Checked accesses -/

/-- The part of a byte string from one offset up to another, where both lie within it in this
order. -/
def Bytes.slice? (bytes : Bytes) (start stop : Nat) : Option Bytes :=
  if start ≤ stop ∧ stop ≤ bytes.length then some ((bytes.drop start).take (stop - start)) else none

/-- The front of a byte string of a given length and what remains behind it, where it has that many
octets. -/
def Bytes.splitTo? (bytes : Bytes) (size : Nat) : Option (Bytes × Bytes) :=
  if size ≤ bytes.length then some (bytes.take size, bytes.drop size) else none

/-- What remains of a byte string behind so many octets, where it has them. -/
def Bytes.advance? (bytes : Bytes) (size : Nat) : Option Bytes :=
  if size ≤ bytes.length then some (bytes.drop size) else none

/-- A difference that is not negative. -/
def difference? (whole part : Nat) : Option Nat := if part ≤ whole then some (whole - part) else none

theorem Bytes.slice?_of_le {bytes : Bytes} {start stop : Nat} (hstart : start ≤ stop)
    (hstop : stop ≤ bytes.length) :
    bytes.slice? start stop = some ((bytes.drop start).take (stop - start)) := if_pos ⟨hstart, hstop⟩

theorem Bytes.splitTo?_of_le {bytes : Bytes} {size : Nat} (h : size ≤ bytes.length) :
    bytes.splitTo? size = some (bytes.take size, bytes.drop size) := if_pos h

theorem Bytes.advance?_of_le {bytes : Bytes} {size : Nat} (h : size ≤ bytes.length) :
    bytes.advance? size = some (bytes.drop size) := if_pos h

theorem difference?_of_le {whole part : Nat} (h : part ≤ whole) :
    difference? whole part = some (whole - part) := if_pos h

-- One octet too many is noticed.
example : Bytes.splitTo? [0x40, 0x00] 3 = none ∧ Bytes.slice? [0x40, 0x00] 1 3 = none ∧
    Bytes.advance? [0x40, 0x00] 3 = none ∧ difference? 2 3 = none := by decide

/-! ## STUN headers -/

namespace Stun

/-- The probe of a STUN header, octet by octet at its offset. -/
def probeChecked (bytes : Bytes) : Option Probe :=
  if bytes.length < headerSize then some .notEnough
  else do
    let type₀ ← bytes[0]?
    if 0x40 ≤ type₀ then some .invalid
    else do
      let cookie₀ ← bytes[4]?
      let cookie₁ ← bytes[5]?
      let cookie₂ ← bytes[6]?
      let cookie₃ ← bytes[7]?
      if be16 cookie₀ cookie₁ * 65536 + be16 cookie₂ cookie₃ ≠ magicCookie then some .invalid
      else do
        let length₀ ← bytes[2]?
        let length₁ ← bytes[3]?
        if be16 length₀ length₁ % 4 ≠ 0 then some .invalid
        else some (.complete (headerSize + be16 length₀ length₁))

/-- The probe looks at nothing that is not there. -/
theorem probeChecked_eq (bytes : Bytes) : probeChecked bytes = some (probe bytes) := by
  by_cases hlength : bytes.length < headerSize
  · rw [probeChecked, if_pos hlength, probe_of_length_lt hlength]
  · obtain ⟨_, _, _, _, _, _, _, _, rest, rfl, _⟩ := exists_fields (Nat.not_lt.mp hlength)
    rw [probeChecked, if_neg hlength, probe, if_neg hlength]
    -- Comparing the two by definition would compute with the words of the cookie.
    simp -implicitDefEqProofs only [List.getElem?_cons_zero, List.getElem?_cons_succ,
      Option.bind_eq_bind, Option.bind_some, apply_ite some]

end Stun

/-! ## ChannelData messages -/

namespace ChannelData

/-- The padding of a message, where the remainder of its size is no more than four. -/
def paddingChecked (size : Nat) : Option Nat :=
  if size % 4 = 0 then some 0 else difference? 4 (size % 4)

theorem paddingChecked_eq (size : Nat) : paddingChecked size = some (padding size) := by
  have hremainder : size % 4 ≤ 4 := Nat.le_of_lt (Nat.mod_lt size (by decide))
  rw [paddingChecked, difference?_of_le hremainder, padding, apply_ite some]

/-- The probe of a ChannelData header, octet by octet at its offset. -/
def probeChecked (padded : Bool) (bytes : Bytes) : Option Probe :=
  if bytes.length < headerSize then some .notEnough
  else do
    let number₀ ← bytes[0]?
    let number₁ ← bytes[1]?
    if ¬ IsChannel (be16 number₀ number₁) then some .invalid
    else do
      let length₀ ← bytes[2]?
      let length₁ ← bytes[3]?
      let size := headerSize + be16 length₀ length₁
      if padded then do
        let pad ← paddingChecked size
        some (.complete (size + pad))
      else some (.complete size)

/-- The probe looks at nothing that is not there. -/
theorem probeChecked_eq (padded : Bool) (bytes : Bytes) :
    probeChecked padded bytes = some (probe padded bytes) := by
  match bytes with
  | [] | [_] | [_, _] | [_, _, _] => rfl
  | number₀ :: number₁ :: length₀ :: length₁ :: rest =>
    have hlength : ¬ (number₀ :: number₁ :: length₀ :: length₁ :: rest).length < headerSize := by
      simp only [List.length_cons, headerSize]
      omega
    rw [probeChecked, if_neg hlength, probe]
    simp only [List.getElem?_cons_zero, List.getElem?_cons_succ, Option.bind_eq_bind,
      Option.bind_some, paddingChecked_eq]
    by_cases hchannel : IsChannel (be16 number₀ number₁)
    · rw [if_neg (not_not_intro hchannel), if_pos hchannel]
      cases padded <;> rfl
    · rw [if_pos hchannel, if_neg hchannel]

/-- The decoder, field by field at its offset. A field that does not consist of two octets is an
error of its own. -/
def decodeChecked (bytes : Bytes) : Option (Except DecodeError ChannelData) :=
  if bytes.length < headerSize then some (.error .invalidInput)
  else do
    match Bytes.be16? (← bytes.slice? 0 2) with
    | none => some (.error .fieldSize)
    | some number =>
      if ¬ IsChannel number then some (.error .invalidInput)
      else do
        match Bytes.be16? (← bytes.slice? 2 4) with
        | none => some (.error .fieldSize)
        | some length =>
          let room ← difference? bytes.length headerSize
          if length > room then some (.error .invalidInput)
          else do
            let payload ← bytes.slice? headerSize (headerSize + length)
            some (.ok ⟨UInt16.ofNat number, payload⟩)

/-- The decoder takes nothing that is not there. -/
theorem decodeChecked_eq (bytes : Bytes) : decodeChecked bytes = some (decode bytes) := by
  match bytes with
  | [] | [_] | [_, _] | [_, _, _] => rfl
  | number₀ :: number₁ :: length₀ :: length₁ :: rest =>
    have hsize : (number₀ :: number₁ :: length₀ :: length₁ :: rest).length = rest.length + 4 := rfl
    have hlength : ¬ (number₀ :: number₁ :: length₀ :: length₁ :: rest).length < headerSize := by
      rw [hsize, headerSize]
      omega
    have hnumber : Bytes.slice? (number₀ :: number₁ :: length₀ :: length₁ :: rest) 0 2 =
        some [number₀, number₁] := Bytes.slice?_of_le (by decide) (by omega)
    have hfield : Bytes.slice? (number₀ :: number₁ :: length₀ :: length₁ :: rest) 2 4 =
        some [length₀, length₁] := Bytes.slice?_of_le (by decide) (by omega)
    have hroom : difference? (number₀ :: number₁ :: length₀ :: length₁ :: rest).length headerSize =
        some rest.length := difference?_of_le (Nat.le_of_not_lt hlength)
    rw [decodeChecked, if_neg hlength, decode_cons, hnumber, hfield, hroom]
    simp only [Option.bind_eq_bind, Option.bind_some, Bytes.be16?]
    by_cases hchannel : IsChannel (be16 number₀ number₁)
    · rw [if_neg (not_not_intro hchannel), if_pos hchannel]
      by_cases hfit : be16 length₀ length₁ ≤ rest.length
      · have hpayload : Bytes.slice? (number₀ :: number₁ :: length₀ :: length₁ :: rest) headerSize
            (headerSize + be16 length₀ length₁) = some (rest.take (be16 length₀ length₁)) := by
          rw [Bytes.slice?_of_le (Nat.le_add_right _ _) (by rw [hsize, headerSize]; omega),
            Nat.add_sub_cancel_left]
          rfl
        rw [if_neg (Nat.not_lt.mpr hfit), if_pos hfit, hpayload, Option.bind_some]
      · rw [if_pos (Nat.lt_of_not_le hfit), if_neg hfit]
    · rw [if_pos hchannel, if_neg hchannel]

/-- The fields of a header consist of two octets each, so the decoder never finds them of another
size. -/
theorem decode_ne_fieldSize (bytes : Bytes) : decode bytes ≠ .error .fieldSize := by
  match bytes with
  | [] | [_] | [_, _] | [_, _, _] => exact fun h => nomatch h
  | number₀ :: number₁ :: length₀ :: length₁ :: rest =>
    rw [decode_cons]
    split
    · split <;> exact fun h => nomatch h
    · exact fun h => nomatch h

end ChannelData

/-! ## Packets -/

namespace Packet

/-- The channel of a ChannelData packet that decodes, read by the checked decoder. -/
def channelNumberChecked (packet : Packet) : Option (Option UInt16) :=
  match packet.kind with
  | .channelData => do
    let decoded ← ChannelData.decodeChecked packet.data
    some (decoded.toOption.map ChannelData.number)
  | .stun | .unknown => some none

/-- Telling the channel of a packet takes nothing that is not there, whatever the packet holds. -/
theorem channelNumberChecked_eq (packet : Packet) :
    packet.channelNumberChecked = some packet.channelNumber := by
  unfold channelNumberChecked channelNumber
  cases packet.kind with
  | channelData =>
    simp only [ChannelData.decodeChecked_eq, Option.bind_eq_bind, Option.bind_some]
  | stun | unknown => rfl

end Packet

end IceTcp
