import Mathlib.Order.Bounds.Defs
import IceTcp.Proofs.Codec.ChannelData

/-!
# Probe and decoder of ChannelData agree

The header of a ChannelData message is read twice: by the probe, which tells how long the message
is, and by the decoder, which checks that the data are there. Without padding the two accept the
same headers, and the decoder takes for the data what the probe counts behind the header. With
padding the probe decides alike, and announces the next multiple of four; what it announces always
decodes, and the octets of the padding say nothing.

Main results:

* `decode_eq_ok_iff_probe`: what the decoder reads, in terms of the probe.
* `paddedTo_probe`: what counting the padding changes.
* `decode_iff_probe_complete`: both readings of the header, on any byte string.
-/

namespace IceTcp

/-- The answers of two probes of which only the second counts the padding: the same outcome, and
where the header is accepted the least multiple of four that holds the message. -/
inductive Probe.PaddedTo : Probe → Probe → Prop
  | complete {size whole : Nat} (hheader : 4 ≤ size)
      (hleast : IsLeast {total | size ≤ total ∧ total % 4 = 0} whole) (hmaximum : whole ≤ 65540) :
      PaddedTo (.complete size) (.complete whole)
  | notEnough : PaddedTo .notEnough .notEnough
  | invalid : PaddedTo .invalid .invalid

namespace ChannelData

theorem isLeast_add_padding (size : Nat) :
    IsLeast {total | size ≤ total ∧ total % 4 = 0} (size + padding size) := by
  have hpadded := isPadded_add_padding size
  have hshort := padding_lt size
  constructor
  · exact ⟨Nat.le_add_right _ _, hpadded⟩
  · rintro total ⟨hle, hwords⟩
    omega

/-- Counting the padding changes nothing about the outcome of a probe. -/
theorem paddedTo_probe (bytes : Bytes) : (probe false bytes).PaddedTo (probe true bytes) := by
  match bytes with
  | [] | [_] | [_, _] | [_, _, _] => exact .notEnough
  | number₀ :: number₁ :: length₀ :: length₁ :: rest =>
    by_cases hchannel : IsChannel (be16 number₀ number₁)
    · have hwhole : probe true (number₀ :: number₁ :: length₀ :: length₁ :: rest) =
          .complete (4 + be16 length₀ length₁ + padding (4 + be16 length₀ length₁)) := by
        rw [probe_cons, if_pos hchannel, if_pos rfl]
      have hsize : probe false (number₀ :: number₁ :: length₀ :: length₁ :: rest) =
          .complete (4 + be16 length₀ length₁) := by
        rw [probe_cons, if_pos hchannel, if_neg Bool.false_ne_true]
      rw [hsize, hwhole]
      exact .complete (Nat.le_add_right _ _) (isLeast_add_padding _) (size_of_probe hwhole).2
    · rw [probe_cons, probe_cons, if_neg hchannel, if_neg hchannel]
      exact .invalid

/-- The decoder reads a message exactly where the probe finds one that has arrived as a whole: its
number is in the first two octets, and its data are all that the probe counts behind the header. -/
theorem decode_eq_ok_iff_probe {bytes : Bytes} {message : ChannelData} :
    decode bytes = .ok message ↔
      ∃ size, probe false bytes = .complete size ∧ size ≤ bytes.length ∧
        Bytes.be16? (bytes.take 2) = some message.number.toNat ∧
        message.payload = (bytes.take size).drop 4 := by
  match bytes with
  | [] | [_] | [_, _] | [_, _, _] =>
    refine ⟨fun h => ?_, fun ⟨_, hprobe, _⟩ => ?_⟩
    · cases h
    · cases hprobe
  | number₀ :: number₁ :: length₀ :: length₁ :: rest =>
    have hdata : ((number₀ :: number₁ :: length₀ :: length₁ :: rest).take
        (4 + be16 length₀ length₁)).drop 4 = rest.take (be16 length₀ length₁) := by
      rw [List.drop_take, Nat.add_sub_cancel_left]
      rfl
    have hnumber : (UInt16.ofNat (be16 number₀ number₁)).toNat = be16 number₀ number₁ := by
      rw [UInt16.toNat_ofNat', Nat.mod_eq_of_lt (be16_lt _ _)]
    rw [decode_cons, probe_cons, if_neg Bool.false_ne_true]
    constructor
    · intro h
      split at h
      · rename_i hchannel
        split at h
        · rename_i hfit
          obtain rfl := Except.ok.inj h
          refine ⟨_, if_pos hchannel, ?_, congrArg some hnumber.symm, hdata.symm⟩
          simp only [List.length_cons]
          omega
        · cases h
      · cases h
    · rintro ⟨size, hprobe, hfit, hfront, hpayload⟩
      split at hprobe
      · rename_i hchannel
        obtain rfl := Probe.complete.inj hprobe
        have hbehind : be16 length₀ length₁ ≤ rest.length := by
          simp only [List.length_cons] at hfit
          omega
        have hsame : be16 number₀ number₁ = message.number.toNat := Option.some.inj hfront
        rw [if_pos hchannel, if_pos hbehind, ← hdata, ← hpayload, hsame, UInt16.ofNat_toNat]
      · cases hprobe

theorem exists_decode_of_probe {bytes : Bytes} {size : Nat} (hprobe : probe false bytes = .complete size)
    (hfit : size ≤ bytes.length) : ∃ message, decode bytes = .ok message := by
  match bytes with
  | [] | [_] | [_, _] | [_, _, _] => cases hprobe
  | number₀ :: number₁ :: length₀ :: length₁ :: rest =>
    refine ⟨⟨UInt16.ofNat (be16 number₀ number₁), _⟩,
      decode_eq_ok_iff_probe.mpr ⟨size, hprobe, hfit, ?_, rfl⟩⟩
    rw [UInt16.toNat_ofNat', Nat.mod_eq_of_lt (be16_lt _ _)]
    rfl

theorem decode_take_append {bytes : Bytes} {message : ChannelData} {size : Nat}
    (hdecode : decode bytes = .ok message) (hprobe : probe false bytes = .complete size)
    (behind : Bytes) : decode (bytes.take size ++ behind) = .ok message := by
  obtain ⟨_, hsame, hfit, hnumber, hpayload⟩ := decode_eq_ok_iff_probe.mp hdecode
  obtain rfl := Probe.complete.inj (hprobe.symm.trans hsame)
  have hheader := (size_of_probe hprobe).1
  have hlength : (bytes.take size).length = size := by
    rw [List.length_take, Nat.min_eq_left hfit]
  have hfront : (bytes.take size ++ behind).take size = bytes.take size := by
    rw [List.take_append_of_le_length (Nat.le_of_eq hlength.symm), List.take_take, Nat.min_self]
  refine decode_eq_ok_iff_probe.mpr ⟨size, ?_, ?_, ?_, ?_⟩
  · rw [probe_append false (by omega) behind, ← hprobe]
    conv => rhs; rw [← List.take_append_drop size bytes]
    exact (probe_append false (by omega) _).symm
  · rw [List.length_append]
    omega
  · rw [List.take_append_of_le_length (by omega), List.take_take, Nat.min_eq_left (by omega)]
    exact hnumber
  · rw [hfront]
    exact hpayload

/-- A byte string decodes exactly if the probe that does not count the padding finds a message in it
that has arrived as a whole, and then the message is what the probe counts. The probe that counts
the padding decides alike and announces the least multiple of four that holds the message. Where as
much as it announces has arrived and is cut off, that decodes, and the octets of the padding may be
any. -/
theorem decode_iff_probe_complete (bytes : Bytes) :
    ((∃ message, decode bytes = .ok message) ↔
        ∃ size, probe false bytes = .complete size ∧ size ≤ bytes.length) ∧
      (∀ message, decode bytes = .ok message →
        ∃ size, probe false bytes = .complete size ∧ size ≤ bytes.length ∧
          Bytes.be16? (bytes.take 2) = some message.number.toNat ∧
          message.payload = (bytes.take size).drop 4) ∧
      (probe false bytes).PaddedTo (probe true bytes) ∧
      ∀ size whole, probe false bytes = .complete size → probe true bytes = .complete whole →
        whole ≤ bytes.length →
          ∃ message, decode (bytes.take whole) = .ok message ∧
            message.payload = (bytes.take size).drop 4 ∧
            ∀ padding : Bytes, padding.length = whole - size →
              decode (bytes.take size ++ padding) = .ok message := by
  refine ⟨⟨?_, ?_⟩, ?_, paddedTo_probe bytes, ?_⟩
  · rintro ⟨message, hdecode⟩
    obtain ⟨size, hprobe, hfit, -⟩ := decode_eq_ok_iff_probe.mp hdecode
    exact ⟨size, hprobe, hfit⟩
  · rintro ⟨size, hprobe, hfit⟩
    exact exists_decode_of_probe hprobe hfit
  · intro message hdecode
    exact decode_eq_ok_iff_probe.mp hdecode
  · intro size whole hprobe hpadded hfit
    have hpair := paddedTo_probe bytes
    rw [hprobe, hpadded] at hpair
    obtain ⟨-, ⟨⟨hle, -⟩, -⟩, -⟩ := hpair
    obtain ⟨message, hdecode⟩ := exists_decode_of_probe hprobe (Nat.le_trans hle hfit)
    obtain ⟨_, hsame, -, -, hpayload⟩ := decode_eq_ok_iff_probe.mp hdecode
    obtain rfl := Probe.complete.inj (hprobe.symm.trans hsame)
    have hcut : bytes.take whole = bytes.take size ++ (bytes.take whole).drop size := by
      conv => lhs; rw [← List.take_append_drop size (bytes.take whole)]
      rw [List.take_take, Nat.min_eq_left hle]
    refine ⟨message, ?_, hpayload, fun padding _ => decode_take_append hdecode hprobe padding⟩
    rw [hcut]
    exact decode_take_append hdecode hprobe _

end ChannelData

end IceTcp
