/-!
# Byte strings and 16-bit fields

A byte string is a list of octets. Length fields, channel numbers and frame headers are 16-bit
numbers written most significant octet first.

Main results:

* `be16_lt`: such a field is below `2 ^ 16`.
* `be16_toBe16`: a number below `2 ^ 16` reads back from its two octets.
* `toBe16_be16`: two octets are the written form of the number they denote.
* `holds_iff`: whether a byte string is long enough shows after that many bytes.
* `flatten_chunks`, `length_of_mem_chunks`, `length_of_mem_dropLast_chunks`: the pieces that a byte
  string is split into concatenate to it, and all but the last one are as long as asked for.
-/

namespace IceTcp

/-- A byte string, in stream order. -/
abbrev Bytes := List UInt8

/-- The number that two octets denote, most significant first. -/
def be16 (high low : UInt8) : Nat := high.toNat * 256 + low.toNat

/-- The two octets of a number; what does not fit in 16 bits is dropped. -/
def toBe16 (n : Nat) : Bytes := [UInt8.ofNat (n / 256), UInt8.ofNat n]

theorem be16_lt (high low : UInt8) : be16 high low < 65536 := by
  have := high.toNat_lt
  have := low.toNat_lt
  simp only [be16]
  omega

theorem be16_ofNat (n : Nat) : be16 (UInt8.ofNat (n / 256)) (UInt8.ofNat n) = n % 65536 := by
  simp only [be16, UInt8.toNat_ofNat']
  omega

/-- A 16-bit number reads back from its two octets. -/
theorem be16_toBe16 {n : Nat} (h : n < 65536) :
    be16 (UInt8.ofNat (n / 256)) (UInt8.ofNat n) = n := by
  rw [be16_ofNat, Nat.mod_eq_of_lt h]

/-- Two octets are what the number that they denote is written as. -/
theorem toBe16_be16 (high low : UInt8) : toBe16 (be16 high low) = [high, low] := by
  have hl := low.toNat_lt
  have hdiv : be16 high low / 256 = high.toNat := by simp only [be16]; omega
  have hmod : UInt8.ofNat (be16 high low) = low := by
    apply UInt8.toNat_inj.mp
    simp only [UInt8.toNat_ofNat', be16]
    omega
  simp only [toBe16, hdiv, hmod, UInt8.ofNat_toNat]

@[simp] theorem length_toBe16 (n : Nat) : (toBe16 n).length = 2 := rfl

/-! ## Lengths -/

/-- Whether there are at least so many bytes. No more of them are looked at. -/
def Bytes.holds : (size : Nat) → Bytes → Bool
  | 0, _ => true
  | _ + 1, [] => false
  | size + 1, _ :: rest => Bytes.holds size rest

theorem Bytes.holds_iff {size : Nat} {bytes : Bytes} :
    Bytes.holds size bytes = true ↔ size ≤ bytes.length := by
  induction bytes generalizing size with
  | nil => cases size <;> simp [Bytes.holds]
  | cons _ rest ih =>
    cases size with
    | zero => simp [Bytes.holds]
    | succ size => simp [Bytes.holds, ih]

/-- A comparison of a length counts no further than the bound. -/
instance Bytes.decidableLengthLt (bytes : Bytes) (size : Nat) : Decidable (bytes.length < size) :=
  decidable_of_iff (Bytes.holds size bytes = false) (by
    rw [← Nat.not_le, ← Bytes.holds_iff, Bool.not_eq_true])

instance Bytes.decidableLengthLe (bytes : Bytes) (size : Nat) : Decidable (bytes.length ≤ size) :=
  decidable_of_iff (Bytes.holds (size + 1) bytes = false) (by
    rw [← Nat.lt_succ_iff, ← Nat.not_le, ← Bytes.holds_iff, Bool.not_eq_true])

/-- The number in a field of exactly two octets. -/
def Bytes.be16? : Bytes → Option Nat
  | [high, low] => some (be16 high low)
  | _ => none

/-- Splits a byte string into pieces of `size` bytes, the last of which may be shorter. There are
no empty pieces, and none at all of size 0. -/
def Bytes.chunks (size : Nat) (bytes : Bytes) : List Bytes :=
  if 0 < size ∧ bytes ≠ [] then bytes.take size :: Bytes.chunks size (bytes.drop size) else []
termination_by bytes.length
decreasing_by
  rename_i h
  have := List.length_pos_iff.mpr h.2
  simp only [List.length_drop]
  omega

theorem Bytes.chunks_nil (size : Nat) : Bytes.chunks size [] = [] := by
  rw [Bytes.chunks]
  simp

/-- The pieces, one behind the other, are the whole. -/
theorem Bytes.flatten_chunks {size : Nat} (hsize : 0 < size) (bytes : Bytes) :
    (Bytes.chunks size bytes).flatten = bytes := by
  induction bytes using Bytes.chunks.induct size with
  | case1 bytes h ih => rw [Bytes.chunks, if_pos h, List.flatten_cons, ih, List.take_append_drop]
  | case2 bytes h =>
    have hnil : bytes = [] := by
      by_cases hb : bytes = []
      · exact hb
      · exact absurd ⟨hsize, hb⟩ h
    rw [Bytes.chunks, if_neg h, hnil, List.flatten_nil]

/-- No piece is empty, and none is longer than asked for. -/
theorem Bytes.length_of_mem_chunks {size : Nat} {bytes piece : Bytes}
    (h : piece ∈ Bytes.chunks size bytes) : 0 < piece.length ∧ piece.length ≤ size := by
  induction bytes using Bytes.chunks.induct size with
  | case1 bytes hb ih =>
    rw [Bytes.chunks, if_pos hb, List.mem_cons] at h
    rcases h with rfl | h
    · have := List.length_pos_iff.mpr hb.2
      simp only [List.length_take]
      omega
    · exact ih h
  | case2 bytes hb =>
    rw [Bytes.chunks, if_neg hb] at h
    cases h

/-- Every piece but the last one is as long as asked for. -/
theorem Bytes.length_of_mem_dropLast_chunks {size : Nat} {bytes piece : Bytes}
    (h : piece ∈ (Bytes.chunks size bytes).dropLast) : piece.length = size := by
  induction bytes using Bytes.chunks.induct size with
  | case1 bytes hb ih =>
    rw [Bytes.chunks, if_pos hb] at h
    -- Where something is left behind a piece, it was not the end that made the piece short.
    by_cases hrest : bytes.drop size = []
    · rw [hrest, Bytes.chunks_nil] at h
      cases h
    · rw [List.dropLast_cons_of_ne_nil] at h
      · rcases List.mem_cons.mp h with rfl | h
        · have := List.length_pos_iff.mpr hrest
          simp only [List.length_drop] at this
          simp only [List.length_take]
          omega
        · exact ih h
      · intro hnil
        have hflat := Bytes.flatten_chunks hb.1 (bytes.drop size)
        rw [hnil] at hflat
        exact hrest hflat.symm
  | case2 bytes hb =>
    rw [Bytes.chunks, if_neg hb] at h
    cases h

end IceTcp
