import IceTcp.Message

/-!
# Probes do not take back an answer

A probe goes by a header of fixed size. It waits until the header has arrived and then decides once:
octets that arrive later do not change the answer, and what is waited for is never what has been
rejected.

While a STUN header is waited for, the octets that have arrived may already rule it out. Each octet
is judged by its offset alone. So the front of a header is sound if each of its octets is admitted
where it stands; a sound front can be continued octet by octet to a header that is accepted, and an
unsound one is rejected as soon as the header is there, whatever follows.

Main results:

* `Probe.ReadsHeader.append_of_ne_notEnough`: an answer other than waiting is final.
* `Probe.ReadsHeader.eq_of_take_eq`: the answer depends on the header only.
* `Stun.exists_probe_append_eq_complete_iff`: which byte strings can be continued to a message.
* `probe_answers_final`: both, for the probes of STUN and of ChannelData.
-/

namespace IceTcp

/-! ## Probes of a header -/

/-- A probe goes by a header of so many octets: it waits exactly as long as some of them are
missing, and what follows them plays no part. -/
structure Probe.ReadsHeader (probe : Bytes → Probe) (size : Nat) : Prop where
  eq_notEnough_iff (bytes : Bytes) : probe bytes = .notEnough ↔ bytes.length < size
  append_of_le {bytes : Bytes} (h : size ≤ bytes.length) (more : Bytes) :
    probe (bytes ++ more) = probe bytes

namespace Probe.ReadsHeader

variable {probe : Bytes → Probe} {size : Nat}

/-- What a probe has decided does not change when more bytes arrive. -/
theorem append_of_ne_notEnough (hprobe : ReadsHeader probe size) {bytes : Bytes}
    (h : probe bytes ≠ .notEnough) (more : Bytes) : probe (bytes ++ more) = probe bytes := by
  apply hprobe.append_of_le
  rw [← Nat.not_lt, ← hprobe.eq_notEnough_iff]
  exact h

theorem eq_take (hprobe : ReadsHeader probe size) (bytes : Bytes) :
    probe bytes = probe (bytes.take size) := by
  rcases Nat.le_total bytes.length size with hshort | hlong
  · rw [List.take_of_length_le hshort]
  · have hheader : size ≤ (bytes.take size).length :=
      Nat.le_of_eq (List.length_take_of_le hlong).symm
    calc probe bytes = probe (bytes.take size ++ bytes.drop size) := by rw [List.take_append_drop]
      _ = probe (bytes.take size) := hprobe.append_of_le hheader _

/-- A probe answers alike where the header is the same. -/
theorem eq_of_take_eq (hprobe : ReadsHeader probe size) {bytes other : Bytes}
    (h : bytes.take size = other.take size) : probe bytes = probe other := by
  rw [hprobe.eq_take bytes, h, ← hprobe.eq_take other]

end Probe.ReadsHeader

theorem Stun.readsHeader : Probe.ReadsHeader Stun.probe 20 where
  eq_notEnough_iff _ := ⟨length_lt_of_probe_eq_notEnough, probe_of_length_lt⟩
  append_of_le := probe_append

theorem ChannelData.readsHeader (padded : Bool) :
    Probe.ReadsHeader (ChannelData.probe padded) 4 where
  eq_notEnough_iff _ := ⟨length_lt_of_probe_eq_notEnough, probe_of_length_lt padded⟩
  append_of_le := probe_append padded

/-! ## Fronts of a STUN header -/

namespace Stun

/-- What an octet of a STUN header has to be, by its offset: two zero bits begin the type, the low
octet of the length shows whether it counts whole words, and the cookie is fixed. Any other octet
will do. -/
def Admits : (offset : Nat) → (octet : UInt8) → Prop
  | 0, octet => octet < 0x40
  | 3, octet => octet.toNat % 4 = 0
  | 4, octet => octet = 0x21
  | 5, octet => octet = 0x12
  | 6, octet => octet = 0xA4
  | 7, octet => octet = 0x42
  | _, _ => True

/-- None of the octets that have arrived rules a STUN header out. -/
def IsSound (bytes : Bytes) : Prop :=
  ∀ offset octet, bytes[offset]? = some octet → Admits offset octet

theorem exists_admits (offset : Nat) : ∃ octet, Admits offset octet := by
  match offset with
  | 0 => exact ⟨0x00, show (0x00 : UInt8) < 0x40 by decide⟩
  | 3 => exact ⟨0x00, rfl⟩
  | 4 => exact ⟨0x21, rfl⟩
  | 5 => exact ⟨0x12, rfl⟩
  | 6 => exact ⟨0xA4, rfl⟩
  | 7 => exact ⟨0x42, rfl⟩
  | 1 | 2 | _ + 8 => exact ⟨0x00, trivial⟩

theorem isSound_of_append {bytes more : Bytes} (h : IsSound (bytes ++ more)) : IsSound bytes := by
  intro offset octet hat
  obtain ⟨hoffset, -⟩ := List.getElem?_eq_some_iff.mp hat
  apply h
  rw [List.getElem?_append_left hoffset]
  exact hat

theorem IsSound.concat {bytes : Bytes} {octet : UInt8} (h : IsSound bytes)
    (hoctet : Admits bytes.length octet) : IsSound (bytes ++ [octet]) := by
  intro offset found hat
  rcases Nat.lt_or_ge offset bytes.length with hbefore | hbehind
  · rw [List.getElem?_append_left hbefore] at hat
    exact h offset found hat
  · rw [List.getElem?_append_right hbehind, List.getElem?_singleton] at hat
    split at hat
    · have hoffset : offset = bytes.length := by omega
      rw [hoffset, ← Option.some.inj hat]
      exact hoctet
    · cases hat

theorem IsSound.exists_append {bytes : Bytes} (h : IsSound bytes) (missing : Nat) :
    ∃ more, more.length = missing ∧ IsSound (bytes ++ more) := by
  induction missing generalizing bytes with
  | zero => exact ⟨[], rfl, by rwa [List.append_nil]⟩
  | succ missing ih =>
    obtain ⟨octet, hoctet⟩ := exists_admits bytes.length
    obtain ⟨more, hlength, hmore⟩ := ih (h.concat hoctet)
    refine ⟨octet :: more, ?_, ?_⟩
    · rw [List.length_cons, hlength]
    · rw [List.append_cons]
      exact hmore

theorem isSound_cons_iff (type₀ type₁ length₀ length₁ cookie₀ cookie₁ cookie₂ cookie₃ : UInt8)
    (rest : Bytes) :
    IsSound (type₀ :: type₁ :: length₀ :: length₁ :: cookie₀ :: cookie₁ :: cookie₂ :: cookie₃ ::
        rest) ↔
      type₀ < 0x40 ∧ [cookie₀, cookie₁, cookie₂, cookie₃] = [0x21, 0x12, 0xA4, 0x42] ∧
        be16 length₀ length₁ % 4 = 0 := by
  -- The high octet of the length counts multiples of 256, which are whole words.
  have hlow : be16 length₀ length₁ % 4 = length₁.toNat % 4 := by
    rw [be16]
    omega
  rw [hlow]
  constructor
  · intro h
    have h₀ : cookie₀ = 0x21 := h 4 cookie₀ rfl
    have h₁ : cookie₁ = 0x12 := h 5 cookie₁ rfl
    have h₂ : cookie₂ = 0xA4 := h 6 cookie₂ rfl
    have h₃ : cookie₃ = 0x42 := h 7 cookie₃ rfl
    refine ⟨h 0 type₀ rfl, ?_, h 3 length₁ rfl⟩
    rw [h₀, h₁, h₂, h₃]
  · rintro ⟨htype, hcookie, hlength⟩
    simp only [List.cons.injEq, and_true] at hcookie
    obtain ⟨h₀, h₁, h₂, h₃⟩ := hcookie
    intro offset octet hat
    -- Offsets 1 and 2 and those from 8 on are free.
    rcases offset with _ | _ | _ | _ | _ | _ | _ | _ | offset
    · exact Option.some.inj hat ▸ htype
    · trivial
    · trivial
    · exact Option.some.inj hat ▸ hlength
    · exact Option.some.inj hat ▸ h₀
    · exact Option.some.inj hat ▸ h₁
    · exact Option.some.inj hat ▸ h₂
    · exact Option.some.inj hat ▸ h₃
    · trivial

theorem exists_probe_eq_complete_of_isSound {bytes : Bytes} (hheader : 20 ≤ bytes.length)
    (hsound : IsSound bytes) : ∃ size, probe bytes = .complete size := by
  obtain ⟨_, _, _, _, _, _, _, _, rest, rfl, hrest⟩ := exists_fields hheader
  obtain ⟨htype, hcookie, hwords⟩ := (isSound_cons_iff _ _ _ _ _ _ _ _ rest).mp hsound
  rw [probe_cons _ _ _ _ _ _ _ _ hrest, if_neg (UInt8.not_le.mpr htype),
    if_neg (not_not_intro ((cookie_eq_iff _ _ _ _).mpr hcookie)), if_neg (not_not_intro hwords)]
  exact ⟨_, rfl⟩

theorem probe_eq_invalid_of_not_isSound {bytes : Bytes} (hheader : 20 ≤ bytes.length)
    (hunsound : ¬ IsSound bytes) : probe bytes = .invalid := by
  obtain ⟨_, _, _, _, _, _, _, _, rest, rfl, hrest⟩ := exists_fields hheader
  rw [isSound_cons_iff, ← cookie_eq_iff] at hunsound
  rw [probe_cons _ _ _ _ _ _ _ _ hrest]
  split
  · rfl
  · rename_i htype
    split
    · rfl
    · rename_i hcookie
      split
      · rfl
      · rename_i hwords
        exact absurd ⟨UInt8.not_le.mp htype, Decidable.not_not.mp hcookie,
          Decidable.not_not.mp hwords⟩ hunsound

/-- A byte string can be continued to a message exactly if it is a sound front. -/
theorem exists_probe_append_eq_complete_iff {bytes : Bytes} :
    (∃ more size, probe (bytes ++ more) = .complete size) ↔ IsSound bytes := by
  constructor
  · rintro ⟨more, size, hprobe⟩
    have hheader : 20 ≤ (bytes ++ more).length := le_length_of_probe (by rw [hprobe]; exact nofun)
    by_cases hsound : IsSound (bytes ++ more)
    · exact isSound_of_append hsound
    · rw [probe_eq_invalid_of_not_isSound hheader hsound] at hprobe
      cases hprobe
  · intro hsound
    obtain ⟨more, hlength, hmore⟩ := hsound.exists_append 20
    have hheader : 20 ≤ (bytes ++ more).length := by
      rw [List.length_append]
      omega
    exact ⟨more, exists_probe_eq_complete_of_isSound hheader hmore⟩

/-- What is not a sound front is rejected as soon as a whole header is there, whatever follows. -/
theorem probe_append_eq_invalid {bytes more : Bytes} (hunsound : ¬ IsSound bytes)
    (hheader : 20 ≤ (bytes ++ more).length) : probe (bytes ++ more) = .invalid :=
  probe_eq_invalid_of_not_isSound hheader fun hsound => hunsound (isSound_of_append hsound)

end Stun

/-- The probes never confuse waiting with rejecting. What a probe has decided it does not revise
when more bytes arrive. The probe of a STUN header waits only where some of its 20 octets are
missing, and then either some continuation is accepted, or an octet that has arrived rules a header
out and every continuation to a whole header is rejected. What it announces is a multiple of four
from 20 to 65552, and the first 20 octets alone say so. -/
theorem probe_answers_final :
    (∀ bytes more : Bytes,
      (Stun.probe bytes ≠ .notEnough → Stun.probe (bytes ++ more) = Stun.probe bytes) ∧
        ∀ padded, ChannelData.probe padded bytes ≠ .notEnough →
          ChannelData.probe padded (bytes ++ more) = ChannelData.probe padded bytes) ∧
      (∀ bytes, Stun.probe bytes = .notEnough →
        bytes.length < 20 ∧
          ((Stun.IsSound bytes ∧ ∃ more size, Stun.probe (bytes ++ more) = .complete size) ∨
            (¬ Stun.IsSound bytes ∧ ∀ more, 20 ≤ (bytes ++ more).length →
              Stun.probe (bytes ++ more) = .invalid))) ∧
      ∀ bytes size, Stun.probe bytes = .complete size →
        size % 4 = 0 ∧ 20 ≤ size ∧ size ≤ 65552 ∧
          ∀ other, bytes.take 20 = other.take 20 → Stun.probe other = .complete size := by
  refine ⟨?_, ?_, ?_⟩
  · intro bytes more
    constructor
    · intro hprobe
      exact Stun.readsHeader.append_of_ne_notEnough hprobe more
    · intro padded hprobe
      exact (ChannelData.readsHeader padded).append_of_ne_notEnough hprobe more
  · intro bytes hprobe
    refine ⟨Stun.length_lt_of_probe_eq_notEnough hprobe, ?_⟩
    by_cases hsound : Stun.IsSound bytes
    · exact .inl ⟨hsound, Stun.exists_probe_append_eq_complete_iff.mpr hsound⟩
    · exact .inr ⟨hsound, fun more hheader => Stun.probe_append_eq_invalid hsound hheader⟩
  · intro bytes size hprobe
    obtain ⟨hminimum, hmaximum, hwords⟩ := Stun.size_of_probe hprobe
    refine ⟨hwords, hminimum, by omega, ?_⟩
    intro other hsame
    rw [← hprobe]
    exact (Stun.readsHeader.eq_of_take_eq hsame).symm

-- The header of the longest message, and a front of it with a false octet in the cookie.
theorem probe_answers_final_longest :
    let header : Bytes := [0x00, 0x01, 0xFF, 0xFC, 0x21, 0x12, 0xA4, 0x42] ++ List.replicate 12 0x00
    let front : Bytes := [0x00, 0x01, 0xFF, 0xFC, 0x21, 0x13]
    Stun.probe header = .complete 65552 ∧
      (∀ more, Stun.probe (header ++ more) = .complete 65552) ∧
      Stun.probe front = .notEnough ∧ ¬ Stun.IsSound front ∧
      ∀ more, 20 ≤ (front ++ more).length → Stun.probe (front ++ more) = .invalid := by
  intro header front
  have hheader : Stun.probe header = .complete 65552 := by decide
  have hfront : ¬ Stun.IsSound front := fun hsound =>
    absurd (hsound 5 0x13 rfl) (show ¬ (0x13 : UInt8) = 0x12 by decide)
  obtain ⟨hfinal, hwaiting, -⟩ := probe_answers_final
  refine ⟨hheader, ?_, rfl, hfront, ?_⟩
  · intro more
    rw [(hfinal header more).1 (by rw [hheader]; exact nofun), hheader]
  · rcases (hwaiting front rfl).2 with ⟨hsound, -⟩ | ⟨-, hrejected⟩
    · exact absurd hsound hfront
    · exact hrejected

end IceTcp
