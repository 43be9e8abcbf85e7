import IceTcp.Bytes

/-!
# Framing of a stream

A stream of ICE traffic either lays STUN and ChannelData messages back to back, as a TURN client
does, or sends every message in a frame with a 16-bit length prefix (RFC 4571), as a direct peer
does. The framing is not announced. A detection policy says how many bytes may go by without a
decision and what happens then.

The definitions are models of `ConnectionType`, `Fallback` and `DetectionPolicy` of the source and
of what `detect_connection_type` looks at.

Main results:

* `Policy.threshold_ofThreshold`: a policy never waits for fewer than 3 bytes, since the detector
  needs that many.
* `recognize_take_three`: three bytes are enough.
* `recognize_append`: what is recognised stays so when more bytes arrive.
* `Evidence.framing_ne_undecided`: every evidence names a framing.
-/

namespace IceTcp

/-- Model of `ConnectionType`: the framing of a stream. -/
inductive Framing where
  /-- Not known yet. -/
  | undecided
  /-- STUN and ChannelData messages back to back. -/
  | relay
  /-- Every message behind a 16-bit length prefix. -/
  | direct
  deriving DecidableEq, Repr

/-- The name of a framing in log lines. -/
def Framing.logName : Framing → String
  | .undecided => "Unknown"
  | .relay => "TurnRelay"
  | .direct => "IceTcpDirect"

/-- What becomes of a stream whose first bytes show no known framing. -/
inductive Fallback where
  /-- It is read as frames. -/
  | direct
  /-- It is read as bare messages. -/
  | relay
  /-- It is broken. -/
  | reject
  deriving DecidableEq, Repr

/-- The number of bytes that a confident decision takes. -/
def minimumThreshold : Nat := 3

/-- Model of `DetectionPolicy`: how a framing is detected. -/
structure Policy where
  /-- The number of buffered bytes from which an undecided stream falls back. -/
  threshold : Nat
  fallback : Fallback
  /-- The fallback never gets ahead of the detector. -/
  minimum_le : minimumThreshold ≤ threshold
  deriving DecidableEq, Repr

namespace Policy

/-- Model of `new` for policies: the threshold is raised to the minimum where it is below. -/
def ofThreshold (threshold : Nat) (fallback : Fallback) : Policy :=
  ⟨max threshold minimumThreshold, fallback, Nat.le_max_right _ _⟩

/-- The policy of a stream for which none is configured. -/
def standard : Policy := ofThreshold minimumThreshold .direct

instance : Inhabited Policy := ⟨standard⟩

@[simp] theorem threshold_ofThreshold (threshold : Nat) (fallback : Fallback) :
    (ofThreshold threshold fallback).threshold = max threshold 3 := rfl

theorem three_le_threshold (policy : Policy) : 3 ≤ policy.threshold := policy.minimum_le

end Policy

/-! ## Detecting the framing

The first three bytes of a stream decide its framing, and none of them is consumed. A frame that
carries a STUN message starts with a zero octet, an octet of at least 20 (the low half of a length
that holds a STUN header) and a first octet of STUN. Else a stream that starts with a first octet
of STUN or of ChannelData lays its messages bare.
-/

/-- What the first bytes of a stream show. -/
inductive Evidence where
  /-- A frame header and a STUN octet behind it. -/
  | frame
  /-- A bare STUN message. -/
  | stun
  /-- A bare ChannelData message. -/
  | channelData
  deriving DecidableEq, Repr

/-- The framing that an evidence stands for. -/
def Evidence.framing : Evidence → Framing
  | .frame => .direct
  | .stun | .channelData => .relay

theorem Evidence.framing_ne_undecided (evidence : Evidence) :
    evidence.framing ≠ .undecided := by
  cases evidence <;> decide

/-- Model of `detect_connection_type`: what the bytes that have arrived show of the framing, if they
do. Two bytes of which the first is zero could be a frame header, so the third one is waited for. -/
def recognize : Bytes → Option Evidence
  | first :: second :: rest =>
    if first = 0x00 then
      match rest with
      | [] => none
      | third :: _ => if 20 ≤ second ∧ third ≤ 0x03 then some .frame else some .stun
    else if first ≤ 0x03 then some .stun
    else if 0x40 ≤ first ∧ first ≤ 0x4F then some .channelData
    else none
  | _ => none

/-- Bytes from the fourth on play no part. -/
theorem recognize_take_three (bytes : Bytes) : recognize (bytes.take 3) = recognize bytes := by
  match bytes with
  | [] => rfl
  | [_] => rfl
  | [_, _] => rfl
  | first :: second :: third :: rest => simp [recognize]

/-- A decision is not taken back when more bytes arrive. -/
theorem recognize_append {bytes : Bytes} {evidence : Evidence}
    (h : recognize bytes = some evidence) (more : Bytes) :
    recognize (bytes ++ more) = some evidence := by
  match bytes with
  | [] => simp [recognize] at h
  | [_] => simp [recognize] at h
  | [first, second] =>
    simp only [recognize] at h
    split at h
    · simp at h
    · rename_i hfirst
      simp only [List.cons_append, List.nil_append, recognize, if_neg hfirst]
      exact h
  | first :: second :: third :: rest =>
    simpa only [List.cons_append, recognize] using h

end IceTcp
