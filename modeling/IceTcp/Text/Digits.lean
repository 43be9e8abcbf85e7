/-!
# Numbers and digits

The number that a row of digits denotes in some base. Two neighbouring digits are one digit in the
square of the base, and by taking all digits in pairs again and again a long row becomes one number
in few large multiplications.

Main results:

* `Digits.value_eq_foldl`: the number is the one that reading digit after digit gives.
-/

namespace IceTcp

/-! ## Numbers from digits -/

namespace Digits

/-- Neighbouring digits, least significant first, as digits in the square of the base. -/
def paired (base : Nat) : List Nat → List Nat
  | low :: high :: rest => (low + base * high) :: paired base rest
  | digits => digits

theorem length_paired_le (base : Nat) (digits : List Nat) :
    (paired base digits).length ≤ digits.length := by
  fun_induction paired base digits with
  | case1 low high rest ih =>
    simp only [List.length_cons]
    omega
  | case2 => exact Nat.le_refl _

/-- The number that digits denote, least significant first. -/
def valueFromLeast (base : Nat) : List Nat → Nat
  | [] => 0
  | [digit] => digit
  | low :: high :: rest => valueFromLeast (base * base) ((low + base * high) :: paired base rest)
termination_by digits => digits.length
decreasing_by
  have := length_paired_le base rest
  simp only [List.length_cons]
  omega

/-- The number that digits denote, most significant first. -/
def value (base : Nat) (digits : List Nat) : Nat := valueFromLeast base digits.reverse

theorem foldr_paired (base : Nat) (digits : List Nat) :
    (paired base digits).foldr (fun digit n => digit + base * base * n) 0 =
      digits.foldr (fun digit n => digit + base * n) 0 := by
  fun_induction paired base digits with
  | case1 low high rest ih =>
    rw [List.foldr_cons, List.foldr_cons, List.foldr_cons, ih, Nat.mul_add, Nat.mul_assoc,
      Nat.add_assoc]
  | case2 digits hshort =>
    match digits with
    | [] => rfl
    | [_] => rfl
    | low :: high :: rest => exact absurd rfl (hshort low high rest)

theorem valueFromLeast_eq_foldr (base : Nat) (digits : List Nat) :
    valueFromLeast base digits = digits.foldr (fun digit n => digit + base * n) 0 := by
  fun_induction valueFromLeast base digits with
  | case1 => rfl
  | case2 => rfl
  | case3 base low high rest ih => rw [ih, ← foldr_paired base (low :: high :: rest), paired]

/-- The number is the one that reading digit after digit gives. -/
theorem value_eq_foldl (base : Nat) (digits : List Nat) :
    value base digits = digits.foldl (fun n digit => digit + base * n) 0 := by
  rw [value, valueFromLeast_eq_foldr, List.foldr_reverse]

end Digits

/-! ## Hexadecimal text -/

namespace Hex

/-- The digits of a number, without leading zeros; zero has one digit. -/
def digits (n : Nat) : List Char := Nat.toDigits 16 n

/-- A number in hexadecimal. -/
def text (n : Nat) : String := String.ofList (digits n)

/-- An octet in two digits. -/
def octet (byte : UInt8) : String :=
  String.ofList [Nat.digitChar (byte.toNat / 16), Nat.digitChar (byte.toNat % 16)]

/-- The value of a hexadecimal digit of either case. -/
def digitValue? (c : Char) : Option Nat :=
  if '0' ≤ c ∧ c ≤ '9' then some (c.toNat - '0'.toNat)
  else if 'a' ≤ c ∧ c ≤ 'f' then some (c.toNat - 'a'.toNat + 10)
  else if 'A' ≤ c ∧ c ≤ 'F' then some (c.toNat - 'A'.toNat + 10)
  else none

/-- The number that a string of digits denotes. -/
def value (digits : List Char) : Nat :=
  Digits.value 16 (digits.map fun c => (digitValue? c).getD 0)

end Hex

end IceTcp
