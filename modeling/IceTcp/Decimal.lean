/-!
# Doubles and their decimal texts

A double is a sign, a significand of at most 53 bits and a power of two, or an infinity, or no
number. Decimal numbers are read as the double that is nearest to them, computed exactly; of two
that are equally near, the one with the even significand.
-/

namespace IceTcp

/-- A double. -/
inductive Binary64 where
  /-- The number `significand * 2 ^ exponent`, or its negative. -/
  | finite (negative : Bool) (significand : Nat) (exponent : Int)
  | infinite (negative : Bool)
  | nan
  deriving DecidableEq, Repr

namespace Binary64

/-- The exponent of the smallest doubles. -/
def minExponent : Int := -1074

/-- The exponent of the largest doubles. -/
def maxExponent : Int := 971

/-! ## Rounding -/

/-- A quotient rounded to a whole number, a half to the even neighbour. -/
def roundHalfEven (n d : Nat) : Nat :=
  if 2 * (n % d) < d ∨ (2 * (n % d) = d ∧ n / d % 2 = 0) then n / d else n / d + 1

/-- The quotient `n / d` divided by a power of two, as a numerator and a denominator. -/
def scaleDown (n d : Nat) (exponent : Int) : Nat × Nat :=
  if 0 ≤ exponent then (n, d * Nat.pow 2 exponent.toNat)
  else (n * Nat.pow 2 (-exponent).toNat, d)

/-- The double nearest to the quotient `n / d`, or to its negative. -/
def ofRatio (negative : Bool) (n d : Nat) : Binary64 :=
  if n = 0 then .finite negative 0 minExponent
  else
    let low := max ((n.log2 : Int) - d.log2 - 53) minExponent
    let atLow := scaleDown n d low
    let exponent := if atLow.1 / atLow.2 < Nat.pow 2 53 then low else low + 1
    let scaled := scaleDown n d exponent
    let rounded := roundHalfEven scaled.1 scaled.2
    let (significand, exponent) :=
      if rounded = Nat.pow 2 53 then (Nat.pow 2 52, exponent + 1) else (rounded, exponent)
    if maxExponent < exponent then .infinite negative else .finite negative significand exponent

/-- A power of ten below which a number of this binary logarithm does not lie. -/
def leastMagnitude (log2 : Nat) : Nat := log2 * 30102 / 100000

/-- A power of ten that a number of this binary logarithm does not reach. -/
def greatestMagnitude (log2 : Nat) : Nat := (log2 + 1) * 30103 / 100000 + 1

/-- The double nearest to `digits * 10 ^ exponent`, or to its negative. Numbers beyond every double
and numbers below half of the smallest one are told by their decimal magnitude alone. -/
def ofDecimal (negative : Bool) (digits : Nat) (exponent : Int) : Binary64 :=
  if digits = 0 ∨ greatestMagnitude digits.log2 + exponent < -330 then
    .finite negative 0 minExponent
  else if 310 < leastMagnitude digits.log2 + exponent then .infinite negative
  else if 0 ≤ exponent then ofRatio negative (digits * Nat.pow 10 exponent.toNat) 1
  else ofRatio negative digits (Nat.pow 10 (-exponent).toNat)

/-! ## Whole numbers -/

/-- The whole part of a double, limited to the range from 0 to `limit`; what is no number counts
as 0. -/
def toNat (limit : Nat) : Binary64 → Nat
  | .finite true _ _ | .infinite true | .nan => 0
  | .infinite false => limit
  | .finite false significand exponent =>
    let whole := scaleDown significand 1 (-exponent)
    min limit (whole.1 / whole.2)

end Binary64

/-! ## Shortest text

A double is written with the fewest digits that read back as the same double, and of those the
digits that are nearest to it. The text is positional, whatever the magnitude, and has a point.
-/

namespace Binary64

/-- The numbers that are read as a given positive double: those between two bounds, in quarters of
the distance to the next double. The distance downwards is halved at a power of two. The bounds
themselves belong to it when the significand is even. -/
structure Neighbourhood where
  /-- The double, in quarters of the distance. -/
  center : Nat
  below : Nat
  above : Nat
  closed : Bool
  /-- A quarter of the distance is two to this power. -/
  exponent : Int

/-- The numbers that are read as `significand * 2 ^ exponent`. -/
def neighbourhood (significand : Nat) (exponent : Int) : Neighbourhood where
  center := 4 * significand
  below :=
    if significand = Nat.pow 2 52 ∧ minExponent < exponent then 4 * significand - 1
    else 4 * significand - 2
  above := 4 * significand + 2
  closed := significand % 2 = 0
  exponent := exponent - 2

/-- A number of quarters and a multiple of a power of ten, brought to whole numbers. -/
def alignment (binary decimal : Int) : Nat × Nat :=
  -- a negative power counts on the other side, and `Int.toNat` makes it 0 on its own
  (Nat.pow 2 binary.toNat * Nat.pow 10 (-decimal).toNat,
    Nat.pow 10 decimal.toNat * Nat.pow 2 (-binary).toNat)

/-- Whether `digits * 10 ^ decimal` is read as the double. -/
def Neighbourhood.contains (n : Neighbourhood) (digits : Nat) (decimal : Int) : Bool :=
  let (quarter, unit) := alignment n.exponent decimal
  if n.closed then n.below * quarter ≤ digits * unit ∧ digits * unit ≤ n.above * quarter
  else n.below * quarter < digits * unit ∧ digits * unit < n.above * quarter

/-- The multiple of `10 ^ decimal` that is read as the double and is nearest to it, if there is
one; of two that are equally near, the greater. -/
def nearest? (n : Neighbourhood) (decimal : Int) : Option Nat :=
  let (quarter, unit) := alignment n.exponent decimal
  let down := n.center * quarter / unit
  let up := down + 1
  match n.contains down decimal, n.contains up decimal with
  | true, true =>
    if n.center * quarter - down * unit < up * unit - n.center * quarter then some down else some up
  | true, false => some down
  | false, true => some up
  | false, false => none

/-- The decimal magnitude of a positive number `significand * 2 ^ exponent`: the number of digits
before its point, or minus the number of zeros behind it. -/
def magnitude (significand : Nat) (exponent : Int) : Int :=
  if 0 ≤ exponent then (Nat.toDigits 10 (significand * Nat.pow 2 exponent.toNat)).length
  else
    let whole := significand / Nat.pow 2 (-exponent).toNat
    if 0 < whole then (Nat.toDigits 10 whole).length
    else
      -- `m / 2 ^ k = m * 5 ^ k / 10 ^ k`
      (Nat.toDigits 10 (significand * Nat.pow 5 (-exponent).toNat)).length - (-exponent)

/-- The first grid, of `count` digits and more, that has a multiple which is read as the double. -/
def firstGrid (n : Neighbourhood) (magnitude : Int) (count : Nat) : (more : Nat) → Nat × Int
  | 0 => ((nearest? n (magnitude - count)).getD 0, magnitude - count)
  | more + 1 =>
    match nearest? n (magnitude - count) with
    | some digits => (digits, magnitude - count)
    | none => firstGrid n magnitude (count + 1) more

/-- The digits of a positive double, and the power of ten that they count. Seventeen digits always
suffice. The upper end of the first grid is a power of ten: it is written with the digit 1 alone. -/
def shortest (significand : Nat) (exponent : Int) : Nat × Int :=
  let (digits, power) :=
    firstGrid (neighbourhood significand exponent) (magnitude significand exponent) 1 16
  if digits % 10 = 0 then (digits / 10, power + 1) else (digits, power)

/-! ### Text -/

/-- A number `digits * 10 ^ exponent` with a point and at least one digit on both sides of it. -/
def positional (digits : Nat) (exponent : Int) : List Char :=
  let written := Nat.toDigits 10 digits
  if 0 ≤ exponent then written ++ List.replicate exponent.toNat '0' ++ ['.', '0']
  else
    let places := (-exponent).toNat
    if places < written.length then
      written.take (written.length - places) ++ '.' :: written.drop (written.length - places)
    else ['0', '.'] ++ List.replicate (places - written.length) '0' ++ written

/-- The text of a double. -/
def text : Binary64 → String
  | .nan => "NaN"
  | .infinite negative => if negative then "-inf" else "inf"
  | .finite negative significand exponent =>
    let body :=
      if significand = 0 then ['0', '.', '0']
      else
        let (digits, power) := shortest significand exponent
        positional digits power
    String.ofList (if negative then '-' :: body else body)

end Binary64

end IceTcp
