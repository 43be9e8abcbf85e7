import IceTcp.Decimal
import IceTcp.Text.Digits

/-!
# JSON5 values

A JSON5 text denotes a tree of values. Numerals are kept as they are written, and the entries of an
object in the order of the text, repeated keys included. A string or a key may hold an escape that
names no character; then it has no text.
-/

namespace IceTcp

/-! ## Numerals

A numeral is kept as it is written: its sign, and digits in base ten with or without fraction and
exponent, digits in base sixteen, or the words for infinity and for what is no number. What number
it stands for depends on where it is read. Where a number is asked for it is a double; where
anything would do it is a whole number of 64 bits if it is written as one.
-/

/-- The exponent of a numeral. -/
structure NumeralExponent where
  negative : Bool
  digits : List Char
  deriving DecidableEq, Repr

/-- A numeral without its sign. -/
inductive Magnitude where
  | infinity
  | nan
  | hex (digits : List Char)
  | decimal (whole : List Char) (fraction : Option (List Char)) (exponent : Option NumeralExponent)
  deriving DecidableEq, Repr

/-- The sign of a numeral. -/
inductive Sign where
  | plus
  | minus
  deriving DecidableEq, Repr

/-- A numeral as it is written. -/
structure Numeral where
  sign : Option Sign
  magnitude : Magnitude
  deriving DecidableEq, Repr

/-- Why a numeral stands for no number of the kind asked for. -/
inductive NumberError where
  /-- It is no number. -/
  | number
  /-- It is beyond every double. -/
  | tooLarge
  /-- It is no whole number of 64 bits. -/
  | integer
  /-- It has more than 32 bits in base sixteen. -/
  | hex
  deriving DecidableEq, Repr

/-- The text that reports the error. -/
def NumberError.message : NumberError → String
  | .number => "error parsing number"
  | .tooLarge => "error parsing number: too large"
  | .integer => "error parsing integer"
  | .hex => "error parsing hex"

namespace Numeral

/-- The number that decimal digits denote. -/
def decimalValue (digits : List Char) : Nat :=
  Digits.value 10 (digits.map fun c => c.toNat - '0'.toNat)

/-- The digits of an exponent are read until they make this number or more. -/
def exponentLimit : Nat := 65536

/-- The number that the digits of an exponent count for: no further digits count once the limit is
reached. -/
def exponentMagnitude (digits : List Char) : Nat :=
  digits.foldl (fun n c => if n < exponentLimit then c.toNat - '0'.toNat + 10 * n else n) 0

/-- The number that an exponent counts for. -/
def exponentValue : Option NumeralExponent → Int
  | none => 0
  | some ⟨false, digits⟩ => exponentMagnitude digits
  | some ⟨true, digits⟩ => -(exponentMagnitude digits : Int)

/-- Digits in base sixteen as a number of 32 bits. -/
def hexValue (digits : List Char) : Except NumberError Nat :=
  if Hex.value digits < UInt32.size then .ok (Hex.value digits) else .error .hex

/-- The double that a numeral stands for. Only an infinity with no sign or a minus is infinite. -/
def toDouble (numeral : Numeral) : Except NumberError Binary64 :=
  match numeral.magnitude, numeral.sign with
  | .infinity, none => .ok (.infinite false)
  | .infinity, some .minus => .ok (.infinite true)
  | .nan, none | .nan, some .minus => .ok .nan
  | .infinity, some .plus | .nan, some .plus => .error .tooLarge
  | .hex digits, none => do
    return .ofDecimal false (← hexValue digits) 0
  | .hex _, some _ => .error .number
  | .decimal whole fraction exponent, sign =>
    let digits := whole ++ fraction.getD []
    let power := exponentValue exponent - (fraction.getD []).length
    match Binary64.ofDecimal (sign = some .minus) (decimalValue digits) power with
    | .infinite _ => .error .tooLarge
    | double => .ok double

/-- Whether a numeral is written as a whole number. -/
def isInteger (numeral : Numeral) : Bool :=
  match numeral.magnitude with
  | .infinity | .nan => false
  | .hex digits => numeral.sign.isNone || !digits.any fun c => c = 'e' || c = 'E'
  | .decimal _ fraction exponent => fraction.isNone && exponent.isNone

/-- The whole number of 64 bits that a numeral stands for. -/
def toInteger (numeral : Numeral) : Except NumberError Int :=
  match numeral.magnitude, numeral.sign with
  | .hex digits, none => do
    return (← hexValue digits)
  | .decimal whole none none, sign =>
    let value : Int :=
      if sign = some .minus then -(decimalValue whole : Int) else decimalValue whole
    if Int64.minValue.toInt ≤ value ∧ value ≤ Int64.maxValue.toInt then .ok value else .error .integer
  | _, _ => .error .integer

end Numeral

/-! ## Trees of values -/

/-- The text of a string or a key, if all of its escapes name characters. -/
abbrev Json5Text := Option String

/-- A JSON5 value. -/
inductive Json5 where
  | null
  | bool (value : Bool)
  | number (numeral : Numeral)
  | string (text : Json5Text)
  | array (items : List Json5)
  | object (entries : List (Json5Text × Json5))
  deriving Repr

namespace Json5

/-- A value of a kind that was not asked for. -/
inductive Found where
  | unit
  | boolean (value : Bool)
  | integer (value : Int)
  | float (value : Binary64)
  | string (text : String)
  | sequence
  | map
  deriving DecidableEq, Repr

/-- Why a value cannot be converted. -/
inductive ConversionError where
  /-- An escape names no character. -/
  | escape
  /-- A numeral stands for no number. -/
  | number (error : NumberError)
  deriving DecidableEq, Repr

/-- The text that reports the error. -/
def ConversionError.message : ConversionError → String
  | .escape => "error parsing hex prefix"
  | .number error => error.message

/-- The text of a string or a key. -/
def convertText : Json5Text → Except ConversionError String
  | some text => .ok text
  | none => .error .escape

/-- The number that a numeral stands for where anything would do. -/
def convertNumeral (numeral : Numeral) : Except ConversionError Found :=
  if numeral.isInteger then
    (numeral.toInteger.map Found.integer).mapError ConversionError.number
  else (numeral.toDouble.map Found.float).mapError ConversionError.number

/-- What a value is, as far as it can be told without looking into arrays and objects. -/
def found : Json5 → Except ConversionError Found
  | .null => .ok .unit
  | .bool value => .ok (.boolean value)
  | .number numeral => convertNumeral numeral
  | .string text => (convertText text).map Found.string
  | .array _ => .ok .sequence
  | .object _ => .ok .map

mutual

/-- Converts a value and all that it holds, from left to right, and forgets the result. -/
def check : Json5 → Except ConversionError Unit
  | .null | .bool _ => .ok ()
  | .number numeral => (convertNumeral numeral).map fun _ => ()
  | .string text => (convertText text).map fun _ => ()
  | .array items => checkItems items
  | .object entries => checkEntries entries

/-- Converts the items of an array in order. -/
def checkItems : List Json5 → Except ConversionError Unit
  | [] => .ok ()
  | item :: items => do
    check item
    checkItems items

/-- Converts the entries of an object in order, each key before its value. -/
def checkEntries : List (Json5Text × Json5) → Except ConversionError Unit
  | [] => .ok ()
  | (key, value) :: entries => do
    let _ ← convertText key
    check value
    checkEntries entries

end

end Json5

end IceTcp
