import IceTcp.Decimal
import IceTcp.Json5.Value
import IceTcp.Net.Address
import IceTcp.Text.Quoted

/-!
# Reading values

A reader takes a JSON5 value for something definite: a count, an endpoint, a choice, a list, or a
record with named fields. Everything is read from left to right and the first error wins.

A record is written as an object or as an array. In an object the fields stand in any order, none
of them twice; other entries are only checked. In an array the fields stand in the order of their
declaration, the last ones may be left out, and what follows them is not looked at.

Main results:

* `readEntries_cons`, `readItems_cons`: a record is read one field after the other.
* `readEntries_append`: the entries of an object may be cut anywhere.
-/

namespace IceTcp.Json5

/-! ## Why a value does not fit

A JSON5 value that is read as something definite may be of the wrong kind, lack a field, have one
twice, or name something that is not known. `ReadError.message` words the causes.
-/

/-- What a value was found to be, in messages. -/
def Found.text : Found → String
  | .unit => "unit value"
  | .boolean value => s!"boolean `{value}`"
  | .integer value => s!"integer `{value}`"
  | .float value => s!"floating point `{value.text}`"
  | .string text => s!"string {Quoted.text text}"
  | .sequence => "sequence"
  | .map => "map"

/-- Why a value does not fit what it is read as. -/
inductive ReadError where
  /-- Part of the value cannot be converted. -/
  | conversion (error : ConversionError)
  /-- The value is of another kind than expected. -/
  | invalidType (found : Found) (expected : String)
  /-- An array is too short. -/
  | invalidLength (length : Nat) (expected : String)
  /-- A field occurs twice. -/
  | duplicateField (name : String)
  /-- A field does not occur and has no default. -/
  | missingField (name : String)
  /-- A choice is none of those that there are. -/
  | unknownVariant (name : String) (variants : List String)
  /-- A choice is written as an object with no entry. -/
  | emptyObject
  /-- A choice is written as neither a string nor an object. -/
  | noVariant
  /-- A string is no endpoint. -/
  | endpoint
  deriving DecidableEq, Repr

/-- The text that reports the error. -/
def ReadError.message : ReadError → String
  | .conversion error => error.message
  | .invalidType found expected => s!"invalid type: {found.text}, expected {expected}"
  | .invalidLength length expected => s!"invalid length {length}, expected {expected}"
  | .duplicateField name => s!"duplicate field `{name}`"
  | .missingField name => s!"missing field `{name}`"
  | .unknownVariant name variants =>
    let choices := ", ".intercalate (variants.map fun choice => s!"`{choice}`")
    s!"unknown variant `{name}`, expected one of {choices}"
  | .emptyObject => "expected a nonempty object"
  | .noVariant => "expected a string or an object"
  | .endpoint => "invalid socket address syntax"

/-- A way to take a value for something definite. -/
abbrev Reader (α : Type) := Json5 → Except ReadError α

/-! ## Single values -/

/-- The value is not of the kind that is expected. -/
def unexpected {α : Type} (expected : String) : Reader α := fun value =>
  match value.found with
  | .ok found => .error (.invalidType found expected)
  | .error error => .error (.conversion error)

/-- A whole number from 0 to a limit. Any number is one after it has been cut to the range; what is
not a number is not. -/
def readCount (limit : Nat) : Reader Nat
  | .number numeral =>
    match numeral.toDouble with
    | .ok double => .ok (double.toNat limit)
    | .error error => .error (.conversion (.number error))
  | _ => .error (.conversion (.number .number))

/-- An endpoint, written in a string. -/
def readEndpoint : Reader Endpoint
  | .string text => do
    match Net.endpoint? (← (convertText text).mapError ReadError.conversion) with
    | some endpoint => .ok endpoint
    | none => .error .endpoint
  | value => unexpected "socket address" value

/-- Nothing, written as null. -/
def readUnit : Reader Unit
  | .null => .ok ()
  | value => unexpected "unit" value

/-- The choice of a given name. -/
def choose {α : Type} (variants : List (String × α)) (name : Json5Text) : Except ReadError α := do
  let name ← (convertText name).mapError ReadError.conversion
  match variants.lookup name with
  | some choice => .ok choice
  | none => .error (.unknownVariant name (variants.map Prod.fst))

/-- One of several choices, written as its name, or as an object in which the name comes first and
stands for null. -/
def readVariant {α : Type} (variants : List (String × α)) : Reader α
  | .string name => choose variants name
  | .object ((name, value) :: _) => do
    let choice ← choose variants name
    readUnit value
    return choice
  | .object [] => .error .emptyObject
  | _ => .error .noVariant

/-- The items of an array in order. -/
def readList {α : Type} (item : Reader α) : Reader (List α)
  | .array items => items.mapM item
  | value => unexpected "a sequence" value

/-! ## Records -/

/-- A field of a record of type `σ` that is being read. -/
structure RecordField (σ : Type) where
  name : String
  /-- Whether the field has been read already. -/
  isSet : σ → Bool
  /-- Reads the field. -/
  set : Json5 → σ → Except ReadError σ

/-- How a record was written. -/
inductive Layout where
  | object
  | array
  deriving DecidableEq, Repr

/-- Reads one entry of an object: a field that has not been read yet, or something else, which is
only checked. -/
def readEntry {σ : Type} (fields : List (RecordField σ)) (record : σ) (entry : Json5Text × Json5) :
    Except ReadError σ := do
  let name ← (convertText entry.1).mapError ReadError.conversion
  match fields.find? (·.name = name) with
  | none =>
    entry.2.check.mapError ReadError.conversion
    return record
  | some field =>
    if field.isSet record then .error (.duplicateField name) else field.set entry.2 record

/-- Reads the entries of an object in order. -/
def readEntries {σ : Type} (fields : List (RecordField σ)) (record : σ)
    (entries : List (Json5Text × Json5)) : Except ReadError σ :=
  entries.foldlM (readEntry fields) record

/-- Reads the items of an array as the fields in order. -/
def readItems {σ : Type} : List (RecordField σ) → List Json5 → σ → Except ReadError σ
  | field :: fields, item :: items, record => do readItems fields items (← field.set item record)
  | _, _, record => .ok record

/-- A record with these fields, `blank` before any of them has been read. What has been read is
completed by `finish`. -/
def readRecord {σ α : Type} (name : String) (fields : List (RecordField σ)) (blank : σ)
    (finish : Layout → σ → Except ReadError α) : Reader α
  | .object entries => do finish .object (← readEntries fields blank entries)
  | .array items => do finish .array (← readItems fields items blank)
  | value => unexpected s!"struct {name}" value

theorem readEntries_cons {σ : Type} (fields : List (RecordField σ)) (record : σ)
    (entry : Json5Text × Json5) (entries : List (Json5Text × Json5)) :
    readEntries fields record (entry :: entries) =
      (do readEntries fields (← readEntry fields record entry) entries) := rfl

/-- The entries of an object may be cut anywhere: the second part goes on where the first ended. -/
theorem readEntries_append {σ : Type} (fields : List (RecordField σ)) (record : σ)
    (first second : List (Json5Text × Json5)) :
    readEntries fields record (first ++ second) =
      (do readEntries fields (← readEntries fields record first) second) := by
  simp only [readEntries, List.foldlM_append]

theorem readItems_cons {σ : Type} (field : RecordField σ) (fields : List (RecordField σ)) (item : Json5)
    (items : List Json5) (record : σ) :
    readItems (field :: fields) (item :: items) record =
      (do readItems fields items (← field.set item record)) := rfl

end IceTcp.Json5
