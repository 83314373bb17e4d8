import SetQuery.Json
import SetQuery.Decimal.Shortest

/-!
# Reading typed data from JSON

The readers accept a value of the expected shape and otherwise say what they found. An alternative
is written as its bare name, or as an object with its name as the only member. The members of a
record are read in the order in which the object has them, and the first fault ends the reading.
-/

namespace SetQuery.Json

/-- The number nearest to a fraction. -/
def nearest (mantissa : Int) (places : Nat) : Float :=
  let magnitude := Float.ofScientific mantissa.natAbs true places
  if mantissa < 0 then -magnitude else magnitude

/-- What a reader says it found when it meets the value. An integer that does not fit in 64 bits is
taken for a number with a fraction. -/
def found : Json → Found
  | .null => .null
  | .bool value => .boolean value
  | .int value =>
    if -(UInt64.size / 2 : Int) ≤ value ∧ value < UInt64.size then .integer value
    else .number (NumberStyle.compact.text (nearest value 0))
  | .fraction mantissa places => .number (NumberStyle.compact.text (nearest mantissa places))
  | .string value => .string value
  | .array _ => .sequence
  | .object _ => .map

/-- The value of a member. -/
def member? : Json → String → Option Json
  | .object members, name => members.lookup name
  | _, _ => none

/-- A string. -/
def readString : Json → Except ShapeError String
  | .string value => .ok value
  | other => .error (.invalidType other.found "a string")

/-- A truth value. -/
def readBool : Json → Except ShapeError Bool
  | .bool value => .ok value
  | other => .error (.invalidType other.found "a boolean")

/-- A natural number below a bound; the kind is the name of the bounded type. -/
def readNat (bound : Nat) (kind : String) (value : Json) : Except ShapeError Nat :=
  match value, value.found with
  | .int n, .integer _ =>
    if 0 ≤ n ∧ n < bound then .ok n.toNat else .error (.invalidValue (.integer n) kind)
  | _, found => .error (.invalidType found kind)

/-- A value that may be null. -/
def readOption {α : Type} (read : Json → Except ShapeError α) : Json → Except ShapeError (Option α)
  | .null => .ok none
  | value => (read value).map some

/-- Nothing: the content of an alternative that has none. -/
def readNothing : Json → Except ShapeError Unit
  | .null => .ok ()
  | other => .error (.invalidType other.found "unit")

/-- One of several names. -/
def readName {α : Type} (options : List (String × α)) : Json → Except ShapeError α
  | .string name => alternative options name
  | .object [(name, content)] => do
    let value ← alternative options name
    readNothing content
    return value
  | .object _ => .error (.invalidValue .map "map with a single key")
  | other => .error (.invalidType other.found "string or map")

/-! ## Records -/

/-- A field of a record: its name, and how its value changes the record. -/
structure RecordField (σ : Type) where
  name : String
  read : σ → Json → Except ShapeError σ

/-- A field whose value is put into the record. -/
def RecordField.of {σ α : Type} (name : String) (read : Json → Except ShapeError α)
    (put : σ → α → σ) : RecordField σ where
  name := name
  read record value := (read value).map (put record)

/-- The record after the members of an object, behind fields that were read already. Members that
are no fields are passed over, and a field is there once at most. -/
def readFields {σ : Type} (fields : List (RecordField σ)) (seen : List String) (record : σ) :
    List (String × Json) → Except ShapeError σ
  | [] => .ok record
  | (name, value) :: rest =>
    match fields.find? (·.name = name) with
    | none => readFields fields seen record rest
    | some field =>
      if name ∈ seen then .error (.duplicateField name)
      else do
        let record ← field.read record value
        readFields fields (name :: seen) record rest

end SetQuery.Json
