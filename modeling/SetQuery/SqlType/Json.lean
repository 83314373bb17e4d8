import SetQuery.Json.Reader
import SetQuery.SqlType

/-!
# Column types in JSON

A type without parameters is the string of its name; a type with parameters is an object whose only
member has the name of the type and holds the parameters.
-/

namespace SetQuery

/-- The names of the integer widths. -/
def IntWidth.options : List (String × IntWidth) :=
  [("I8", .i8), ("I16", .i16), ("I32", .i32), ("I64", .i64)]

/-- The name of the width in data. -/
def IntWidth.name : IntWidth → String
  | .i8 => "I8"
  | .i16 => "I16"
  | .i32 => "I32"
  | .i64 => "I64"

/-- The names of the floating-point precisions. -/
def FloatWidth.options : List (String × FloatWidth) := [("F32", .single), ("F64", .double)]

/-- The name of the precision in data. -/
def FloatWidth.name : FloatWidth → String
  | .single => "F32"
  | .double => "F64"

namespace SqlType

/-- The names of all types. -/
def tags : List String :=
  ["Boolean", "Integer", "HugeInt", "Float", "Decimal", "String", "Date", "Time", "Timestamp",
    "Interval", "Binary", "Json", "Uuid", "Array", "Unknown"]

/-- An object with one member. -/
def tagged (tag : String) (content : Json) : Json := .object [(tag, content)]

/-- The type as JSON. -/
def toJson : SqlType → Json
  | .boolean => .string "Boolean"
  | .integer width => tagged "Integer" (.object [("bits", .string width.name)])
  | .hugeInt => .string "HugeInt"
  | .float width => tagged "Float" (.object [("bits", .string width.name)])
  | .decimal precision scale =>
    tagged "Decimal" (.object
      [("precision", Json.ofOption (fun n => .int n.toNat) precision),
        ("scale", Json.ofOption (fun n => .int n.toNat) scale)])
  | .text maxLength =>
    tagged "String" (.object [("max_length", Json.ofOption (fun n => .int n.toNat) maxLength)])
  | .date => .string "Date"
  | .time => .string "Time"
  | .timestamp => .string "Timestamp"
  | .interval => .string "Interval"
  | .binary => .string "Binary"
  | .json => .string "Json"
  | .uuid => .string "Uuid"
  | .array element => tagged "Array" element.toJson
  | .unknown name => tagged "Unknown" (.string name)

/-- The type of a name, if types of that name have no parameters. -/
def plain? : String → Option SqlType
  | "Boolean" => some .boolean
  | "HugeInt" => some .hugeInt
  | "Date" => some .date
  | "Time" => some .time
  | "Timestamp" => some .timestamp
  | "Interval" => some .interval
  | "Binary" => some .binary
  | "Json" => some .json
  | "Uuid" => some .uuid
  | _ => none

/-- A type written as its bare name. -/
def ofName (tag : String) : Except ShapeError SqlType :=
  match plain? tag with
  | some type => .ok type
  | none =>
    if tag ∈ tags then
      .error (.invalidType .bareName
        (if tag = "Array" ∨ tag = "Unknown" then "newtype variant" else "struct variant"))
    else .error (.unknownVariant tag tags)

/-- The parameters of a type, which starts from what they are if none is stated. -/
def readParameters {σ : Type} (fields : List (Json.RecordField σ)) (start : σ) :
    Json → Except ShapeError σ
  | .object members => Json.readFields fields [] start members
  | other => .error (.invalidType other.found "struct variant")

/-- The width among the parameters of a type. -/
def readWidth {α : Type} (options : List (String × α)) (content : Json) : Except ShapeError α := do
  let bits : Json.RecordField (Option α) := .of "bits" (Json.readName options) fun _ => some
  match ← readParameters [bits] none content with
  | some width => return width
  | none => .error (.missingField "bits")

/-- A number of digits. -/
def readDigitCount (value : Json) : Except ShapeError UInt16 :=
  (Json.readNat UInt16.size "u16" value).map UInt16.ofNat

/-- A length. -/
def readLength (value : Json) : Except ShapeError UInt32 :=
  (Json.readNat UInt32.size "u32" value).map UInt32.ofNat

/-- The parameters of a decimal type. -/
def digitFields : List (Json.RecordField (Option UInt16 × Option UInt16)) :=
  [.of "precision" (Json.readOption readDigitCount) fun digits precision => (precision, digits.2),
    .of "scale" (Json.readOption readDigitCount) fun digits scale => (digits.1, scale)]

/-- The parameter of a text type. -/
def lengthFields : List (Json.RecordField (Option UInt32)) :=
  [.of "max_length" (Json.readOption readLength) fun _ length => length]

/-- The type that a JSON value stands for. -/
def ofJson : Json → Except ShapeError SqlType
  | .string tag => ofName tag
  | .object [(tag, content)] =>
    match tag with
    | "Integer" => (readWidth IntWidth.options content).map .integer
    | "Float" => (readWidth FloatWidth.options content).map .float
    | "Decimal" => (readParameters digitFields (none, none) content).map fun (precision, scale) =>
        .decimal precision scale
    | "String" => (readParameters lengthFields none content).map .text
    | "Array" => (ofJson content).map .array
    | "Unknown" => (Json.readString content).map .unknown
    | _ =>
      match plain? tag with
      | some type => (Json.readNothing content).map fun _ => type
      | none => .error (.unknownVariant tag tags)
  | .object _ => .error (.invalidValue .map "map with a single key")
  | other => .error (.invalidType other.found "string or map")

end SqlType

end SetQuery
