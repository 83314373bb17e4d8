import SetQuery.Text.Quoted

/-!
# Data of the wrong shape

A reader of structured data knows what it expects at each place. `ShapeError` says what it found
instead, and `ShapeError.message` puts that into words.
-/

namespace SetQuery

/-- What a reader found. -/
inductive Found
  /-- The null of JSON. -/
  | null
  /-- The null of YAML. -/
  | unit
  | boolean (value : Bool)
  | integer (value : Int)
  /-- An integer that does not fit in 64 bits. -/
  | wideInteger (value : Int)
  /-- A number with a fraction or an exponent, as it is shown. -/
  | number (text : String)
  | string (value : String)
  | sequence
  | map
  /-- The bare name of an alternative. -/
  | bareName
deriving DecidableEq, Repr

/-- The words for what was found. -/
def Found.title : Found → String
  | .null => "null"
  | .unit => "unit value"
  | .boolean value => "boolean `" ++ (if value then "true" else "false") ++ "`"
  | .integer value => "integer `" ++ toString value ++ "`"
  | .wideInteger value =>
    "integer `" ++ toString value ++ "` as " ++ (if value < 0 then "i128" else "u128")
  | .number text => "floating point `" ++ text ++ "`"
  | .string value => "string " ++ Text.quoted value
  | .sequence => "sequence"
  | .map => "map"
  | .bareName => "unit variant"

/-- How data differs from what was expected. -/
inductive ShapeError
  | invalidType (found : Found) (expected : String)
  | invalidValue (found : Found) (expected : String)
  | invalidLength (length : Nat) (expected : String)
  | unknownField (name : String) (known : List String)
  | unknownVariant (name : String) (known : List String)
  | missingField (name : String)
  | duplicateField (name : String)
  | blankBackendName
deriving DecidableEq, Repr

/-- The names to choose from. -/
def alternatives (names : List String) : String :=
  match names.map fun name => "`" ++ name ++ "`" with
  | [a, b] => a ++ " or " ++ b
  | [a] => a
  | quoted => "one of " ++ ", ".intercalate quoted

/-- The text of the difference. -/
def ShapeError.message : ShapeError → String
  | .invalidType found expected => "invalid type: " ++ found.title ++ ", expected " ++ expected
  | .invalidValue found expected => "invalid value: " ++ found.title ++ ", expected " ++ expected
  | .invalidLength length expected =>
    "invalid length " ++ toString length ++ ", expected " ++ expected
  | .unknownField name known => "unknown field `" ++ name ++ "`, expected " ++ alternatives known
  | .unknownVariant name known =>
    "unknown variant `" ++ name ++ "`, expected " ++ alternatives known
  | .missingField name => "missing field `" ++ name ++ "`"
  | .duplicateField name => "duplicate field `" ++ name ++ "`"
  | .blankBackendName => "backend name must not be empty"

/-- The alternative of a name. -/
def alternative {α : Type} (options : List (String × α)) (name : String) : Except ShapeError α :=
  match options.lookup name with
  | some value => .ok value
  | none => .error (.unknownVariant name (options.map (·.1)))

end SetQuery
