import SetQuery.SqlType
import SetQuery.Text.Case
import SetQuery.Text.Numeral

/-!
# Reading type names

A type is written in any case, with blanks around it. A trailing `[]` makes an array of the type
before it, a keyword stands for its type, and text and decimal types may carry parameters in
parentheses. Any other text is the name of an unknown type, in upper case.
-/

namespace SetQuery.SqlType

open Text

/-- The type of a keyword in upper case. -/
def ofKeyword? : String → Option SqlType
  | "BOOL" | "BOOLEAN" => some .boolean
  | "TINYINT" | "INT1" => some (.integer .i8)
  | "SMALLINT" | "INT2" => some (.integer .i16)
  | "INT" | "INTEGER" | "INT4" | "INT32" => some (.integer .i32)
  | "BIGINT" | "INT8" | "INT64" | "LONG" => some (.integer .i64)
  | "HUGEINT" | "INT128" => some .hugeInt
  | "FLOAT" | "REAL" | "FLOAT4" | "FLOAT32" => some (.float .single)
  | "DOUBLE" | "DOUBLE PRECISION" | "FLOAT8" | "FLOAT64" => some (.float .double)
  | "DECIMAL" | "NUMERIC" => some (.decimal none none)
  | "VARCHAR" | "TEXT" | "STRING" | "CHAR" | "CHARACTER VARYING" => some (.text none)
  | "DATE" => some .date
  | "TIME" => some .time
  | "TIMESTAMP" | "DATETIME" => some .timestamp
  | "INTERVAL" => some .interval
  | "BLOB" | "BINARY" | "BYTEA" | "VARBINARY" | "BYTES" => some .binary
  | "JSON" | "JSONB" => some .json
  | "UUID" => some .uuid
  | _ => none

/-- What stands before the first opening parenthesis, and what stands between it and the last
closing one. What follows the last closing parenthesis is left out. -/
def parameters? (s : List Char) : Option (List Char × List Char) :=
  match s.dropWhile (· != '(') with
  | [] => none
  | _ :: rest =>
    match rest.reverse.dropWhile (· != ')') with
    | [] => none
    | _ :: inside => some (s.takeWhile (· != '('), inside.reverse)

/-- The length of a text type, from its parameters. -/
def length? (params : List Char) : Option UInt32 :=
  (decimal? UInt32.size (trim params)).map UInt32.ofNat

/-- A number of digits. -/
def digitCount? (param : List Char) : Option UInt16 :=
  (decimal? UInt16.size (trim param)).map UInt16.ofNat

/-- A decimal type from its parameters: the first is the precision, the second the scale; a second
one that is no number, and any further one, is passed over. -/
def decimalOf? (params : List Char) : Option SqlType :=
  match split (· == ',') params with
  | [] => none
  | p :: rest => (digitCount? p).map fun precision =>
      .decimal (some precision) (rest.head?.bind digitCount?)

/-- A text or decimal type with parameters. -/
def ofParameterized? (s : List Char) : Option SqlType :=
  (parameters? s).bind fun (base, params) =>
    match String.ofList (trim base) with
    | "VARCHAR" | "CHAR" | "CHARACTER VARYING" | "TEXT" | "STRING" =>
      (length? params).map fun n => .text (some n)
    | "DECIMAL" | "NUMERIC" => decimalOf? params
    | _ => none

/-- The type of a text without blanks at its ends and without a trailing `[]`. -/
def ofScalarText (s : List Char) : SqlType :=
  let s := upper s
  match ofKeyword? (String.ofList s) with
  | some type => type
  | none => (ofParameterized? s).getD (.unknown (String.ofList s))

/-- The type of a text given from its end to its start. -/
def ofReversed : List Char → SqlType
  | [] => ofScalarText []
  | c :: r =>
    if isBlank c then ofReversed r
    else match c, r with
      | ']', '[' :: inner => .array (ofReversed inner)
      | _, _ => ofScalarText ((c :: r).reverse.dropWhile isBlank)

/-- The type that a text names. -/
def ofText (s : String) : SqlType := ofReversed s.toList.reverse

end SetQuery.SqlType
