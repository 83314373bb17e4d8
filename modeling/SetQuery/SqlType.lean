/-!
# Column types

`SqlType` is the declared type of a column. Two types *widen* to a common type when every value of
either is a value of it: integers by width, floating-point numbers by width, texts by length,
decimals of one scale by precision, and arrays element by element. All other pairs of distinct
types have no common type.
-/

namespace SetQuery

/-- The width of an integer type in bits. -/
inductive IntWidth
  | i8 | i16 | i32 | i64
deriving DecidableEq, Repr

/-- The number of bits. -/
def IntWidth.bits : IntWidth → Nat
  | .i8 => 8
  | .i16 => 16
  | .i32 => 32
  | .i64 => 64

/-- The wider of two widths. -/
def IntWidth.max (a b : IntWidth) : IntWidth := if a.bits ≤ b.bits then b else a

/-- The precision of a floating-point type. -/
inductive FloatWidth
  | single | double
deriving DecidableEq, Repr

/-- The more precise of two floating-point types. -/
def FloatWidth.max : FloatWidth → FloatWidth → FloatWidth
  | .single, .single => .single
  | _, _ => .double

/-- The declared type of a column. -/
inductive SqlType
  | boolean
  | integer (width : IntWidth)
  /-- The integers of 128 bits. -/
  | hugeInt
  | float (width : FloatWidth)
  /-- Exact numbers with a number of digits and a number of digits after the point, if stated. -/
  | decimal (precision scale : Option UInt16)
  /-- Texts of at most the stated length. -/
  | text (maxLength : Option UInt32)
  | date
  | time
  | timestamp
  | interval
  | binary
  | json
  | uuid
  | array (element : SqlType)
  /-- A type known by its name alone; only the same name matches it. -/
  | unknown (name : String)
deriving DecidableEq, Repr, Inhabited

namespace SqlType

/-- The larger of two precisions; a stated precision has no common one with an unstated one. -/
def widenPrecision : Option UInt16 → Option UInt16 → Option (Option UInt16)
  | some a, some b => some (some (max a b))
  | none, none => some none
  | _, _ => none

/-- The larger of two lengths; no stated length means no bound. -/
def widenLength : Option UInt32 → Option UInt32 → Option UInt32
  | some a, some b => some (max a b)
  | _, _ => none

/-- The narrowest type to which both types widen without loss. -/
def widen (a b : SqlType) : Option SqlType :=
  if a = b then some a
  else match a, b with
    | .integer v, .integer w => some (.integer (v.max w))
    | .hugeInt, .integer _ => some .hugeInt
    | .integer _, .hugeInt => some .hugeInt
    | .float v, .float w => some (.float (v.max w))
    | .decimal p s, .decimal q t =>
      if s = t then (widenPrecision p q).map fun precision => .decimal precision s else none
    | .text m, .text n => some (.text (widenLength m n))
    | .array x, .array y => (widen x y).map .array
    | _, _ => none

/-- The standard name of the type. -/
def name : SqlType → String
  | .boolean => "BOOLEAN"
  | .integer .i8 => "TINYINT"
  | .integer .i16 => "SMALLINT"
  | .integer .i32 => "INTEGER"
  | .integer .i64 => "BIGINT"
  | .hugeInt => "HUGEINT"
  | .float .single => "FLOAT"
  | .float .double => "DOUBLE"
  | .decimal (some p) (some s) => "DECIMAL(" ++ toString p.toNat ++ "," ++ toString s.toNat ++ ")"
  | .decimal (some p) none => "DECIMAL(" ++ toString p.toNat ++ ")"
  | .decimal none _ => "DECIMAL"
  | .text (some n) => "VARCHAR(" ++ toString n.toNat ++ ")"
  | .text none => "VARCHAR"
  | .date => "DATE"
  | .time => "TIME"
  | .timestamp => "TIMESTAMP"
  | .interval => "INTERVAL"
  | .binary => "BLOB"
  | .json => "JSON"
  | .uuid => "UUID"
  | .array element => element.name ++ "[]"
  | .unknown name => name

@[simp] theorem widen_self (a : SqlType) : a.widen a = some a := by
  rw [widen.eq_def]; simp

end SqlType

end SetQuery
