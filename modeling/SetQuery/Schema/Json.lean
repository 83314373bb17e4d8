import SetQuery.Schema
import SetQuery.SqlType.Json

/-!
# Schemas in JSON

A schema is written as the array of its columns. Reading goes through the same check as
`Schema.ofColumns`, so JSON is no way around it.
-/

namespace SetQuery

/-- The names of the nullabilities. -/
def Nullability.options : List (String × Nullability) :=
  [("not_null", .notNull), ("nullable", .nullable), ("unknown", .unknown)]

/-- Why a JSON value is no schema. -/
inductive SchemaReadError
  | shape (fault : ShapeError)
  | schema (fault : SchemaError)
deriving DecidableEq, Repr

/-- The text of the fault. -/
def SchemaReadError.message : SchemaReadError → String
  | .shape fault => fault.message
  | .schema fault => fault.message

namespace Column

/-- The column as JSON. -/
def toJson (c : Column) : Json :=
  .object [("name", .string c.name), ("sql_type", c.type.toJson),
    ("nullability", .string c.nullability.name)]

/-- What the members of an object say about a column. -/
structure Draft where
  name : Option String := none
  type : Option SqlType := none
  nullability : Nullability := .unknown

/-- The fields of a column. -/
def fields : List (Json.RecordField Draft) :=
  [.of "name" Json.readString fun draft name => { draft with name := some name },
    .of "sql_type" SqlType.ofJson fun draft type => { draft with type := some type },
    .of "nullability" (Json.readName Nullability.options) fun draft nullability =>
      { draft with nullability := nullability }]

/-- A column from an object; its name and type must be there. -/
def ofMembers (members : List (String × Json)) : Except ShapeError Column := do
  match ← Json.readFields fields [] {} members with
  | ⟨some name, some type, nullability⟩ => return ⟨name, type, nullability⟩
  | ⟨none, _, _⟩ => .error (.missingField "name")
  | ⟨_, none, _⟩ => .error (.missingField "sql_type")

/-- A column from the array of its parts; the last one may be missing. -/
def ofItems : List Json → Except ShapeError Column
  | [] => .error (.invalidLength 0 "struct Column with 3 elements")
  | name :: rest => do
    let name ← Json.readString name
    match rest with
    | [] => .error (.invalidLength 1 "struct Column with 3 elements")
    | type :: rest => do
      let type ← SqlType.ofJson type
      match rest with
      | [] => return ⟨name, type, .unknown⟩
      | nullability :: rest => do
        let nullability ← Json.readName Nullability.options nullability
        if rest.isEmpty then return ⟨name, type, nullability⟩
        else .error (.invalidLength (rest.length + 3) "fewer elements in array")

/-- The column that a JSON value stands for. -/
def ofJson : Json → Except ShapeError Column
  | .object members => ofMembers members
  | .array items => ofItems items
  | other => .error (.invalidType other.found "struct Column")

end Column

namespace Schema

/-- The schema as JSON. -/
def toJson (s : Schema) : Json := .array (s.columns.map (·.toJson))

/-- The columns that a JSON value lists. -/
def columnsOfJson : Json → Except ShapeError (List Column)
  | .array items => items.mapM Column.ofJson
  | other => .error (.invalidType other.found "a sequence")

/-- The schema that a JSON value stands for. -/
def ofJson (value : Json) : Except SchemaReadError Schema :=
  match columnsOfJson value with
  | .error fault => .error (.shape fault)
  | .ok columns => (ofColumns columns).mapError .schema

end Schema

end SetQuery
