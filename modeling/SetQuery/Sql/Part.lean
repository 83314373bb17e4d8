import SetQuery.Dialect.Identifier
import SetQuery.Dialect.Operator

/-!
# SQL as a sequence of parts

A statement is put together from parts: words of the language, names that are quoted when they are
spelled out, parentheses, operators between queries, and texts that users wrote. Only the last are
spelled as they are; every other name of a user goes through the quotes of the dialect.
-/

namespace SetQuery.Sql

/-- A part of a statement. -/
inductive Part
  /-- Keywords, punctuation, numbers and type names, with the blanks around them. -/
  | word (text : String)
  | column (name : String)
  /-- A table, with dots between the parts of its name. -/
  | table (name : String)
  /-- A name that no user chose. -/
  | generated (name : String)
  | opening
  | closing
  /-- The operator between two queries, with a blank on each side. -/
  | operator (op : SetOp)
  /-- SQL that a user wrote. -/
  | verbatim (sql : String)
deriving DecidableEq, Repr

/-- The text of a part in a dialect. -/
def Part.spell (d : Dialect) : Part → String
  | .word text => text
  | .column name => d.quoteIdent name
  | .table name => d.quoteQualified name
  | .generated name => d.quoteIdent name
  | .opening => "("
  | .closing => ")"
  | .operator op => " " ++ d.operator op ++ " "
  | .verbatim sql => sql

/-- The text of a sequence of parts in a dialect. -/
def spell (d : Dialect) (parts : List Part) : String := String.join (parts.map (·.spell d))

/-- Sequences of parts with commas between them. -/
def commaSeparated : List (List Part) → List Part
  | [] => []
  | [parts] => parts
  | parts :: rest => parts ++ .word ", " :: commaSeparated rest

end SetQuery.Sql
