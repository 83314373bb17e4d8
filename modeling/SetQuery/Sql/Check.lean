import SetQuery.Dialect
import SetQuery.Sql.Token
import SetQuery.Text.Case
import SetQuery.Text.Numeral

/-!
# Checking that a text is SQL

`check` counts the statements of a text. A statement starts with a parenthesis or one of the words
that start statements, and reaches to the next semicolon. The check looks no further, and it is the
same for all dialects.

A message says where it found something else. The position that is reported beside it is read back
from the message, where it may find numbers that belong to the text being checked.
-/

namespace SetQuery.Sql

/-- Why a text is no SQL. -/
inductive CheckError
  /-- There is no statement. -/
  | empty
  /-- A statement starts with something that starts no statement. -/
  | unexpected (detail : String) (place : Position)
deriving DecidableEq, Repr

/-- The text of the error. -/
def CheckError.message : CheckError → String
  | .empty => "[S002] SQL is empty"
  | .unexpected detail place => "[S001] SQL parse error at line " ++ toString place.line ++
      ", column " ++ toString place.column ++ ": " ++ detail

/-! ## The position in a message -/

/-- What follows the first occurrence of a text. -/
def behind? (mark : List Char) : List Char → Option (List Char)
  | [] => if mark.isEmpty then some [] else none
  | c :: r => if mark.isPrefixOf (c :: r) then some ((c :: r).drop mark.length) else behind? mark r

/-- The line number behind the first mark of one. -/
def lineOf? (message : List Char) : Option Nat := do
  let rest ← behind? "Line: ".toList message
  if ',' ∈ rest then Text.decimal? UInt64.size (Text.trim (rest.takeWhile (· != ','))) else none

/-- The column number behind the first mark of one. -/
def columnOf? (message : List Char) : Option Nat := do
  let rest ← behind? "Column: ".toList message
  Text.decimal? UInt64.size (rest.takeWhile Char.isDigit)

/-- The position that a message tells; without one both numbers are 0. -/
def positionIn (message : String) : Position :=
  match lineOf? message.toList, columnOf? message.toList with
  | some line, some column => ⟨line, column⟩
  | _, _ => ⟨0, 0⟩

/-! ## Statements -/

/-- The words that start statements. -/
def statementWords : List String :=
  ["ALTER", "ANALYZE", "ASSERT", "ATTACH", "BEGIN", "CACHE", "CALL", "CASE", "CLOSE", "COMMENT",
    "COMMIT", "COPY", "CREATE", "DEALLOCATE", "DECLARE", "DELETE", "DENY", "DESC", "DESCRIBE",
    "DETACH", "DISCARD", "DROP", "END", "EXEC", "EXECUTE", "EXPLAIN", "EXPORT", "FETCH", "FLUSH",
    "FROM", "GRANT", "IF", "INSERT", "INSTALL", "KILL", "LISTEN", "LOAD", "LOCK", "MERGE", "MSCK",
    "NOTIFY", "OPEN", "OPTIMIZE", "PRAGMA", "PREPARE", "PRINT", "RAISERROR", "RELEASE", "REMOVE",
    "RENAME", "REPLACE", "RESET", "RETURN", "REVOKE", "ROLLBACK", "SAVEPOINT", "SELECT", "SET",
    "SHOW", "START", "THROW", "TRUNCATE", "UNCACHE", "UNLISTEN", "UNLOAD", "UNLOCK", "UPDATE",
    "USE", "VACUUM", "VALUES", "WAITFOR", "WHILE", "WITH"]

/-- Whether a token starts a statement. -/
def Token.startsStatement (t : Token) : Bool :=
  match t.kind with
  | .word => t.text.map Char.toUpper ∈ statementWords
  | .symbol => t.text == "("
  | _ => false

/-- Whether the token is the end of a statement. -/
def Token.isSemicolon (t : Token) : Bool := t.kind == .symbol && t.text == ";"

/-- What is wrong with a token that starts no statement. -/
def unexpectedDetail (t : Token) : String :=
  "sql parser error: Expected: an SQL statement, found: " ++ t.text ++ " at Line: " ++
    toString t.position.line ++ ", Column: " ++ toString t.position.column

/-- The tokens of each statement. -/
def statements : List Token → List (List Token)
  | [] => []
  | t :: rest =>
    if t.isSemicolon then statements rest
    else match rest, statements rest with
      | next :: _, first :: others =>
        if next.isSemicolon then [t] :: first :: others else (t :: first) :: others
      | _, others => [t] :: others

/-- The number of statements in a text, which is not 0. -/
def check (sql : String) : Except CheckError Nat :=
  let found := statements (tokens sql)
  match found.findSome? fun statement => statement.head?.filter (!·.startsStatement) with
  | some t =>
    let detail := unexpectedDetail t
    .error (.unexpected detail (positionIn detail))
  | none => if found.isEmpty then .error .empty else .ok found.length

end SetQuery.Sql
