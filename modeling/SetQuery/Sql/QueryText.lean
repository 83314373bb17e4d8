import SetQuery.Text.Blank

/-!
# The text of a query as part of a larger one

A query is written by its user, often with a semicolon at its end. To stand in parentheses it loses
the semicolons; and if its last line has a comment to the end of the line, a newline follows, so
that the comment ends before what comes next.
-/

namespace SetQuery.Sql

/-- The text without blanks at its ends and without the semicolons that end it. -/
def withoutTerminator (s : List Char) : List Char :=
  Text.trimEnd (Text.dropEndWhile (· == ';') (Text.trim s))

/-- The text with a newline behind it if its last line may have a comment. -/
def closeComment (s : List Char) : List Char :=
  if Text.hasDoubleDash (Text.lastLine s) then s ++ ['\n'] else s

/-- The text of a query as it stands in a larger one. -/
def queryText (sql : String) : String :=
  String.ofList (closeComment (withoutTerminator sql.toList))

end SetQuery.Sql
