import SetQuery.Expr
import SetQuery.Text.Case

/-!
# Sort keys of a plan file

A sort key is written as a column and, if need be, a direction behind it.
-/

namespace SetQuery

/-- Why an entry is no sort key. -/
inductive SortKeyError
  | empty
  | badDirection (direction entry : String)
  | badEntry (entry : String)
deriving DecidableEq, Repr

/-- The text of the error. -/
def SortKeyError.message : SortKeyError → String
  | .empty => "Empty order_by entry"
  | .badDirection direction entry =>
    "Invalid sort direction '" ++ direction ++ "' in '" ++ entry ++ "'"
  | .badEntry entry => "Invalid order_by entry '" ++ entry ++ "'"

/-- Whether a direction in lower case is the ascending one, if it is one. -/
def ascending? : String → Option Bool
  | "asc" => some true
  | "desc" => some false
  | _ => none

/-- The sort key that an entry gives. -/
def SortKey.ofEntry (entry : String) : Except SortKeyError SortKey :=
  match (Text.words entry.toList).map String.ofList with
  | [] => .error .empty
  | [column] => .ok ⟨column, true⟩
  | column :: direction :: rest =>
    let direction := Text.asciiLower direction
    match ascending? direction with
    | none => .error (.badDirection direction entry)
    | some ascending => if rest.isEmpty then .ok ⟨column, ascending⟩ else .error (.badEntry entry)

/-- The sort keys that some entries give. -/
def SortKey.ofEntries (entries : List String) : Except SortKeyError (List SortKey) :=
  entries.mapM ofEntry

end SetQuery
