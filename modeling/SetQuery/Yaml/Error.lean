import SetQuery.Shape

/-!
# Faults of a YAML text

Either the text is no single well-formed document, or it is one whose data have the wrong shape at
some place. The place is a path of mapping keys and sequence positions from the top.
-/

namespace SetQuery.Yaml

/-- One step into a value. -/
inductive Step
  | key (name : String)
  | index (position : Nat)
  /-- Into the value of a key that is no scalar. -/
  | unnamedKey
deriving DecidableEq, Repr

/-- The text of a path that continues the text of its start; no text is the top. -/
def pathText : Option String → List Step → Option String
  | start, [] => start
  | start, .key name :: rest => pathText (some ((start.map (· ++ ".")).getD "" ++ name)) rest
  | start, .index position :: rest =>
    pathText (some (start.getD "." ++ "[" ++ toString position ++ "]")) rest
  | start, .unnamedKey :: rest => pathText (some ((start.map (· ++ ".")).getD "" ++ "?")) rest

/-- Why a YAML text does not give the expected data. -/
inductive Error
  | syntaxFault
  | shape (path : List Step) (fault : ShapeError)
deriving DecidableEq, Repr

/-- The text of the fault. -/
def Error.message : Error → String
  | .syntaxFault => "not a single well-formed YAML document"
  | .shape path fault =>
    match pathText none path with
    | some place => place ++ ": " ++ fault.message
    | none => fault.message

end SetQuery.Yaml
