import SetQuery.Text.Case

/-!
# Names of backends

A backend is known by a name in lower case without blanks at its ends. A blank text names none.
-/

namespace SetQuery

/-- The name of a backend. -/
structure BackendName where
  text : String
deriving DecidableEq, Repr, Inhabited

/-- The text in lower case, without blanks at its ends. -/
def BackendName.normalized (s : String) : String :=
  String.ofList (Text.lower (Text.trim s.toList))

/-- The name that a text gives, if it is not blank. -/
def BackendName.ofText? (s : String) : Option BackendName :=
  if normalized s = "" then none else some ⟨normalized s⟩

end SetQuery
