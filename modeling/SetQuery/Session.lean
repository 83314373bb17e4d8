import SetQuery.Compile

/-!
# Sessions

A session holds expressions under names, together with the registry and the order policy with which
they are compiled. A construction makes an expression from those that are named already. Every
construction makes a new node, but one that does nothing gives the node that it was applied to.
-/

namespace SetQuery

/-- A node of a session; nodes of equal numbers are the same. -/
structure Node where
  number : Nat
  expr : Expr

instance : Inhabited Node := ⟨⟨0, default⟩⟩

/-- How an expression is made from named ones. -/
inductive Construction
  | source (source : Source) (columns : List Column)
  | combineTwo (op : SetOp) (left right : String)
  | combine (op : SetOp) (first : String) (rest : List String)
  | chain (base : String) (steps : List (Step String))
  | orderBy (input : String) (keys : List SortKey)
  | limit (input : String) (n : Nat)
  | limitOffset (input : String) (limit : Option Nat) (offset : Nat)
deriving Repr

/-- Why a session cannot do something. -/
inductive SessionError
  | undefinedName (name : String)
  | schema (cause : SchemaError)
  | plan (cause : PlanError)
deriving DecidableEq, Repr

namespace Construction

/-- The name whose node is the result, for a construction that does nothing. -/
def identity? : Construction → Option String
  | .combine _ first [] => some first
  | .chain base [] => some base
  | .orderBy input [] => some input
  | .limitOffset input none 0 => some input
  | _ => none

end Construction

/-- Named expressions, and what they are compiled with. -/
structure Session where
  nodes : SortedMap Node := .empty
  /-- The number of the next node. -/
  next : Nat := 0
  registry : Registry := .builtin
  policy : OrderPolicy := .drop

namespace Session

/-- The node of a name. -/
def node (s : Session) (name : String) : Except SessionError Node :=
  match s.nodes.get? name with
  | some node => .ok node
  | none => .error (.undefinedName name)

/-- The expression of a name. -/
def expr (s : Session) (name : String) : Except SessionError Expr := (s.node name).map (·.expr)

/-- The step with the expression that its operand names. -/
def namedStep (s : Session) (step : Step String) : Except SessionError (Step Expr) :=
  (s.expr step.operand).map fun operand => ⟨step.op, operand⟩

/-- The expression that a construction makes. -/
def construct (s : Session) : Construction → Except SessionError Expr
  | .source source columns =>
    match Schema.ofColumns columns with
    | .ok schema => .ok (.source source schema)
    | .error fault => .error (.schema fault)
  | .combineTwo op left right => do
    let left ← s.expr left
    let right ← s.expr right
    (Expr.combineTwo op left right).mapError .plan
  | .combine op first rest => do
    let first ← s.expr first
    let rest ← rest.mapM s.expr
    (Expr.combine op first rest).mapError .plan
  | .chain base steps => do
    let base ← s.expr base
    let steps ← steps.mapM s.namedStep
    (Expr.chainOf base steps).mapError .plan
  | .orderBy input keys => do
    let input ← s.expr input
    (input.orderBy keys).mapError .plan
  | .limit input n => (s.expr input).map fun input => input.limitOffset (some n) 0
  | .limitOffset input limit offset =>
    (s.expr input).map fun input => input.limitOffset limit offset

/-- The number of the node that a construction makes. -/
def numberFor (s : Session) (c : Construction) : Nat :=
  ((c.identity?.bind s.nodes.get?).map (·.number)).getD s.next

/-- The session in which a name stands for what a construction makes, and that expression. -/
def define (s : Session) (name : String) (c : Construction) :
    Except SessionError (Session × Expr) :=
  (s.construct c).map fun e =>
    ({ s with nodes := s.nodes.insert name ⟨s.numberFor c, e⟩, next := s.next + 1 }, e)

/-- Whether two names stand for the same node, and whether their expressions are built in the same
way. -/
def compare (s : Session) (a b : String) : Except SessionError (Bool × Bool) := do
  let a ← s.node a
  let b ← s.node b
  return (a.number == b.number, a.expr.same b.expr)

/-- The session with the registry and the policy of a configuration. -/
def configure (s : Session) (config : Config) : Except SessionError Session :=
  match Registry.ofConfig config with
  | .ok registry => .ok { s with registry := registry, policy := config.orderPolicy }
  | .error fault => .error (.plan fault)

/-- The session with another entry in the table of a backend, and that table. -/
def setSupport (s : Session) (backend : String) (op : SetOp) (support : Support) :
    Except SessionError (Session × Capabilities) :=
  match s.registry.find backend with
  | .ok c =>
    let c := c.setSupport op support
    .ok ({ s with registry := s.registry.insert c }, c)
  | .error fault => .error (.plan fault)

/-- The expression compiled for a backend. -/
def compile (s : Session) (e : Expr) (backend : String) : Except PlanError Compiled :=
  s.registry.compile s.policy e backend

end Session

end SetQuery
