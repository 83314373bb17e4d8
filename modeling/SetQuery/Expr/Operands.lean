import SetQuery.Expr

/-!
# The operands of a chain

A chain whose base is a chain again applies all steps one after the other, so it is one flat
sequence: `Expr.leftmost` is the operand it starts with and `Expr.flatSteps` are all its steps.
Chains behind an ordering or a limit and chains on the right of an operation are operands like any
other.

Main statements: `leftmost_size_lt` and `stepsSize_flatSteps_lt` (the operands of a chain are
smaller than the chain) and `withoutSorts_size_le`.
-/

namespace SetQuery.Expr

/-- The operand with which a chain starts; any other expression starts with itself. -/
def leftmost : Expr → Expr
  | .chain base _ _ => base.leftmost
  | e => e

/-- All steps of a chain from left to right. -/
def flatSteps : Expr → List (Step Expr)
  | .chain base steps _ => base.flatSteps ++ steps
  | _ => []

/-- The operands of a chain from left to right. -/
def operands (e : Expr) : List Expr := e.leftmost :: e.flatSteps.map (·.operand)

/-- The operations of a chain from left to right. -/
def ops (e : Expr) : List SetOp := e.flatSteps.map (·.op)

/-- Whether the expression is a chain. -/
def isChain : Expr → Bool
  | .chain _ _ _ => true
  | _ => false

/-- The expression without its outermost ordering. -/
def withoutSort : Expr → Expr
  | .sort input _ => input
  | e => e

/-- The expression without the orderings around it. -/
def withoutSorts : Expr → Expr
  | .sort input _ => input.withoutSorts
  | e => e

/-! ## Column names -/

mutual

/-- The names of all columns anywhere in the expression. -/
def columnNames : Expr → List String
  | .source _ schema => schema.names
  | .chain base steps schema => schema.names ++ base.columnNames ++ stepColumnNames steps
  | .sort input _ => input.columnNames
  | .limit input _ _ => input.columnNames

/-- The names of all columns anywhere in the operands of some steps. -/
def stepColumnNames : List (Step Expr) → List String
  | [] => []
  | ⟨_, operand⟩ :: rest => operand.columnNames ++ stepColumnNames rest

end

/-! ## Size -/

mutual

/-- The size of an expression, by which recursion over operands ends. -/
def size : Expr → Nat
  | .source _ _ => 1
  | .chain base steps _ => base.size + stepsSize steps + 1
  | .sort input _ => input.size + 1
  | .limit input _ _ => input.size + 1

/-- The size of some steps. -/
def stepsSize : List (Step Expr) → Nat
  | [] => 0
  | ⟨_, operand⟩ :: rest => operand.size + 1 + stepsSize rest

end

theorem stepsSize_append (l r : List (Step Expr)) :
    stepsSize (l ++ r) = stepsSize l + stepsSize r := by
  induction l with
  | nil => simp [stepsSize]
  | cons s l ih => simp only [List.cons_append, stepsSize, ih]; omega

theorem leftmost_size_le : ∀ e : Expr, e.leftmost.size ≤ e.size
  | .chain base _ _ => by
    have := leftmost_size_le base
    simp only [leftmost, size]; omega
  | .source _ _ => by simp [leftmost]
  | .sort _ _ => by simp [leftmost]
  | .limit _ _ _ => by simp [leftmost]

theorem stepsSize_flatSteps_le : ∀ e : Expr, stepsSize e.flatSteps ≤ e.size
  | .chain base steps _ => by
    have := stepsSize_flatSteps_le base
    simp only [flatSteps, stepsSize_append, size]; omega
  | .source _ _ => by simp [flatSteps, stepsSize]
  | .sort _ _ => by simp [flatSteps, stepsSize]
  | .limit _ _ _ => by simp [flatSteps, stepsSize]

theorem leftmost_size_lt (base : Expr) (steps : List (Step Expr)) (schema : Schema) :
    (chain base steps schema).leftmost.size < (chain base steps schema).size := by
  have := leftmost_size_le base
  simp only [leftmost, size]; omega

theorem stepsSize_flatSteps_lt (base : Expr) (steps : List (Step Expr)) (schema : Schema) :
    stepsSize (chain base steps schema).flatSteps < (chain base steps schema).size := by
  have := stepsSize_flatSteps_le base
  simp only [flatSteps, stepsSize_append, size]; omega

theorem withoutSort_size_le (e : Expr) : e.withoutSort.size ≤ e.size := by
  cases e <;> simp [withoutSort, size]

theorem withoutSorts_size_le : ∀ e : Expr, e.withoutSorts.size ≤ e.size
  | .sort input _ => by
    have := withoutSorts_size_le input
    simp only [withoutSorts, size]; omega
  | .source _ _ => by simp [withoutSorts]
  | .chain _ _ _ => by simp [withoutSorts]
  | .limit _ _ _ => by simp [withoutSorts]

end SetQuery.Expr
