import SetQuery.Proofs.Expr.Resolution
import SetQuery.Proofs.Sql.Precedence

/-!
# Operations are evaluated in the order of construction

**Theorem (`Expr.evaluated_in_order`).** In the statement for an expression, no intersection stands
to the right of a union or a difference between the same parentheses, in any dialect. So at every
level of the statement the operands grouped by precedence and the operands grouped from left to
right are the query as it was built, and the operands are those of the text; and for a chain, that
query applies the operations to the operands in the order in which the chain was constructed, each
to the result of those before it.
-/

namespace SetQuery

open Sql

/-! ## Steps on a query -/

/-- A query comes about from another one by steps, the first of them applied first. The backend's
own operator is applied to the query so far or to the same in parentheses; an emulation puts the
query so far on the left of its operator, with its rows numbered or as it is. -/
inductive Applies (reserved columns : List String) : Query → List QueryStep → Query → Prop
  | nil (q : Query) : Applies reserved columns q [] q
  | native {soFar left right q : Query} {op : SetOp} {rest : List QueryStep}
      (hleft : left = soFar ∨ ∃ label, left = .ofQuery (.columns columns) soFar label)
      (h : Applies reserved columns (.compound left op right) rest q) :
      Applies reserved columns soFar (⟨op, .native, right⟩ :: rest) q
  | numbered {soFar right q : Query} {op : SetOp} {rest : List QueryStep} (l₁ l₂ l₃ : String)
      (h : Applies reserved columns (.ofQuery (.columns columns)
        (.compound (.ofQuery (numberingHead reserved columns) soFar l₁) ⟨op.kind, .distinct⟩
          (.ofQuery (numberingHead reserved columns) right l₂)) l₃) rest q) :
      Applies reserved columns soFar (⟨op, .emulated .rowNumber, right⟩ :: rest) q
  | deduplicated {soFar right q : Query} {op : SetOp} {rest : List QueryStep} (label : String)
      (h : Applies reserved columns (.ofQuery { Head.columns columns with distinct := true }
        (.compound soFar ⟨.union, .all⟩ right) label) rest q) :
      Applies reserved columns soFar (⟨op, .emulated .distinctOverUnionAll, right⟩ :: rest) q

theorem native_query (reserved columns : List String) (p : Progress) (op : SetOp) (right : Query) :
    ∃ left, (left = p.query ∨ ∃ label, left = .ofQuery (.columns columns) p.query label) ∧
      (p.native reserved columns op right).query = .compound left op right := by
  unfold Progress.native
  by_cases hwrap : op.kind = .intersect ∧ p.loose = true
  · rw [if_pos hwrap]
    exact ⟨_, .inr ⟨_, rfl⟩, rfl⟩
  · rw [if_neg hwrap]
    exact ⟨_, .inl rfl, rfl⟩

theorem applies_foldl (reserved columns : List String) (p : Progress) (steps : List QueryStep) :
    Applies reserved columns p.query steps
      (steps.foldl (Progress.step reserved columns) p).query := by
  induction steps generalizing p with
  | nil => exact .nil _
  | cons s steps ih =>
    obtain ⟨op, method, right⟩ := s
    have hrest := ih (p.step reserved columns ⟨op, method, right⟩)
    cases method with
    | native =>
      obtain ⟨left, hleft, hquery⟩ := native_query reserved columns p op right
      exact .native hleft (hquery ▸ hrest)
    | emulated emulation =>
      cases emulation with
      | rowNumber => exact .numbered _ _ _ hrest
      | distinctOverUnionAll => exact .deduplicated _ hrest

/-! ## Chains -/

namespace Expr

/-- The query reads the operand of a chain. -/
def ReadBy (c : Capabilities) (policy : OrderPolicy) (canonical : Schema) (reserved : List String)
    (operand : Expr) (q : Query) : Prop :=
  ∃ resolved next, ResolvesOperand c policy canonical operand resolved ∧
    q = (Resolved.operandQuery reserved resolved next).1

/-- The query applies the operations of a chain to its operands in the order of construction, each
in the way in which the backend carries it out. -/
def EvaluatedBy (e : Expr) (c : Capabilities) (policy : OrderPolicy) (reserved : List String)
    (q : Query) : Prop :=
  ∃ canonical first steps, AlignsTo (e.operands.map (·.schema)) canonical ∧
    ReadBy c policy canonical reserved e.leftmost first ∧
    List.Forall₂ (fun step s => s.op = step.op ∧ c.resolve step.op = .ok s.method ∧
      ReadBy c policy canonical reserved step.operand s.right) e.flatSteps steps ∧
    Applies reserved canonical.names first steps q

variable {c : Capabilities} {policy : OrderPolicy} {canonical : Schema}

theorem readBy_restQueries (reserved : List String) {steps : List (Step Expr)}
    {rest : List (ResolvedStep Resolved)}
    (h : List.Forall₂ (ResolvesStep c policy canonical) steps rest) (next : Nat) :
    List.Forall₂ (fun (step : Step Expr) (s : QueryStep) => s.op = step.op ∧
        c.resolve step.op = .ok s.method ∧ ReadBy c policy canonical reserved step.operand s.right)
      steps (Resolved.restQueries reserved rest next).1 := by
  induction h generalizing next with
  | nil => exact .nil
  | cons hstep _ ih => exact .cons ⟨hstep.op, hstep.method, _, next, hstep.operand, rfl⟩ (ih _)

/-- **The query for a chain applies its operations in the order of construction.** -/
theorem evaluatedBy_of_resolve {e : Expr} {r : Resolved} (hc : e.isChain = true)
    (h : e.resolve c policy = .ok r) (reserved : List String) (next : Nat) :
    e.EvaluatedBy c policy reserved (r.toQuery reserved next).1 := by
  obtain ⟨canonical, first, rest, halign, hfirst, hrest, rfl⟩ := (resolve_chain_eq_ok_iff hc).1 h
  simp only [Resolved.toQuery]
  exact ⟨canonical, _, _, halign, ⟨first, next, hfirst, rfl⟩, readBy_restQueries reserved hrest _,
    applies_foldl reserved _ ⟨_, false, _⟩ _⟩

/-- **Evaluation order does not depend on precedence.** -/
theorem evaluated_in_order {e : Expr} {compiled : Compiled}
    (h : e.compileFor c policy = .ok compiled) :
    (∀ d, TightFirst (compiled.query.parts d)) ∧
    (∀ q ∈ compiled.query :: compiled.query.enclosed, q.byPrecedence = q ∧ q.leftToRight = q ∧
      ∀ d, q.flat.1.parts d ++ (q.flat.2.flatMap fun next => .operator next.1 :: next.2.parts d) =
        q.parts d) ∧
    (e.isChain = true → e.EvaluatedBy c policy e.columnNames compiled.query) := by
  obtain ⟨r, hr, rfl⟩ := Except.map_eq_ok_iff.1 h
  have horder := Resolved.inOrder_toQuery e.columnNames r 0
  refine ⟨horder.tightFirst_parts, fun q hq => ?_, fun hc => evaluatedBy_of_resolve hc hr _ _⟩
  obtain ⟨loose, hlevel⟩ := horder q hq
  exact ⟨hlevel.byPrecedence_eq, hlevel.leftToRight_eq, fun d => q.parts_flat d⟩

/-- An intersection behind a union, which a backend with both operators gets in parentheses. -/
theorem nested_in_order : ∃ compiled, nested.compileFor (.native ⟨"duckdb"⟩ .duckDb) .drop =
      .ok compiled ∧ (∀ d, TightFirst (compiled.query.parts d)) ∧
    nested.EvaluatedBy (.native ⟨"duckdb"⟩ .duckDb) .drop nested.columnNames compiled.query := by
  obtain ⟨r, hr⟩ : ∃ r, nested.resolve (.native ⟨"duckdb"⟩ .duckDb) .drop = .ok r :=
    exists_resolve_nested (m := .native) (n := .native) rfl rfl
  have hcompiled : nested.compileFor (.native ⟨"duckdb"⟩ .duckDb) .drop = .ok _ :=
    Except.map_eq_ok_iff.2 ⟨r, hr, rfl⟩
  obtain ⟨htight, -, hchain⟩ := evaluated_in_order hcompiled
  exact ⟨_, hcompiled, htight, hchain rfl⟩

end Expr

end SetQuery
