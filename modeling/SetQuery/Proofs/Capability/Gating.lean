import SetQuery.Proofs.Dialect.Operator
import SetQuery.Proofs.Expr.Resolution
import SetQuery.Proofs.Sql.Operators

/-!
# What a backend must offer

Set operations are the only thing that a backend may lack, as long as no ordering has to be kept
where the backend rejects it.

**Theorem (`Built.compiles_iff_offered`).** An expression compiles exactly when each operation in
its tree has a method on the backend, at whatever depth it stands; otherwise the error names one
that has none. The report of a compilation has one entry for each operation of the tree, in the
order `Expr.execution`, with the method that the backend's table gives and the dialect's token of
what is written. The text has the operators that the entries name, spelled in the same way, and no
others. So no operation is replaced by another one.
-/

namespace SetQuery

open Sql

namespace Expr

/-! ## The operations of a tree -/

/-- The operations that a node applies to its operands. -/
def ownOps : Expr → List SetOp
  | .chain _ steps _ => steps.map (·.op)
  | _ => []

mutual

/-- The operations inside the operands of an expression, in the order of the operands. -/
def innerOps : Expr → List SetOp
  | .source _ _ => []
  | .chain base steps _ => base.innerOps ++ stepInnerOps steps
  | .sort input _ => input.innerOps ++ input.ops
  | .limit input _ _ => input.innerOps ++ input.ops

/-- The operations inside the operands of some steps. -/
def stepInnerOps : List (Step Expr) → List SetOp
  | [] => []
  | ⟨_, operand⟩ :: rest => operand.innerOps ++ operand.ops ++ stepInnerOps rest

end

/-- All operations of an expression in the order in which they are carried out: first those inside
the operands, and then those of the chain itself. -/
def execution (e : Expr) : List SetOp := e.innerOps ++ e.ops

theorem stepInnerOps_eq (steps : List (Step Expr)) :
    stepInnerOps steps = (steps.map (·.operand)).flatMap execution := by
  induction steps with
  | nil => rfl
  | cons step rest ih => simp [stepInnerOps, execution, ih]

theorem innerOps_eq : ∀ e : Expr, e.innerOps = e.operands.flatMap execution
  | .chain base steps schema => by
    rw [operands_chain, List.flatMap_append, innerOps, innerOps_eq base, stepInnerOps_eq]
  | .source _ _ => rfl
  | .sort input _ => by simp [operands, leftmost, flatSteps, execution, ops]
  | .limit input _ _ => by simp [operands, leftmost, flatSteps, execution, ops]

/-- A chain first carries out its operands, from left to right, and then its own operations. -/
theorem execution_eq (e : Expr) : e.execution = e.operands.flatMap execution ++ e.ops := by
  rw [execution, innerOps_eq]

theorem ops_chain (base : Expr) (steps : List (Step Expr)) (schema : Schema) :
    (chain base steps schema).ops = base.ops ++ steps.map (·.op) := by
  simp [ops, flatSteps]

theorem execution_sort (input : Expr) (keys : List SortKey) :
    (sort input keys).execution = input.execution := by
  simp [execution, innerOps, ops, flatSteps]

theorem execution_limit (input : Expr) (most skipped : Option Nat) :
    (limit input most skipped).execution = input.execution := by
  simp [execution, innerOps, ops, flatSteps]

theorem execution_withoutSort (e : Expr) : e.withoutSort.execution = e.execution := by
  cases e with
  | sort input keys => rw [withoutSort, execution_sort]
  | _ => rfl

theorem execution_withoutSorts : ∀ e : Expr, e.withoutSorts.execution = e.execution
  | .sort input keys => by rw [withoutSorts, execution_withoutSorts input, execution_sort]
  | .source _ _ => rfl
  | .chain _ _ _ => rfl
  | .limit _ _ _ => rfl

theorem PageOf.execution_eq {e input : Expr} {keys : List SortKey} {most skipped : Option Nat}
    (h : PageOf e input keys most skipped) : input.execution = e.execution := by
  cases h with
  | sort input keys => rw [execution_withoutSort, execution_sort]
  | limitSort input keys most skipped =>
    rw [execution_withoutSort, execution_limit, execution_sort]
  | limit most skipped => rw [execution_limit]

mutual

/-- Each operation of each node is carried out once. -/
theorem execution_perm : ∀ e : Expr, e.execution.Perm (e.nodes.flatMap ownOps)
  | .source _ _ => .nil
  | .chain base steps schema => by
    have hbase := execution_perm base
    have hsteps := stepInnerOps_perm steps
    rw [List.perm_iff_count] at hbase hsteps ⊢
    intro op
    have hbase := hbase op
    have hsteps := hsteps op
    simp only [execution, ops_chain, innerOps, nodes, ownOps, List.flatMap_cons,
      List.flatMap_append, List.count_append] at hbase hsteps ⊢
    omega
  | .sort input keys => by
    rw [execution_sort]
    exact execution_perm input
  | .limit input most skipped => by
    rw [execution_limit]
    exact execution_perm input

theorem stepInnerOps_perm : ∀ steps : List (Step Expr),
    (stepInnerOps steps).Perm ((stepNodes steps).flatMap ownOps)
  | [] => .nil
  | ⟨_, operand⟩ :: rest => by
    rw [stepInnerOps, stepNodes, List.flatMap_append]
    exact (execution_perm operand).append (stepInnerOps_perm rest)

end

theorem mem_execution {e : Expr} {op : SetOp} :
    op ∈ e.execution ↔ ∃ node ∈ e.nodes, op ∈ node.ownOps := by
  rw [(execution_perm e).mem_iff, List.mem_flatMap]

theorem execution_operand_subset {e operand : Expr} (h : operand ∈ e.operands) :
    operand.execution ⊆ e.execution := by
  intro op hop
  rw [execution_eq]
  exact List.mem_append_left _ (List.mem_flatMap.2 ⟨operand, h, hop⟩)

theorem op_mem_execution {e : Expr} {step : Step Expr} (h : step ∈ e.flatSteps) :
    step.op ∈ e.execution := by
  rw [execution_eq]
  exact List.mem_append_right _ (List.mem_map_of_mem h)

end Expr

/-! ## The report -/

/-- The entry of a report on an operation: the backend's table gives the method, and the operator is
the token of the operation, or of the one that the emulation is made of. -/
structure Capabilities.Reports (c : Capabilities) (op : SetOp) (s : StepRecord) : Prop where
  same : s.op = op
  method : c.resolve op = .ok s.method
  native : s.method = .native → s.written = op
  rowNumber : s.method = .emulated .rowNumber → s.written = ⟨op.kind, .distinct⟩
  distinctOverUnionAll : s.method = .emulated .distinctOverUnionAll → s.written = ⟨.union, .all⟩
  operator : s.operator c.dialect = c.dialect.tokens.get s.written

theorem Capabilities.reports_of_resolve {c : Capabilities} {op : SetOp} {method : Method}
    (h : c.resolve op = .ok method) : c.Reports op ⟨op, method⟩ where
  same := rfl
  method := h
  native hm := by cases hm; rfl
  rowNumber hm := by cases hm; rfl
  distinctOverUnionAll hm := by cases hm; rfl
  operator := c.dialect.operator_eq_token _

namespace Expr

variable {c : Capabilities} {policy : OrderPolicy} {canonical : Schema}

theorem ResolvesStep.reports_recordSteps {steps : List (Step Expr)}
    {rest : List (ResolvedStep Resolved)}
    (h : List.Forall₂ (ResolvesStep c policy canonical) steps rest) :
    List.Forall₂ c.Reports (steps.map (·.op)) (recordSteps rest) := by
  rw [recordSteps, List.forall₂_map_left_iff, List.forall₂_map_right_iff]
  refine h.imp fun step out hstep => ?_
  rw [hstep.op]
  exact Capabilities.reports_of_resolve hstep.method

/-- The report on an operand is the one on the expression that is read for it. -/
theorem ResolvesOperand.reports {e : Expr} {operand : Operand Resolved}
    (h : ResolvesOperand c policy canonical e operand)
    (he : ∀ r, e.resolve c policy = .ok r → List.Forall₂ c.Reports e.execution r.steps)
    (hsorts : ∀ r, e.withoutSorts.resolve c policy = .ok r →
      List.Forall₂ c.Reports e.withoutSorts.execution r.steps) :
    List.Forall₂ c.Reports e.execution (Resolved.operandSteps operand) := by
  cases h with
  | table name schema => exact .nil
  | dropped _ _ _ hr =>
    rw [← execution_withoutSorts]
    exact hsorts _ hr
  | kept _ _ hr => exact he _ hr

theorem ResolvesStep.reports_restSteps {steps : List (Step Expr)}
    {rest : List (ResolvedStep Resolved)}
    (h : List.Forall₂ (ResolvesStep c policy canonical) steps rest)
    (hoperand : ∀ step ∈ steps, ∀ out, ResolvesOperand c policy canonical step.operand out →
      List.Forall₂ c.Reports step.operand.execution (Resolved.operandSteps out)) :
    List.Forall₂ c.Reports ((steps.map (·.operand)).flatMap execution)
      (Resolved.restSteps rest) := by
  induction h with
  | nil => exact .nil
  | cons hstep _ ih =>
    obtain ⟨hfirst, hrest⟩ := List.forall_mem_cons.1 hoperand
    exact List.rel_append (hfirst _ hstep.operand) (ih hrest)

/-- **A resolved expression reports each operation of the tree in order.** -/
theorem reports_of_resolve {e : Expr} {r : Resolved} (h : e.resolve c policy = .ok r) :
    List.Forall₂ c.Reports e.execution r.steps := by
  induction e using operand_induction generalizing r with
  | source origin schema =>
    cases origin <;>
    · rw [resolve] at h
      cases h
      exact .nil
  | page e input keys most skipped hp ih =>
    obtain ⟨page, hpage, rfl⟩ := hp.resolve_eq_ok_iff.1 h
    rw [← hp.execution_eq]
    show List.Forall₂ c.Reports input.execution page.steps
    exact ih hpage
  | chain base steps schema ih =>
    obtain ⟨canonical, first, rest, -, hfirst, hrest, rfl⟩ := (resolve_chain_eq_ok_iff rfl).1 h
    have hoperand : ∀ operand ∈ (chain base steps schema).operands,
        ∀ out, ResolvesOperand c policy canonical operand out →
          List.Forall₂ c.Reports operand.execution (Resolved.operandSteps out) :=
      fun operand hmem out hout =>
        hout.reports (fun _ => (ih operand hmem).1) (fun _ => (ih operand hmem).2)
    rw [execution_eq, operands, List.flatMap_cons]
    refine List.rel_append (List.rel_append ?_ ?_) (ResolvesStep.reports_recordSteps hrest)
    · exact hoperand _ List.mem_cons_self _ hfirst
    · exact ResolvesStep.reports_restSteps hrest fun step hstep =>
        hoperand _ (operand_mem_operands hstep)

/-! ## Failing -/

/-- **Resolving fails for an operation of the tree that the backend lacks.** -/
theorem Valid.exists_of_resolve_eq_error {e : Expr} (hv : e.Valid)
    (horder : c.subqueryOrder = true ∨ policy = .drop) {err : PlanError}
    (h : e.resolve c policy = .error err) : ∃ op ∈ e.execution, c.resolve op = .error err := by
  induction e using operand_induction with
  | source origin schema => cases origin <;> · rw [resolve] at h; cases h
  | page e input keys most skipped hp ih =>
    rw [hp.resolve_eq, Except.map_eq_error_iff] at h
    rw [← hp.execution_eq]
    exact ih (hp.valid hv) h
  | chain base steps schema ih =>
    have ha := hv.alignsTo_of_isChain rfl
    rcases of_resolve_chain_eq_error rfl ha h with
      ⟨step, hstep, hop⟩ | ⟨operand, hmem, position, hoperand⟩
    · exact ⟨step.op, op_mem_execution hstep, hop⟩
    · have hov := hv.operand operand hmem
      have hsubset := execution_operand_subset hmem
      rcases of_resolveOperand_eq_error hoperand with ⟨-, hsub, hstrict⟩ | h | h
      · -- only the strict policy on a backend that rejects orderings refuses an operand
        rcases horder with horder | horder
        · rw [hsub] at horder; cases horder
        · rw [hstrict] at horder; cases horder
      · obtain ⟨op, hop, herr⟩ := (ih operand hmem).1 hov h
        exact ⟨op, hsubset hop, herr⟩
      · obtain ⟨op, hop, herr⟩ := (ih operand hmem).2 hov.withoutSorts h
        rw [execution_withoutSorts] at hop
        exact ⟨op, hsubset hop, herr⟩

theorem exists_method_of_resolve {e : Expr} {r : Resolved} (h : e.resolve c policy = .ok r)
    {op : SetOp} (hop : op ∈ e.execution) : ∃ method, c.resolve op = .ok method := by
  obtain ⟨s, -, hs⟩ := exists_of_mem_forall₂ (reports_of_resolve h).flip hop
  exact ⟨s.method, hs.method⟩

/-- **A backend is asked for exactly the operations of the tree.** -/
theorem Built.compiles_iff_offered {e : Expr} (h : Built e)
    (horder : c.subqueryOrder = true ∨ policy = .drop) :
    ((∃ compiled, e.compileFor c policy = .ok compiled) ↔
      ∀ node ∈ e.nodes, ∀ op ∈ node.ownOps, ∃ method, c.resolve op = .ok method) ∧
    (∀ err, e.compileFor c policy = .error err → ∃ node ∈ e.nodes, ∃ op ∈ node.ownOps,
      c.resolve op = .error err ∧ err = .unsupportedOperation c.name op) ∧
    e.execution.Perm (e.nodes.flatMap ownOps) ∧
    ∀ compiled, e.compileFor c policy = .ok compiled → compiled.dialect = c.dialect ∧
      List.Forall₂ c.Reports e.execution compiled.steps ∧
      (operations (compiled.query.parts compiled.dialect)).Perm
        (compiled.steps.map (·.written)) ∧
      (operatorTexts compiled.dialect (compiled.query.parts compiled.dialect)).Perm
        (compiled.steps.map fun s => " " ++ s.operator compiled.dialect ++ " ") := by
  have hfail : ∀ err, e.compileFor c policy = .error err →
      ∃ op ∈ e.execution, c.resolve op = .error err := fun err herr =>
    h.valid.exists_of_resolve_eq_error horder (Except.map_eq_error_iff.1 herr)
  refine ⟨⟨?_, fun hoffered => ?_⟩, fun err herr => ?_, execution_perm e, fun compiled hok => ?_⟩
  · intro ⟨compiled, hok⟩ node hnode op hop
    obtain ⟨r, hr, -⟩ := Except.map_eq_ok_iff.1 hok
    exact exists_method_of_resolve hr (mem_execution.2 ⟨node, hnode, hop⟩)
  · cases hcompile : e.compileFor c policy with
    | ok compiled => exact ⟨compiled, rfl⟩
    | error err =>
      obtain ⟨op, hop, herr⟩ := hfail err hcompile
      obtain ⟨node, hnode, hop⟩ := mem_execution.1 hop
      obtain ⟨method, hmethod⟩ := hoffered node hnode op hop
      rw [hmethod] at herr
      cases herr
  · obtain ⟨op, hop, herr⟩ := hfail err herr
    obtain ⟨node, hnode, hop⟩ := mem_execution.1 hop
    exact ⟨node, hnode, op, hop, herr, Capabilities.eq_of_resolve_eq_error herr⟩
  · obtain ⟨r, hr, rfl⟩ := Except.map_eq_ok_iff.1 hok
    have hwritten := Resolved.operations_toQuery e.columnNames r 0
    rw [← Query.operations_parts c.dialect] at hwritten
    have hspelled := hwritten.map fun op => " " ++ c.dialect.operator op ++ " "
    rw [← operatorTexts_eq, List.map_map] at hspelled
    exact ⟨rfl, reports_of_resolve hr, hwritten, hspelled⟩

theorem execution_nested : nested.execution = [⟨.union, .distinct⟩, ⟨.intersect, .all⟩] := rfl

/-- A backend that numbers copies can intersect bags, and one that lacks the operation cannot. -/
theorem nested_offered :
    (let c := Registry.withBags "sqlite" .sqlite (.emulated .rowNumber)
      ∃ compiled, nested.compileFor c .drop = .ok compiled ∧
        List.Forall₂ c.Reports nested.execution compiled.steps ∧
        compiled.steps.map (·.operator compiled.dialect) = ["UNION", "INTERSECT"]) ∧
    nested.compileFor (Registry.withBags "impala" .hive .unsupported) .drop =
      .error (.unsupportedOperation ⟨"impala"⟩ ⟨.intersect, .all⟩) := by
  constructor
  · intro c
    have horder : c.subqueryOrder = true ∨ OrderPolicy.drop = .drop := .inr rfl
    obtain ⟨hiff, -, -, hreports⟩ := Built.compiles_iff_offered built_nested horder
    obtain ⟨compiled, hok⟩ := hiff.2 fun node hnode op hop => by
      have hmem : op ∈ nested.execution := mem_execution.2 ⟨node, hnode, hop⟩
      rw [execution_nested] at hmem
      rcases List.mem_pair.1 hmem with rfl | rfl
      · exact ⟨.native, rfl⟩
      · exact ⟨.emulated .rowNumber, rfl⟩
    obtain ⟨hdialect, hsteps, -⟩ := hreports compiled hok
    refine ⟨compiled, hok, hsteps, ?_⟩
    rw [hdialect]
    rw [execution_nested] at hsteps
    generalize compiled.steps = steps at hsteps
    obtain _ | ⟨hunion, _ | ⟨hintersect, _ | _⟩⟩ := hsteps
    have hnative : (.ok .native : Except PlanError Method) = _ := hunion.method
    have hnumbered : (.ok (.emulated .rowNumber) : Except PlanError Method) = _ :=
      hintersect.method
    rw [List.map_cons, List.map_cons, hunion.operator, hintersect.operator,
      hunion.native (Except.ok.inj hnative).symm,
      hintersect.rowNumber (Except.ok.inj hnumbered).symm]
    rfl
  · obtain ⟨hiff, herror, -⟩ := Built.compiles_iff_offered built_nested
      (c := Registry.withBags "impala" .hive .unsupported) (.inr rfl : _ ∨ OrderPolicy.drop = .drop)
    cases hcompile : nested.compileFor (Registry.withBags "impala" .hive .unsupported) .drop with
    | ok compiled =>
      obtain ⟨node, hnode, hop⟩ := mem_execution.1
        (show ⟨.intersect, .all⟩ ∈ nested.execution by rw [execution_nested]; simp)
      obtain ⟨method, hmethod⟩ := hiff.1 ⟨compiled, hcompile⟩ node hnode _ hop
      cases hmethod
    | error err =>
      obtain ⟨node, hnode, op, hop, hresolve, rfl⟩ := herror err hcompile
      have hmem : op ∈ nested.execution := mem_execution.2 ⟨node, hnode, hop⟩
      rw [execution_nested] at hmem
      rcases List.mem_pair.1 hmem with rfl | rfl
      · cases hresolve
      · rfl

end Expr

end SetQuery
