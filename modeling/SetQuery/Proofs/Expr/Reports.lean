import SetQuery.Proofs.Capability.Standard
import SetQuery.Proofs.Expr.OrderPolicy
import SetQuery.Proofs.Sql.Casts

/-!
# What a compilation reports

A compilation changes three things without being asked: it drops an ordering, it casts a column,
and it emulates an operation. `Expr.reports` lists what has to be said of an expression: for a
chain, first what is said of each operand, and then its emulated operations. Positions of operands
are counted in the chain that they belong to, along its whole left spine.

**Theorem (`Built.diagnostics_exact`).** A compilation that succeeds reports this list. There is a
warning among the reports exactly when an operand of a chain lost its ordering, and there is a
report on a cast for each cast of the text.
-/

namespace SetQuery

open Sql

/-! ## What a report shows -/

/-- The code, the severity, the operand and the text with which a report is shown. -/
inductive Diagnostic.Shows : Diagnostic → String → Severity → Option Nat → String → Prop
  | orderDropped (backend : BackendName) (position : Nat) :
      Shows (.orderDropped backend position) "L001" .warning (some position)
        ("ORDER BY on operand " ++ toString position ++ " dropped: backend '" ++ backend.text ++
          "' rejects ORDER BY inside set-operation subqueries")
  | emulated (backend : BackendName) (op : SetOp) (emulation : Emulation) :
      Shows (.emulated backend op emulation) "L002" .info none
        (op.kind.keyword ++ " " ++ op.multiplicity.keyword ++ " emulated on backend '" ++
          backend.text ++ "' using " ++ emulation.name)
  | widened (position : Nat) (column : String) (declared canonical : SqlType) :
      Shows (.widened position column declared canonical) "L003" .info (some position)
        ("Operand " ++ toString position ++ " column '" ++ column ++ "' cast from " ++
          declared.name ++ " to " ++ canonical.name)

theorem Diagnostic.shows : ∀ d : Diagnostic, d.Shows d.code d.severity d.operand? d.message
  | .orderDropped backend position => .orderDropped backend position
  | .emulated backend op emulation => .emulated backend op emulation
  | .widened position column declared canonical => .widened position column declared canonical

/-- Each report of a cast names one. -/
theorem length_reportedCasts (reports : List Diagnostic) :
    (reportedCasts reports).length = reports.countP (·.code = "L003") := by
  induction reports with
  | nil => rfl
  | cons d reports ih =>
    rw [List.countP_cons, ← ih, reportedCasts, List.filterMap_cons]
    cases d <;> simp [Diagnostic.cast?, Diagnostic.code, reportedCasts]

/-! ## What has to be reported -/

/-- The reports on the columns of an operand whose type in the canonical schema is another one. -/
def wideningReports (position : Nat) (canonical s : Schema) : List Diagnostic :=
  canonical.columns.filterMap fun c =>
    ((s.find? c.name).filter (·.type ≠ c.type)).map fun declared =>
      .widened position c.name declared.type c.type

/-- The report on an operation that the backend emulates. -/
def Capabilities.emulationReport? (c : Capabilities) (op : SetOp) : Option Diagnostic :=
  match c.support.get op with
  | .emulated emulation => some (.emulated c.name op emulation)
  | _ => none

namespace Expr

/-- All reports on an expression that is compiled for a backend. -/
def reports (c : Capabilities) : Expr → List Diagnostic
  | .source _ _ => []
  | .sort input _ => input.reports c
  | .limit input _ _ => input.reports c
  | .chain base steps schema =>
    ((chain base steps schema).operands.zipIdx.attach.flatMap fun ⟨(operand, position), _⟩ =>
      (if operand.isOrdered && !c.subqueryOrder then [.orderDropped c.name position] else []) ++
        operand.reports c ++ wideningReports position schema operand.schema) ++
    (chain base steps schema).flatSteps.filterMap fun step => c.emulationReport? step.op
termination_by e => e.size
decreasing_by
  · simp only [size]; omega
  · simp only [size]; omega
  · exact size_lt_of_mem_operands (List.fst_mem_of_mem_zipIdx ‹_›)

/-- The reports on the operand at a position. -/
def operandReports (c : Capabilities) (canonical : Schema) (operand : Expr × Nat) :
    List Diagnostic :=
  (if operand.1.isOrdered && !c.subqueryOrder then [.orderDropped c.name operand.2] else []) ++
    operand.1.reports c ++ wideningReports operand.2 canonical operand.1.schema

theorem reports_chain (c : Capabilities) (base : Expr) (steps : List (Step Expr))
    (schema : Schema) : (chain base steps schema).reports c =
      (chain base steps schema).operands.zipIdx.flatMap (operandReports c schema) ++
        (chain base steps schema).flatSteps.filterMap fun step => c.emulationReport? step.op := by
  rw [reports]
  congr 1
  conv_rhs => rw [← List.attach_map_subtype_val (chain base steps schema).operands.zipIdx]
  rw [List.flatMap_map]
  rfl

theorem reports_withoutSort (c : Capabilities) (e : Expr) :
    e.withoutSort.reports c = e.reports c := by
  cases e with
  | sort input keys => rw [withoutSort, reports]
  | _ => rfl

theorem reports_withoutSorts (c : Capabilities) : ∀ e : Expr,
    e.withoutSorts.reports c = e.reports c
  | .sort input _ => by rw [withoutSorts, reports_withoutSorts c input, reports]
  | .source _ _ => rfl
  | .chain _ _ _ => rfl
  | .limit _ _ _ => rfl

/-- Orderings and limits around an expression are not reported. -/
theorem PageOf.reports_eq {e input : Expr} {keys : List SortKey} {most skipped : Option Nat}
    (h : PageOf e input keys most skipped) (c : Capabilities) :
    input.reports c = e.reports c := by
  cases h with
  | sort input keys => rw [reports_withoutSort, reports]
  | limitSort input keys most skipped => rw [reports_withoutSort, reports, reports]
  | limit most skipped => rw [reports]

/-! ## Reports on resolved expressions -/

theorem castReports_columnReads (position : Nat) (canonical s : Schema) :
    castReports position (columnReads canonical s) = wideningReports position canonical s := by
  rw [castReports, columnReads, List.filterMap_map, wideningReports]
  refine List.filterMap_congr fun c _ => ?_
  cases hfind : s.find? c.name with
  | none => simp [hfind]
  | some declared =>
    by_cases htype : declared.type = c.type
    · simp [hfind, htype, Option.filter]
    · simp [hfind, htype, Option.filter]

variable {c : Capabilities} {policy : OrderPolicy} {canonical : Schema}

theorem emulationReport?_of_resolve {op : SetOp} {method : Method}
    (h : c.resolve op = .ok method) : c.emulationReport? op =
      match method with
      | .native => none
      | .emulated emulation => some (.emulated c.name op emulation) := by
  unfold Capabilities.emulationReport?
  cases method with
  | emulated emulation => rw [Capabilities.get_of_resolve_eq_ok h]
  | native =>
    unfold Capabilities.resolve at h
    split at h
    · next hget => rw [hget]
    · cases h
    · split at h <;> cases h

/-- An operand reports what has to be said of it. -/
theorem ResolvesOperand.diagnostics_eq {e : Expr} {operand : Operand Resolved}
    (h : ResolvesOperand c policy canonical e operand)
    (he : ∀ r, e.resolve c policy = .ok r → r.diagnostics c.name = e.reports c)
    (hsorts : ∀ r, e.withoutSorts.resolve c policy = .ok r →
      r.diagnostics c.name = e.withoutSorts.reports c) (position : Nat) :
    Resolved.operandDiagnostics c.name position operand =
      operandReports c canonical (e, position) := by
  cases h with
  | table name schema =>
    rw [Resolved.operandDiagnostics, castReports_columnReads, operandReports, Expr.reports]
    rfl
  | dropped hordered hsub _ hr =>
    rw [Resolved.operandDiagnostics, castReports_columnReads, hsorts _ hr, reports_withoutSorts,
      operandReports, hordered, hsub]
    rfl
  | kept _ hkept hr =>
    rw [Resolved.operandDiagnostics, castReports_columnReads, he _ hr, operandReports, hkept]

theorem ResolvesStep.restDiagnostics_eq {steps : List (Step Expr)}
    {rest : List (ResolvedStep Resolved)}
    (h : List.Forall₂ (ResolvesStep c policy canonical) steps rest)
    (hoperand : ∀ step ∈ steps, ∀ out, ResolvesOperand c policy canonical step.operand out →
      ∀ position, Resolved.operandDiagnostics c.name position out =
        operandReports c canonical (step.operand, position)) (position : Nat) :
    Resolved.restDiagnostics c.name position rest =
      ((steps.map (·.operand)).zipIdx position).flatMap (operandReports c canonical) := by
  induction h generalizing position with
  | nil => rfl
  | cons hstep _ ih =>
    obtain ⟨hfirst, hrest⟩ := List.forall_mem_cons.1 hoperand
    rw [Resolved.restDiagnostics, hfirst _ hstep.operand, ih hrest, List.map_cons,
      List.zipIdx_cons, List.flatMap_cons]

theorem ResolvesStep.emulationReports_eq {steps : List (Step Expr)}
    {rest : List (ResolvedStep Resolved)}
    (h : List.Forall₂ (ResolvesStep c policy canonical) steps rest) :
    emulationReports c.name (recordSteps rest) =
      steps.filterMap fun step => c.emulationReport? step.op := by
  induction h with
  | nil => rfl
  | @cons step out steps rest hstep _ ih =>
    obtain ⟨op, method, operand⟩ := out
    obtain rfl : op = step.op := hstep.op
    have hmethod : c.resolve step.op = .ok method := hstep.method
    rw [List.filterMap_cons, emulationReport?_of_resolve hmethod, ← ih]
    cases method <;> rfl

/-- **A resolved expression reports what has to be said of it.** -/
theorem Valid.diagnostics_of_resolve {e : Expr} {r : Resolved} (hv : e.Valid)
    (h : e.resolve c policy = .ok r) : r.diagnostics c.name = e.reports c := by
  induction e using operand_induction generalizing r with
  | source origin schema =>
    cases origin <;>
    · rw [resolve] at h
      cases h
      rw [reports]
      rfl
  | page e input keys most skipped hp ih =>
    obtain ⟨page, hpage, rfl⟩ := hp.resolve_eq_ok_iff.1 h
    rw [Resolved.diagnostics, ih (hp.valid hv) hpage, hp.reports_eq]
  | chain base steps schema ih =>
    obtain ⟨canonical, first, rest, ha, hfirst, hrest, rfl⟩ := (resolve_chain_eq_ok_iff rfl).1 h
    obtain rfl := ha.unique (hv.alignsTo_of_isChain rfl)
    have hoperand : ∀ operand ∈ (Expr.chain base steps canonical).operands, ∀ out,
        ResolvesOperand c policy canonical operand out → ∀ position,
          Resolved.operandDiagnostics c.name position out =
            operandReports c canonical (operand, position) := by
      intro operand hmem out hout
      have hov := hv.operand operand hmem
      exact hout.diagnostics_eq (fun r => (ih operand hmem).1 hov)
        fun r => (ih operand hmem).2 hov.withoutSorts
    have hsteps := ResolvesStep.restDiagnostics_eq hrest
      (fun step hstep => hoperand _ (operand_mem_operands hstep)) 1
    rw [Resolved.diagnostics, hoperand _ List.mem_cons_self _ hfirst 0, hsteps,
      ResolvesStep.emulationReports_eq hrest, reports_chain, operands, List.zipIdx_cons,
      List.flatMap_cons]

/-! ## Warnings -/

/-- Some chain in the expression has an operand that is ordered. -/
def OrdersOperand (e : Expr) : Prop :=
  ∃ node ∈ e.nodes, node.isChain = true ∧ ∃ operand ∈ node.operands, operand.isOrdered = true

theorem ordersOperand_chain_iff {base : Expr} {steps : List (Step Expr)} {schema : Schema} :
    (chain base steps schema).OrdersOperand ↔ ∃ operand ∈ (chain base steps schema).operands,
      operand.isOrdered = true ∨ operand.OrdersOperand := by
  constructor
  · intro ⟨node, hnode, hchain, operand, hmem, hordered⟩
    rcases operands_subset_or_mem_operand hchain rfl hnode with hsub | ⟨outer, houter, hin⟩
    · exact ⟨operand, hsub hmem, .inl hordered⟩
    · exact ⟨outer, houter, .inr ⟨node, hin, hchain, operand, hmem, hordered⟩⟩
  · intro ⟨operand, hmem, h⟩
    rcases h with hordered | ⟨node, hnode, h⟩
    · exact ⟨_, self_mem_nodes _, rfl, operand, hmem, hordered⟩
    · exact ⟨node, nodes_operand_subset hmem hnode, h⟩

theorem PageOf.ordersOperand_iff {e input : Expr} {keys : List SortKey}
    {most skipped : Option Nat} (h : PageOf e input keys most skipped) :
    input.OrdersOperand ↔ e.OrdersOperand := by
  constructor
  · intro ⟨node, hmem, hnode, hoperand⟩
    exact ⟨node, (h.mem_nodes_iff hnode).1 hmem, hnode, hoperand⟩
  · intro ⟨node, hmem, hnode, hoperand⟩
    exact ⟨node, (h.mem_nodes_iff hnode).2 hmem, hnode, hoperand⟩

/-- Whether there is a warning among some reports. -/
def warns (reports : List Diagnostic) : Prop := ∃ d ∈ reports, d.isWarning = true

theorem warns_append {l r : List Diagnostic} : warns (l ++ r) ↔ warns l ∨ warns r := by
  simp only [warns, List.mem_append, or_and_right, exists_or]

theorem warns_flatMap {α : Type} {l : List α} {f : α → List Diagnostic} :
    warns (l.flatMap f) ↔ ∃ a ∈ l, warns (f a) := by
  simp only [warns, List.mem_flatMap]
  constructor
  · intro ⟨d, ⟨a, ha, hd⟩, hwarning⟩
    exact ⟨a, ha, d, hd, hwarning⟩
  · intro ⟨a, ha, d, hd, hwarning⟩
    exact ⟨d, ⟨a, ha, hd⟩, hwarning⟩

theorem not_warns_wideningReports (position : Nat) (canonical s : Schema) :
    ¬ warns (wideningReports position canonical s) := by
  intro ⟨d, hd, hwarning⟩
  obtain ⟨column, -, hcolumn⟩ := List.mem_filterMap.1 hd
  obtain ⟨declared, -, rfl⟩ := Option.map_eq_some_iff.1 hcolumn
  cases hwarning

theorem not_warns_emulationReports (c : Capabilities) (steps : List (Step Expr)) :
    ¬ warns (steps.filterMap fun step => c.emulationReport? step.op) := by
  intro ⟨d, hd, hwarning⟩
  obtain ⟨step, -, hstep⟩ := List.mem_filterMap.1 hd
  unfold Capabilities.emulationReport? at hstep
  split at hstep
  · cases hstep
    cases hwarning
  · cases hstep

theorem warns_operandReports (c : Capabilities) (canonical : Schema) (operand : Expr)
    (position : Nat) : warns (operandReports c canonical (operand, position)) ↔
      (operand.isOrdered = true ∧ c.subqueryOrder = false) ∨ warns (operand.reports c) := by
  have hdropped : warns (if operand.isOrdered && !c.subqueryOrder then
      [.orderDropped c.name position] else []) ↔
        operand.isOrdered = true ∧ c.subqueryOrder = false := by
    cases operand.isOrdered <;> cases c.subqueryOrder <;>
      simp [warns, Diagnostic.isWarning, Diagnostic.severity]
  rw [operandReports, warns_append, warns_append, hdropped,
    or_iff_left (not_warns_wideningReports _ _ _)]

/-- **A warning is reported exactly when an ordering is dropped.** -/
theorem warns_reports_iff (c : Capabilities) (e : Expr) :
    warns (e.reports c) ↔ c.subqueryOrder = false ∧ e.OrdersOperand := by
  induction e using operand_induction with
  | source origin schema => simp [reports, warns, OrdersOperand, nodes, isChain]
  | page e input keys most skipped hp ih => rw [← hp.reports_eq, ih, hp.ordersOperand_iff]
  | chain base steps schema ih =>
    have hoperands : warns ((chain base steps schema).operands.zipIdx.flatMap
        (operandReports c schema)) ↔ ∃ operand ∈ (chain base steps schema).operands,
          (operand.isOrdered = true ∧ c.subqueryOrder = false) ∨ warns (operand.reports c) := by
      rw [warns_flatMap]
      constructor
      · intro h
        obtain ⟨⟨operand, position⟩, hmem, hwarns⟩ := h
        exact ⟨operand, List.fst_mem_of_mem_zipIdx hmem, (warns_operandReports ..).1 hwarns⟩
      · intro h
        obtain ⟨operand, hmem, h⟩ := h
        rw [← List.zipIdx_map_fst 0 (chain base steps schema).operands] at hmem
        obtain ⟨⟨operand, position⟩, hpair, rfl⟩ := List.mem_map.1 hmem
        exact ⟨_, hpair, (warns_operandReports ..).2 h⟩
    rw [reports_chain, warns_append, or_iff_left (not_warns_emulationReports _ _), hoperands,
      ordersOperand_chain_iff]
    constructor
    · intro h
      obtain ⟨operand, hmem, h⟩ := h
      rcases h with ⟨hordered, hsub⟩ | hwarns
      · exact ⟨hsub, operand, hmem, .inl hordered⟩
      · obtain ⟨hsub, hinner⟩ := (ih operand hmem).1.1 hwarns
        exact ⟨hsub, operand, hmem, .inr hinner⟩
    · intro h
      obtain ⟨hsub, operand, hmem, h⟩ := h
      rcases h with hordered | hinner
      · exact ⟨operand, hmem, .inl ⟨hordered, hsub⟩⟩
      · exact ⟨operand, hmem, .inr ((ih operand hmem).1.2 ⟨hsub, hinner⟩)⟩

/-! ## The reports of a compilation -/

/-- **Every silent adjustment is reported once.** -/
theorem Built.diagnostics_exact {e : Expr} (h : Built e) {compiled : Compiled}
    (hok : e.compileFor c policy = .ok compiled) :
    compiled.diagnostics = e.reports c ∧
    (∀ d ∈ compiled.diagnostics, d.Shows d.code d.severity d.operand? d.message) ∧
    (compiled.hasWarnings = true ↔ c.subqueryOrder = false ∧ e.OrdersOperand) ∧
    compiled.query.casts.Perm (reportedCasts compiled.diagnostics) ∧
    (compiled.query.parts compiled.dialect).count castWord =
      compiled.diagnostics.countP (·.code = "L003") := by
  obtain ⟨r, hr, rfl⟩ := Except.map_eq_ok_iff.1 hok
  have hreports : r.diagnostics c.name = e.reports c := h.valid.diagnostics_of_resolve hr
  have hcasts := Resolved.casts_toQuery e.columnNames c.name r 0
  refine ⟨hreports, fun d _ => d.shows, ?_, hcasts, ?_⟩
  · rw [← warns_reports_iff, ← hreports]
    exact List.any_eq_true
  · rw [Query.count_cast_parts, hcasts.length_eq, length_reportedCasts]

/-- A cast and a dropped ordering. -/
theorem orderedRight_diagnostics :
    let c := { Capabilities.native ⟨"mssql"⟩ .msSql with subqueryOrder := false }
    ∃ compiled, orderedRight.compileFor c .drop = .ok compiled ∧
      compiled.diagnostics = [.widened 0 "_sw_rn" (.integer .i16) (.integer .i32),
        .orderDropped ⟨"mssql"⟩ 1] ∧
      compiled.hasWarnings = true := by
  intro c
  have hreports : (orderedRight.compileFor c .drop).map (·.diagnostics) =
      .ok [.widened 0 "_sw_rn" (.integer .i16) (.integer .i32), .orderDropped ⟨"mssql"⟩ 1] := by
    decide +kernel
  obtain ⟨compiled, hok, hdiagnostics⟩ := Except.map_eq_ok_iff.1 hreports
  have hordered : orderedRight.OrdersOperand :=
    ordersOperand_chain_iff.2 ⟨_, List.mem_cons_of_mem _ List.mem_cons_self, .inl rfl⟩
  exact ⟨compiled, hok, hdiagnostics,
    (built_orderedRight.diagnostics_exact hok).2.2.1.2 ⟨rfl, hordered⟩⟩

end Expr

end SetQuery
