import SetQuery.Proofs.Expr.Resolution

/-!
# Coherent schemas

**Theorem (`Built.schemas_agree`).** In an expression that the building functions made, every node
keeps what was checked when it was built: a chain has steps, its operands have columns, and its
schema is the canonical one of all operands of its left spine. Compiling such an expression fails
only for an operation that the backend lacks or an ordering that the policy keeps, and the schema of
the compiled statement is the one to which all operands of the outermost chain are cast.
-/

namespace SetQuery

/-! ## What each node promises -/

/-- A node keeps what was checked when it was built. -/
def Expr.Coherent : Expr → Prop
  | .source _ _ => True
  | .chain base steps schema =>
    steps ≠ [] ∧ (∀ operand ∈ base :: steps.map (·.operand), operand.schema.isEmpty = false) ∧
      (∀ operand ∈ (chain base steps schema).operands, operand.schema.isEmpty = false) ∧
      AlignsTo ((chain base steps schema).operands.map (·.schema)) schema
  | .sort input keys => keys ≠ [] ∧ ∀ key ∈ keys, key.column ∈ input.schema.names
  | .limit _ most skipped => most.isSome ∨ ∃ n, skipped = some n ∧ 0 < n

namespace Expr.Valid

theorem node {e : Expr} (h : e.Valid) : ∀ node ∈ e.nodes, node.Valid := by
  induction h with
  | source origin schema =>
    intro node hnode
    cases List.mem_singleton.1 hnode
    exact .source origin schema
  | @chain base steps schema hbase hsteps hne ha ihb ihs =>
    intro node hnode
    simp only [nodes, List.mem_cons, List.mem_append, mem_stepNodes] at hnode
    rcases hnode with rfl | hnode | ⟨step, hstep, hnode⟩
    · exact .chain hbase hsteps hne ha
    · exact ihb node hnode
    · exact ihs step hstep node hnode
  | sort h hk hkeys ih =>
    intro node hnode
    rcases List.mem_cons.1 hnode with rfl | hnode
    · exact .sort h hk hkeys
    · exact ih node hnode
  | limit h hs ih =>
    intro node hnode
    rcases List.mem_cons.1 hnode with rfl | hnode
    · exact .limit h hs
    · exact ih node hnode

theorem coherent {e : Expr} (h : e.Valid) : e.Coherent := by
  cases h with
  | source => trivial
  | @chain base steps schema hbase hsteps hne ha =>
    have hdirect := (alignsTo_cons_iff.1 ha).1
    have hflat := (Valid.chain hbase hsteps hne ha).alignsTo ha.isEmpty_eq_false
    refine ⟨hne, fun operand hmem => hdirect _ ?_, fun operand hmem => ?_, hflat⟩
    · rcases List.mem_cons.1 hmem with rfl | hmem
      · exact List.mem_cons_self
      · obtain ⟨step, hstep, rfl⟩ := List.mem_map.1 hmem
        exact List.mem_cons_of_mem _ (List.mem_map_of_mem hstep)
    · exact (alignsTo_cons_iff.1 hflat).1 _ (List.mem_map_of_mem hmem)
  | sort _ hk hkeys => exact ⟨hk, hkeys⟩
  | limit _ hs => exact hs

end Expr.Valid

/-! ## How compiling fails -/

/-- The errors with which an expression that was built can fail on a backend. -/
inductive PlanError.OfBackend (c : Capabilities) : PlanError → Prop
  | operation (op : SetOp) : OfBackend c (.unsupportedOperation c.name op)
  | ordering (position : Nat) : OfBackend c (.unsupportedSubqueryOrder c.name position)

theorem Expr.Valid.ofBackend_of_resolve {c : Capabilities} {policy : OrderPolicy} {e : Expr}
    (hv : e.Valid) {err : PlanError} (h : e.resolve c policy = .error err) :
    PlanError.OfBackend c err := by
  induction e using Expr.operand_induction generalizing err with
  | source origin schema => cases origin <;> · rw [Expr.resolve] at h; cases h
  | page e input keys most skipped hp ih =>
    rw [hp.resolve_eq, Except.map_eq_error_iff] at h
    exact ih (hp.valid hv) h
  | chain base steps schema ih =>
    have ha := hv.alignsTo_of_isChain rfl
    obtain ⟨step, -, hstep⟩ | ⟨operand, hmem, position, hoperand⟩ :=
      Expr.of_resolve_chain_eq_error rfl ha h
    · rw [Capabilities.eq_of_resolve_eq_error hstep]
      exact .operation _
    · have hov := hv.operand operand hmem
      rcases Expr.of_resolveOperand_eq_error hoperand with ⟨rfl, -, -⟩ | h | h
      · exact .ordering position
      · exact (ih operand hmem).1 hov h
      · exact (ih operand hmem).2 hov.withoutSorts h

/-! ## The outermost chain -/

/-- The expression without the orderings and limits around it. -/
def Expr.core : Expr → Expr
  | .sort input _ => input.core
  | .limit input _ _ => input.core
  | e => e

/-- The resolved expression without the orderings and limits around it. -/
def Resolved.core : Resolved → Resolved
  | .page input _ _ _ => input.core
  | r => r

namespace Expr

theorem core_withoutSort (e : Expr) : e.withoutSort.core = e.core := by
  cases e <;> rfl

theorem PageOf.core_eq {e input : Expr} {keys : List SortKey} {most skipped : Option Nat}
    (h : PageOf e input keys most skipped) : input.core = e.core := by
  cases h with
  | sort input keys => exact core_withoutSort input
  | limitSort input keys most skipped => exact core_withoutSort input
  | limit => rfl

theorem schema_core : ∀ e : Expr, e.core.schema = e.schema
  | .sort input _ => schema_core input
  | .limit input _ _ => schema_core input
  | .source _ _ => rfl
  | .chain _ _ _ => rfl

theorem Valid.core {e : Expr} (h : e.Valid) : e.core.Valid := by
  induction h with
  | source origin schema => exact .source origin schema
  | chain hbase hsteps hne ha _ _ => exact .chain hbase hsteps hne ha
  | sort _ _ _ ih => exact ih
  | limit _ _ ih => exact ih

/-- Resolving goes through the orderings and limits around an expression. -/
theorem resolve_core {c : Capabilities} {policy : OrderPolicy} {e : Expr} {r : Resolved}
    (h : e.resolve c policy = .ok r) : e.core.resolve c policy = .ok r.core := by
  induction e using operand_induction generalizing r with
  | source origin schema =>
    cases origin <;>
    · have hr := h
      rw [resolve] at hr
      cases hr
      exact h
  | page e input keys most skipped hp ih =>
    obtain ⟨page, hpage, rfl⟩ := hp.resolve_eq_ok_iff.1 h
    have hcore := ih hpage
    rw [hp.core_eq] at hcore
    exact hcore
  | chain base steps schema ih =>
    obtain ⟨canonical, first, rest, -, -, -, rfl⟩ := (resolve_chain_eq_ok_iff rfl).1 h
    exact h

theorem ResolvesOperand.columns_eq {c : Capabilities} {policy : OrderPolicy} {canonical : Schema}
    {e : Expr} {operand : Operand Resolved} (h : ResolvesOperand c policy canonical e operand) :
    operand.columns = columnReads canonical e.schema := by
  cases h <;> rfl

/-- All operands of a chain that resolves are read with the columns of its canonical schema. -/
theorem columns_of_resolve_chain {c : Capabilities} {policy : OrderPolicy} {e : Expr}
    {r : Resolved} (hc : e.isChain = true) (hv : e.Valid) (h : e.resolve c policy = .ok r) :
    ∃ first rest, r = .chain e.schema.names first rest ∧
      (first :: rest.map (·.operand)).map (·.columns) =
        e.operands.map fun operand => columnReads e.schema operand.schema := by
  obtain ⟨canonical, first, rest, ha, hfirst, hrest, rfl⟩ := (resolve_chain_eq_ok_iff hc).1 h
  obtain rfl := ha.unique (hv.alignsTo_of_isChain hc)
  refine ⟨first, rest, rfl, ?_⟩
  have htail : (rest.map (·.operand)).map (·.columns) =
      (e.flatSteps.map (·.operand)).map fun operand => columnReads e.schema operand.schema := by
    rw [List.map_map, List.map_map]
    exact map_eq_map_of_forall₂ (hrest.flip.imp fun _ _ hstep => hstep.operand.columns_eq)
  rw [operands, List.map_cons, List.map_cons, hfirst.columns_eq, htail]

/-- **Building and compiling agree on schemas.** Every node of an expression that was built is
coherent; compiling it fails only for the backend's sake; and when it succeeds, the schema of the
statement is the canonical schema of the outermost chain, as which all its operands are read. -/
theorem Built.schemas_agree {e : Expr} (h : Built e) :
    (∀ node ∈ e.nodes, node.Coherent) ∧ ∀ (c : Capabilities) (policy : OrderPolicy),
      (∀ err, e.compileFor c policy = .error err → PlanError.OfBackend c err) ∧
      ∀ compiled, e.compileFor c policy = .ok compiled →
        ∃ r, e.resolve c policy = .ok r ∧ compiled.query = (r.toQuery e.columnNames 0).1 ∧
          compiled.schema = e.schema ∧ (e.core.isChain = true →
            AlignsTo (e.core.operands.map (·.schema)) compiled.schema ∧
            ∃ first rest, r.core = .chain compiled.schema.names first rest ∧
              (first :: rest.map (·.operand)).map (·.columns) =
                e.core.operands.map fun operand =>
                  columnReads compiled.schema operand.schema) := by
  have hv := h.valid
  refine ⟨fun node hnode => (hv.node node hnode).coherent, fun c policy => ⟨?_, ?_⟩⟩
  · intro err herr
    exact hv.ofBackend_of_resolve (Except.map_eq_error_iff.1 herr)
  · intro compiled hok
    obtain ⟨r, hr, rfl⟩ := Except.map_eq_ok_iff.1 hok
    refine ⟨r, hr, rfl, rfl, fun hc => ?_⟩
    have hcore := hv.core
    rw [← schema_core e]
    exact ⟨hcore.alignsTo (hcore.isEmpty_eq_false_of_isChain hc),
      columns_of_resolve_chain hc hcore (resolve_core hr)⟩

theorem nested_schemas_agree : (∀ node ∈ nested.nodes, node.Coherent) ∧
    ∀ c policy err, nested.compileFor c policy = .error err → PlanError.OfBackend c err :=
  ⟨(Built.schemas_agree built_nested).1, fun c policy =>
    ((Built.schemas_agree built_nested).2 c policy).1⟩

end Expr

end SetQuery
