import SetQuery.Proofs.Expr.Resolution
import SetQuery.Proofs.Renaming.Schema

/-!
# Renaming expressions

An expression with new names for its tables, its columns and the sort keys; texts of queries stay as
they are. The building functions accept the renamed expression when they accepted the expression
(`Built.rename`).

**Theorem (`Valid.resolve_rename`).** Resolving commutes with renaming, also where it fails: which
operations a backend lacks and which orderings are refused does not depend on names, and the schemas
of a chain align under the new names because they aligned under the old ones.
-/

namespace SetQuery

/-! ## New names in an expression -/

/-- The source with the new name of its table. -/
def Source.rename (ρ : Renaming) : Source → Source
  | .table name => .table (ρ.table name)
  | .query sql => .query sql

/-- The key with the new name of its column. -/
def SortKey.rename (ρ : Renaming) (key : SortKey) : SortKey :=
  { key with column := ρ.column key.column }

namespace Expr

mutual

/-- The expression with new names for its tables and columns. -/
def rename (ρ : Renaming) : Expr → Expr
  | .source origin schema => .source (origin.rename ρ) (schema.rename ρ)
  | .chain base steps schema => .chain (base.rename ρ) (renameSteps ρ steps) (schema.rename ρ)
  | .sort input keys => .sort (input.rename ρ) (keys.map (·.rename ρ))
  | .limit input most skipped => .limit (input.rename ρ) most skipped

/-- The steps with new names in their operands. -/
def renameSteps (ρ : Renaming) : List (Step Expr) → List (Step Expr)
  | [] => []
  | ⟨op, operand⟩ :: rest => ⟨op, operand.rename ρ⟩ :: renameSteps ρ rest

end

/-- The step with new names in its operand. -/
def renameStep (ρ : Renaming) (step : Step Expr) : Step Expr := ⟨step.op, step.operand.rename ρ⟩

section

variable (ρ : Renaming)

theorem renameSteps_eq_map (steps : List (Step Expr)) :
    renameSteps ρ steps = steps.map (renameStep ρ) := by
  induction steps with
  | nil => rfl
  | cons step rest ih => rw [renameSteps, ih]; rfl

theorem schema_rename : ∀ e : Expr, (e.rename ρ).schema = e.schema.rename ρ
  | .sort input _ => schema_rename input
  | .limit input _ _ => schema_rename input
  | .source _ _ => rfl
  | .chain _ _ _ => rfl

@[simp] theorem isOrdered_rename (e : Expr) : (e.rename ρ).isOrdered = e.isOrdered := by
  cases e <;> rfl

@[simp] theorem isChain_rename (e : Expr) : (e.rename ρ).isChain = e.isChain := by
  cases e <;> rfl

theorem withoutSort_rename (e : Expr) : (e.rename ρ).withoutSort = e.withoutSort.rename ρ := by
  cases e <;> rfl

theorem withoutSorts_rename : ∀ e : Expr, (e.rename ρ).withoutSorts = e.withoutSorts.rename ρ
  | .sort input _ => withoutSorts_rename input
  | .source _ _ => rfl
  | .chain _ _ _ => rfl
  | .limit _ _ _ => rfl

theorem leftmost_rename : ∀ e : Expr, (e.rename ρ).leftmost = e.leftmost.rename ρ
  | .chain base _ _ => leftmost_rename base
  | .source _ _ => rfl
  | .sort _ _ => rfl
  | .limit _ _ _ => rfl

theorem flatSteps_rename : ∀ e : Expr, (e.rename ρ).flatSteps = e.flatSteps.map (renameStep ρ)
  | .chain base steps _ => by
    rw [rename, flatSteps, flatSteps_rename base, renameSteps_eq_map, flatSteps, List.map_append]
  | .source _ _ => rfl
  | .sort _ _ => rfl
  | .limit _ _ _ => rfl

theorem operands_rename (e : Expr) : (e.rename ρ).operands = e.operands.map (·.rename ρ) := by
  simp [operands, leftmost_rename, flatSteps_rename, renameStep]

theorem chainSchemas_rename (base : Expr) (steps : List (Step Expr)) :
    chainSchemas (base.rename ρ) (steps.map (renameStep ρ)) =
      (chainSchemas base steps).map (·.rename ρ) := by
  simp [chainSchemas, schema_rename, renameStep]

variable {ρ}

theorem PageOf.rename {e input : Expr} {keys : List SortKey} {most skipped : Option Nat}
    (h : PageOf e input keys most skipped) :
    PageOf (e.rename ρ) (input.rename ρ) (keys.map (·.rename ρ)) most skipped := by
  cases h with
  | sort input keys =>
    rw [← withoutSort_rename]
    exact .sort _ _
  | limitSort input keys most skipped =>
    rw [← withoutSort_rename]
    exact .limitSort _ _ _ _
  | limit most skipped hordered => exact .limit _ _ (by rw [isOrdered_rename, hordered])

mutual

/-- The columns of the renamed expression have the new names. -/
theorem columnNames_rename : ∀ {e : Expr}, ρ.Separates e.columnNames →
    (e.rename ρ).columnNames = e.columnNames.map ρ.column
  | .source _ _, h => Schema.names_rename h
  | .chain base steps schema, h => by
    have hschema : ρ.Separates schema.names := h.mono (by simp [columnNames])
    have hbase : ρ.Separates base.columnNames := h.mono (by simp [columnNames])
    have hsteps : ρ.Separates (stepColumnNames steps) := h.mono (by simp [columnNames])
    simp only [rename, columnNames, Schema.names_rename hschema, columnNames_rename hbase,
      stepColumnNames_rename hsteps, List.map_append]
  | .sort input _, h => columnNames_rename (e := input) h
  | .limit input _ _, h => columnNames_rename (e := input) h

theorem stepColumnNames_rename : ∀ {steps : List (Step Expr)},
    ρ.Separates (stepColumnNames steps) →
      stepColumnNames (renameSteps ρ steps) = (stepColumnNames steps).map ρ.column
  | [], _ => rfl
  | ⟨_, operand⟩ :: rest, h => by
    have hoperand : ρ.Separates operand.columnNames := h.mono (by simp [stepColumnNames])
    have hrest : ρ.Separates (stepColumnNames rest) := h.mono (by simp [stepColumnNames])
    simp only [renameSteps, stepColumnNames, columnNames_rename hoperand,
      stepColumnNames_rename hrest, List.map_append]

end

end

/-! ## Building -/

variable {ρ : Renaming}

theorem limitOffset_rename (e : Expr) (most : Option Nat) (skipped : Nat) :
    (e.limitOffset most skipped).rename ρ = (e.rename ρ).limitOffset most skipped := by
  unfold limitOffset
  split <;> rfl

/-- **What was built can be built under other names.** -/
theorem Built.rename {e : Expr} (h : Built e) (hρ : ρ.Separates e.columnNames) :
    Built (e.rename ρ) := by
  induction h with
  | table name schema => exact .table _ _
  | query sql schema => exact .query sql _
  | @orderBy e e' keys _ h ih =>
    rcases orderBy_eq_ok_iff.1 h with ⟨-, rfl⟩ | ⟨hk, hkeys, rfl⟩
    · exact ih hρ
    · refine .orderBy (keys.map (·.rename ρ)) (ih hρ) (orderBy_eq_ok_iff.2 (.inr ⟨?_, ?_, rfl⟩))
      · simpa using hk
      · rw [List.forall_mem_map, schema_rename,
          Schema.names_rename (hρ.mono (names_subset_columnNames e))]
        intro key hkey
        exact List.mem_map_of_mem (hkeys key hkey)
  | @limitOffset e most skipped _ ih =>
    have hnames : (e.limitOffset most skipped).columnNames = e.columnNames := by
      unfold Expr.limitOffset
      split <;> rfl
    rw [limitOffset_rename]
    exact .limitOffset most skipped (ih (hnames ▸ hρ))
  | @chainOf base e steps _ _ h ihb ihs =>
    rcases chainOf_eq_ok_iff.1 h with ⟨-, rfl⟩ | ⟨hs, schema, ha, rfl⟩
    · exact ihb hρ
    · have hbase := hρ.mono (columnNames_subset (nodes_base_subset base steps schema))
      refine @Built.chainOf _ _ (steps.map (renameStep ρ)) (ihb hbase) ?_ ?_
      · rw [List.forall_mem_map]
        intro step hstep
        exact ihs step hstep
          (hρ.mono (columnNames_subset (nodes_step_subset hstep base schema)))
      · rw [chainOf_eq_ok_iff]
        refine .inr ⟨by simpa using hs, schema.rename ρ, ?_, ?_⟩
        · rw [chainSchemas_rename]
          exact ha.rename (hbase.mono (names_subset_columnNames base))
        · rw [Expr.rename, renameSteps_eq_map]

end Expr

/-! ## Resolving -/

namespace Resolved

mutual

/-- The resolved expression with new names for its tables and columns. -/
def rename (ρ : Renaming) : Resolved → Resolved
  | .table columns name => .table (columns.map ρ.column) (ρ.table name)
  | .query sql => .query sql
  | .page input keys limit offset => .page (input.rename ρ) (keys.map (·.rename ρ)) limit offset
  | .chain columns first rest =>
    .chain (columns.map ρ.column) (renameOperand ρ first) (renameRest ρ rest)

/-- The operand with new names. -/
def renameOperand (ρ : Renaming) : Operand Resolved → Operand Resolved
  | .table name columns => .table (ρ.table name) (columns.map (·.rename ρ))
  | .relation input dropped columns =>
    .relation (input.rename ρ) dropped (columns.map (·.rename ρ))

/-- The steps with new names in their operands. -/
def renameRest (ρ : Renaming) : List (ResolvedStep Resolved) → List (ResolvedStep Resolved)
  | [] => []
  | ⟨op, method, operand⟩ :: rest => ⟨op, method, renameOperand ρ operand⟩ :: renameRest ρ rest

end

theorem recordSteps_renameRest (ρ : Renaming) (rest : List (ResolvedStep Resolved)) :
    recordSteps (renameRest ρ rest) = recordSteps rest := by
  induction rest with
  | nil => rfl
  | cons step rest ih => exact congrArg (_ :: ·) ih

mutual

/-- The report on steps names no columns or tables. -/
theorem steps_rename (ρ : Renaming) : ∀ r : Resolved, (r.rename ρ).steps = r.steps
  | .table _ _ => rfl
  | .query _ => rfl
  | .page input _ _ _ => steps_rename ρ input
  | .chain _ first rest => by
    rw [rename, steps, operandSteps_rename ρ first, restSteps_rename ρ rest,
      recordSteps_renameRest, steps]

theorem operandSteps_rename (ρ : Renaming) :
    ∀ operand : Operand Resolved, operandSteps (renameOperand ρ operand) = operandSteps operand
  | .table _ _ => rfl
  | .relation input _ _ => steps_rename ρ input

theorem restSteps_rename (ρ : Renaming) :
    ∀ rest : List (ResolvedStep Resolved), restSteps (renameRest ρ rest) = restSteps rest
  | [] => rfl
  | ⟨_, _, operand⟩ :: rest => by
    rw [renameRest, restSteps, operandSteps_rename ρ operand, restSteps_rename ρ rest, restSteps]

end

end Resolved

namespace Expr

variable {ρ : Renaming} {c : Capabilities} {policy : OrderPolicy} {canonical : Schema}
  {names : List String}

theorem resolveOperand_rename (hρ : ρ.Separates names) (hcanonical : canonical.names ⊆ names)
    {e : Expr} (he : e.schema.names ⊆ names)
    (ih : (e.rename ρ).resolve c policy = (e.resolve c policy).map (·.rename ρ))
    (ihs : (e.withoutSorts.rename ρ).resolve c policy =
      (e.withoutSorts.resolve c policy).map (·.rename ρ)) (position : Nat) :
    resolveOperand c policy (canonical.rename ρ) position (e.rename ρ) =
      (resolveOperand c policy canonical position e).map (Resolved.renameOperand ρ) := by
  have hreads := columnReads_rename hρ hcanonical he
  cases operandCase c e with
  | table name schema =>
    rw [rename, Source.rename, resolveOperand_table, resolveOperand_table]
    exact congrArg (fun reads => Except.ok (Operand.table (ρ.table name) reads)) hreads
  | ordered hordered hsub =>
    have hordered' : (e.rename ρ).isOrdered = true := by rw [isOrdered_rename, hordered]
    cases policy with
    | strict =>
      rw [resolveOperand_strict _ _ hordered hsub, resolveOperand_strict _ _ hordered' hsub]
      rfl
    | drop =>
      rw [resolveOperand_drop _ _ hordered hsub, resolveOperand_drop _ _ hordered' hsub,
        withoutSorts_rename, ihs, schema_rename, hreads]
      cases e.withoutSorts.resolve c .drop <;> rfl
  | kept hne hkept =>
    have hne' : ∀ name schema, e.rename ρ ≠ .source (.table name) schema := by
      intro name schema heq
      cases e with
      | source origin schema' =>
        cases origin with
        | table name' => exact hne name' schema' rfl
        | query sql => cases heq
      | _ => cases heq
    rw [resolveOperand_kept _ _ _ hne hkept,
      resolveOperand_kept _ _ _ hne' (by rw [isOrdered_rename, hkept]), ih, schema_rename, hreads]
    cases e.resolve c policy <;> rfl

theorem resolveSteps_rename {steps : List (Step Expr)} {methods : List Method}
    (h : ∀ step ∈ steps, ∀ position,
      resolveOperand c policy (canonical.rename ρ) position (step.operand.rename ρ) =
        (resolveOperand c policy canonical position step.operand).map (Resolved.renameOperand ρ))
    (position : Nat) :
    resolveSteps c policy (canonical.rename ρ) position (steps.map (renameStep ρ)) methods =
      (resolveSteps c policy canonical position steps methods).map (Resolved.renameRest ρ) := by
  induction steps generalizing position methods with
  | nil =>
    rw [List.map_nil, resolveSteps_nil, resolveSteps_nil]
    rfl
  | cons step steps ih =>
    obtain ⟨hoperand, hsteps⟩ := List.forall_mem_cons.1 h
    cases methods with
    | nil =>
      rw [resolveSteps_without_methods, resolveSteps_without_methods]
      rfl
    | cons method methods =>
      rw [List.map_cons, resolveSteps_cons, resolveSteps_cons, ih hsteps (position + 1), renameStep,
        hoperand position]
      exact Except.seq_map _ _ fun _ _ => rfl

/-- The schemas of a chain align under the new names, too. -/
theorem Valid.alignsTo_rename {e : Expr} (hv : e.Valid) (hc : e.isChain = true)
    (hρ : ρ.Separates e.columnNames) :
    AlignsTo ((e.rename ρ).operands.map (·.schema)) (e.schema.rename ρ) := by
  have hschemas : (e.rename ρ).operands.map (·.schema) =
      (e.operands.map (·.schema)).map (·.rename ρ) := by
    simp [operands_rename, schema_rename]
  rw [hschemas]
  refine (hv.alignsTo_of_isChain hc).rename (hρ.mono fun name hname => ?_)
  exact columnNames_subset (nodes_leftmost_subset e) (names_subset_columnNames _ hname)

theorem Valid.resolve_rename_chain {e : Expr} (hv : e.Valid) (hc : e.isChain = true)
    (hρ : ρ.Separates e.columnNames) (h : ∀ operand ∈ e.operands, ∀ position,
      resolveOperand c policy (e.schema.rename ρ) position (operand.rename ρ) =
        (resolveOperand c policy e.schema position operand).map (Resolved.renameOperand ρ)) :
    (e.rename ρ).resolve c policy = (e.resolve c policy).map (·.rename ρ) := by
  have ha := hv.alignsTo_of_isChain hc
  have hc' : (e.rename ρ).isChain = true := by rw [isChain_rename, hc]
  rw [resolve_chain_of_alignsTo hc ha, resolve_chain_of_alignsTo hc' (hv.alignsTo_rename hc hρ),
    leftmost_rename, flatSteps_rename, List.mapM_map, Except.map_bind]
  -- the methods depend on the operations only, and these have no names
  refine congrArg ((e.flatSteps.mapM fun step => c.resolve step.op) >>= ·)
    (funext fun methods => ?_)
  rw [h _ List.mem_cons_self 0,
    resolveSteps_rename (fun step hstep => h _ (operand_mem_operands hstep)) 1]
  refine Except.seq_map _ _ fun first rest => ?_
  rw [Resolved.rename, Schema.names_rename (hρ.mono (names_subset_columnNames e))]

/-- **Resolving commutes with renaming.** -/
theorem Valid.resolve_rename {e : Expr} (hv : e.Valid) (hρ : ρ.Separates e.columnNames)
    (c : Capabilities) (policy : OrderPolicy) :
    (e.rename ρ).resolve c policy = (e.resolve c policy).map (·.rename ρ) := by
  induction e using operand_induction with
  | source origin schema =>
    cases origin with
    | table name =>
      rw [Expr.rename, Source.rename, resolve, resolve, Schema.names_rename hρ]
      rfl
    | query sql =>
      rw [Expr.rename, Source.rename, resolve, resolve]
      rfl
  | page e input keys most skipped hp ih =>
    have hinput := ih (hp.valid hv) (hρ.mono (columnNames_subset hp.nodes_subset))
    rw [hp.resolve_eq, hp.rename.resolve_eq, hinput]
    cases input.resolve c policy <;> rfl
  | chain base steps schema ih =>
    refine hv.resolve_rename_chain rfl hρ fun operand hmem position => ?_
    have hov := hv.operand operand hmem
    have hsub := columnNames_subset (nodes_operand_subset hmem)
    have hsorts := columnNames_subset (nodes_withoutSorts_subset operand)
    exact resolveOperand_rename hρ (names_subset_columnNames _)
      (fun _ hname => hsub (names_subset_columnNames operand hname))
      ((ih operand hmem).1 hov (hρ.mono hsub))
      ((ih operand hmem).2 hov.withoutSorts (hρ.mono fun _ hname => hsub (hsorts hname))) position

end Expr

end SetQuery
