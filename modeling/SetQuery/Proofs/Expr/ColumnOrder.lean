import SetQuery.Proofs.Expr.Resolution
import SetQuery.Proofs.Schema.ColumnOrder
import SetQuery.Proofs.Sql.Names

/-!
# Tables with their columns in another order

A chain reads the columns of its operands by name, so a table on the right of an operation may
declare its columns in any order. `TablesReordered` relates expressions that differ in nothing else,
however many such tables there are and wherever they stand.

**Theorem (`column_order_irrelevant`).** Alignment does not depend on the order of the operands'
columns, except that the canonical columns follow the first operand. And an expression of which such
tables have their columns in another order is built as before and compiles to the same statement, or
fails with the same error, on every backend.
-/

namespace SetQuery

theorem columnReads_eq_of_perm {s s' : Schema} (h : s.columns.Perm s'.columns)
    (canonical : Schema) : columnReads canonical s = columnReads canonical s' := by
  simp only [columnReads, Schema.find?_eq_of_perm h]

namespace Expr

/-! ## Reordered tables -/

mutual

/-- The second expression is the first one with the columns of some tables in another order. These
tables are right-hand operands of set operations. -/
inductive TablesReordered : Expr → Expr → Prop
  | source (origin : Source) (schema : Schema) :
      TablesReordered (.source origin schema) (.source origin schema)
  | chain {base base' : Expr} {steps steps' : List (Step Expr)} (schema : Schema) :
      TablesReordered base base' → StepsReordered steps steps' →
      TablesReordered (.chain base steps schema) (.chain base' steps' schema)
  | sort {input input' : Expr} (keys : List SortKey) : TablesReordered input input' →
      TablesReordered (.sort input keys) (.sort input' keys)
  | limit {input input' : Expr} (most skipped : Option Nat) : TablesReordered input input' →
      TablesReordered (.limit input most skipped) (.limit input' most skipped)

/-- The same for an operand on the right, which may be such a table itself. -/
inductive OperandReordered : Expr → Expr → Prop
  | inside {e e' : Expr} : TablesReordered e e' → OperandReordered e e'
  | table (name : String) {s s' : Schema} : s.columns.Perm s'.columns →
      OperandReordered (.source (.table name) s) (.source (.table name) s')

/-- The same for the operands of some steps. -/
inductive StepsReordered : List (Step Expr) → List (Step Expr) → Prop
  | nil : StepsReordered [] []
  | cons {operand operand' : Expr} {rest rest' : List (Step Expr)} (op : SetOp) :
      OperandReordered operand operand' → StepsReordered rest rest' →
      StepsReordered (⟨op, operand⟩ :: rest) (⟨op, operand'⟩ :: rest')

end

mutual

theorem TablesReordered.refl : ∀ e : Expr, TablesReordered e e
  | .source origin schema => .source origin schema
  | .chain base steps schema => .chain schema (.refl base) (.refl steps)
  | .sort input keys => .sort keys (.refl input)
  | .limit input most skipped => .limit most skipped (.refl input)

theorem StepsReordered.refl : ∀ steps : List (Step Expr), StepsReordered steps steps
  | [] => .nil
  | ⟨op, operand⟩ :: rest => .cons op (.inside (.refl operand)) (.refl rest)

end

variable {e e' : Expr} {steps steps' r r' : List (Step Expr)}

/-! ## What stays the same -/

theorem TablesReordered.schema_eq : ∀ {e e' : Expr}, TablesReordered e e' → e.schema = e'.schema
  | _, _, .source _ _ => rfl
  | _, _, .chain _ _ _ => rfl
  | _, _, .sort _ h => h.schema_eq
  | _, _, .limit _ _ h => h.schema_eq

theorem OperandReordered.columns_perm (h : OperandReordered e e') :
    e.schema.columns.Perm e'.schema.columns := by
  cases h with
  | inside h => rw [h.schema_eq]
  | table name h => exact h

/-- Step by step the operations are the same and the operands are reordered. -/
theorem StepsReordered.forall₂ : ∀ {steps steps' : List (Step Expr)}, StepsReordered steps steps' →
    List.Forall₂ (fun step step' => step.op = step'.op ∧
      OperandReordered step.operand step'.operand) steps steps'
  | _, _, .nil => .nil
  | _, _, .cons _ ho h => .cons ⟨rfl, ho⟩ h.forall₂

theorem StepsReordered.sameColumns (h : StepsReordered steps steps') :
    SameColumns (steps.map (·.operand.schema)) (steps'.map (·.operand.schema)) := by
  rw [SameColumns, List.forall₂_map_left_iff, List.forall₂_map_right_iff]
  exact h.forall₂.imp fun _ _ h => h.2.columns_perm

theorem StepsReordered.ops_eq (h : StepsReordered steps steps') :
    steps.map (·.op) = steps'.map (·.op) :=
  map_eq_map_of_forall₂ (h.forall₂.imp fun _ _ h => h.1)

theorem StepsReordered.append : ∀ {l l' : List (Step Expr)}, StepsReordered l l' →
    StepsReordered r r' → StepsReordered (l ++ r) (l' ++ r')
  | _, _, .nil, h => h
  | _, _, .cons op ho hl, h => .cons op ho (hl.append h)

theorem TablesReordered.leftmost : ∀ {e e' : Expr}, TablesReordered e e' →
    TablesReordered e.leftmost e'.leftmost
  | _, _, .chain _ h _ => h.leftmost
  | _, _, .source origin schema => .source origin schema
  | _, _, .sort keys h => .sort keys h
  | _, _, .limit most skipped h => .limit most skipped h

theorem TablesReordered.flatSteps : ∀ {e e' : Expr}, TablesReordered e e' →
    StepsReordered e.flatSteps e'.flatSteps
  | _, _, .chain _ h hsteps => h.flatSteps.append hsteps
  | _, _, .source _ _ => .nil
  | _, _, .sort _ _ => .nil
  | _, _, .limit _ _ _ => .nil

theorem TablesReordered.withoutSort (h : TablesReordered e e') :
    TablesReordered e.withoutSort e'.withoutSort := by
  cases h with
  | sort keys h => exact h
  | source origin schema => exact .source origin schema
  | chain schema h hsteps => exact .chain schema h hsteps
  | limit most skipped h => exact .limit most skipped h

theorem TablesReordered.withoutSorts : ∀ {e e' : Expr}, TablesReordered e e' →
    TablesReordered e.withoutSorts e'.withoutSorts
  | _, _, .sort _ h => h.withoutSorts
  | _, _, .source origin schema => .source origin schema
  | _, _, .chain schema h hsteps => .chain schema h hsteps
  | _, _, .limit most skipped h => .limit most skipped h

theorem TablesReordered.isOrdered_eq (h : TablesReordered e e') :
    e.isOrdered = e'.isOrdered := by
  cases h <;> rfl

theorem TablesReordered.ne_table (h : TablesReordered e e')
    (hne : ∀ name schema, e ≠ .source (.table name) schema) (name : String) (schema : Schema) :
    e' ≠ .source (.table name) schema := by
  cases h with
  | source origin s => exact hne name schema
  | _ => exact nofun

theorem TablesReordered.pageOf {input : Expr} {keys : List SortKey} {most skipped : Option Nat}
    (h : TablesReordered e e') (hp : PageOf e input keys most skipped) :
    ∃ input', PageOf e' input' keys most skipped ∧ TablesReordered input input' := by
  cases hp with
  | sort input keys =>
    cases h with
    | sort _ h => exact ⟨_, .sort _ keys, h.withoutSort⟩
  | limitSort input keys most skipped =>
    cases h with
    | limit _ _ h =>
      cases h with
      | sort _ h => exact ⟨_, .limitSort _ keys most skipped, h.withoutSort⟩
  | limit most skipped hinput =>
    cases h with
    | limit _ _ h => exact ⟨_, .limit most skipped (h.isOrdered_eq ▸ hinput), h⟩

mutual

/-- The same names are reserved. -/
theorem TablesReordered.mem_columnNames_iff {x : String} :
    ∀ {e e' : Expr}, TablesReordered e e' → (x ∈ e.columnNames ↔ x ∈ e'.columnNames)
  | _, _, .source _ _ => Iff.rfl
  | _, _, .chain _ h hsteps => by
    simp only [columnNames, List.mem_append, h.mem_columnNames_iff, hsteps.mem_columnNames_iff]
  | _, _, .sort _ h => h.mem_columnNames_iff
  | _, _, .limit _ _ h => h.mem_columnNames_iff

theorem OperandReordered.mem_columnNames_iff {x : String} :
    ∀ {e e' : Expr}, OperandReordered e e' → (x ∈ e.columnNames ↔ x ∈ e'.columnNames)
  | _, _, .inside h => h.mem_columnNames_iff
  | _, _, .table _ h => (h.map (·.name)).mem_iff

theorem StepsReordered.mem_columnNames_iff {x : String} :
    ∀ {steps steps' : List (Step Expr)}, StepsReordered steps steps' →
      (x ∈ stepColumnNames steps ↔ x ∈ stepColumnNames steps')
  | _, _, .nil => Iff.rfl
  | _, _, .cons _ ho h => by
    simp only [stepColumnNames, List.mem_append, ho.mem_columnNames_iff, h.mem_columnNames_iff]

end

/-! ## Building -/

/-- The steps still align with the base of the chain, and to the same schema. -/
theorem StepsReordered.alignsTo_iff (hbase : TablesReordered e e') (h : StepsReordered steps steps')
    {schema : Schema} : AlignsTo (chainSchemas e steps) schema ↔
      AlignsTo (chainSchemas e' steps') schema := by
  have hsame : SameColumns (chainSchemas e steps) (chainSchemas e' steps') :=
    .cons (by rw [hbase.schema_eq]) h.sameColumns
  have hhead := congrArg some hbase.schema_eq
  exact ⟨hsame.alignsTo hhead, hsame.symm.alignsTo hhead.symm⟩

theorem OperandReordered.built (h : OperandReordered e e')
    (hb : ∀ {e'}, TablesReordered e e' → Built e') : Built e' := by
  cases h with
  | inside h => exact hb h
  | table name _ => exact .table name _

/-- **What was built can be built with reordered tables.** -/
theorem Built.of_reordered (h : Built e) (hr : TablesReordered e e') : Built e' := by
  induction h generalizing e' with
  | table name schema => cases hr; exact .table name schema
  | query sql schema => cases hr; exact .query sql schema
  | orderBy keys _ h ih =>
    rcases orderBy_eq_ok_iff.1 h with ⟨-, rfl⟩ | ⟨hk, hkeys, rfl⟩
    · exact ih hr
    · cases hr with
      | sort _ hr =>
        exact .orderBy keys (ih hr)
          (orderBy_eq_ok_iff.2 (.inr ⟨hk, hr.schema_eq ▸ hkeys, rfl⟩))
  | limitOffset most skipped _ ih =>
    by_cases hnothing : (most.isNone && skipped == 0) = true
    · rw [Expr.limitOffset, if_pos hnothing] at hr
      exact ih hr
    · rw [Expr.limitOffset, if_neg hnothing] at hr
      cases hr with
      | limit _ _ hr =>
        have hbuilt := Built.limitOffset most skipped (ih hr)
        rwa [Expr.limitOffset, if_neg hnothing] at hbuilt
  | chainOf _ _ h ihb ihs =>
    rcases chainOf_eq_ok_iff.1 h with ⟨-, rfl⟩ | ⟨hs, schema, ha, rfl⟩
    · exact ihb hr
    · cases hr with
      | chain _ hbase hsteps =>
        refine .chainOf (ihb hbase) (fun step' hstep' => ?_) (chainOf_eq_ok_iff.2
          (.inr ⟨?_, schema, (hsteps.alignsTo_iff hbase).1 ha, rfl⟩))
        · obtain ⟨step, hstep, -, hoperand⟩ := exists_of_mem_forall₂ hsteps.forall₂ hstep'
          exact hoperand.built (ihs step hstep)
        · rintro rfl
          cases hsteps
          exact hs rfl

/-! ## Resolving -/

variable {c : Capabilities} {policy : OrderPolicy}

theorem TablesReordered.resolveOperand_eq (h : TablesReordered e e')
    (ih : e.resolve c policy = e'.resolve c policy)
    (ihs : e.withoutSorts.resolve c policy = e'.withoutSorts.resolve c policy)
    (canonical : Schema) (position : Nat) : resolveOperand c policy canonical position e =
      resolveOperand c policy canonical position e' := by
  have hordered := h.isOrdered_eq
  cases operandCase c e with
  | table name schema => cases h; rfl
  | ordered ho hsub =>
    cases policy with
    | strict =>
      rw [resolveOperand_strict _ _ ho hsub, resolveOperand_strict _ _ (hordered ▸ ho) hsub]
    | drop =>
      rw [resolveOperand_drop _ _ ho hsub, resolveOperand_drop _ _ (hordered ▸ ho) hsub, ihs,
        h.schema_eq]
  | kept hne hkept =>
    rw [resolveOperand_kept _ _ _ hne hkept,
      resolveOperand_kept _ _ _ (h.ne_table hne) (hordered ▸ hkept), ih, h.schema_eq]

/-- An operand resolves as before; a table, because its columns are found by their names. -/
theorem OperandReordered.resolveOperand_eq (h : OperandReordered e e')
    (ih : ∀ {e'}, TablesReordered e e' → e.resolve c policy = e'.resolve c policy)
    (ihs : ∀ {e'}, TablesReordered e.withoutSorts e' →
      e.withoutSorts.resolve c policy = e'.resolve c policy)
    (canonical : Schema) (position : Nat) : resolveOperand c policy canonical position e =
      resolveOperand c policy canonical position e' := by
  cases h with
  | inside h => exact h.resolveOperand_eq (ih h) (ihs h.withoutSorts) canonical position
  | table name hperm =>
    rw [resolveOperand_table, resolveOperand_table, columnReads_eq_of_perm hperm]

theorem StepsReordered.resolveSteps_eq (h : StepsReordered steps steps') {canonical : Schema}
    (hoperand : ∀ step ∈ steps, ∀ {e'}, OperandReordered step.operand e' → ∀ position,
      resolveOperand c policy canonical position step.operand =
        resolveOperand c policy canonical position e')
    (methods : List Method) (position : Nat) :
    resolveSteps c policy canonical position steps methods =
      resolveSteps c policy canonical position steps' methods := by
  replace h := h.forall₂
  induction h generalizing methods position with
  | nil => rfl
  | cons hstep _ ih =>
    obtain ⟨hfirst, hrest⟩ := List.forall_mem_cons.1 hoperand
    cases methods with
    | nil => rw [resolveSteps_without_methods, resolveSteps_without_methods]
    | cons method methods =>
      rw [resolveSteps_cons, resolveSteps_cons, hfirst hstep.2 position, hstep.1,
        ih hrest methods (position + 1)]

/-- The methods depend on the operations only. -/
theorem StepsReordered.methods_eq (h : StepsReordered steps steps') (c : Capabilities) :
    (steps.mapM fun step => c.resolve step.op) = steps'.mapM fun step => c.resolve step.op := by
  have hmethods := congrArg (·.mapM c.resolve) h.ops_eq
  simpa only [List.mapM_map, Function.comp_def] using hmethods

theorem TablesReordered.operands_alignsTo (h : TablesReordered e e') {canonical : Schema}
    (ha : AlignsTo (e.operands.map (·.schema)) canonical) :
    AlignsTo (e'.operands.map (·.schema)) canonical := by
  rw [operands, List.map_cons, List.map_map] at ha ⊢
  exact (h.flatSteps.alignsTo_iff h.leftmost).1 ha

/-- **Reordered tables resolve to the same operations and operands.** -/
theorem Valid.resolve_reordered (hv : e.Valid) (h : TablesReordered e e') (c : Capabilities)
    (policy : OrderPolicy) : e.resolve c policy = e'.resolve c policy := by
  induction e using operand_induction generalizing e' with
  | source origin schema => cases h; rfl
  | page e input keys most skipped hp ih =>
    obtain ⟨input', hp', hinput⟩ := h.pageOf hp
    rw [hp.resolve_eq, hp'.resolve_eq, ih (hp.valid hv) hinput]
  | chain base steps schema ih =>
    have hoperand : ∀ operand ∈ (Expr.chain base steps schema).operands, ∀ {e'},
        OperandReordered operand e' → ∀ position,
          resolveOperand c policy schema position operand =
            resolveOperand c policy schema position e' := fun operand hmem _ ho position =>
      have hov := hv.operand operand hmem
      ho.resolveOperand_eq ((ih operand hmem).1 hov) ((ih operand hmem).2 hov.withoutSorts)
        schema position
    have ha : AlignsTo ((Expr.chain base steps schema).operands.map (·.schema)) schema :=
      hv.alignsTo_of_isChain rfl
    have hc' : e'.isChain = true := by cases h; rfl
    rw [resolve_chain_of_alignsTo rfl ha, resolve_chain_of_alignsTo hc' (h.operands_alignsTo ha),
      h.flatSteps.methods_eq, hoperand _ List.mem_cons_self (.inside h.leftmost)]
    simp only [h.flatSteps.resolveSteps_eq
      (fun step hstep => hoperand _ (operand_mem_operands hstep))]

theorem Built.compileFor_reordered (hb : Built e) (h : TablesReordered e e') (c : Capabilities)
    (policy : OrderPolicy) : e.compileFor c policy = e'.compileFor c policy := by
  rw [compileFor, compileFor, hb.valid.resolve_reordered h, h.schema_eq]
  simp only [Resolved.toQuery_congr fun _ => h.mem_columnNames_iff]

/-- **The order of columns is irrelevant.** -/
theorem column_order_irrelevant :
    (∀ schemas schemas' : List Schema, SameColumns schemas schemas' →
      ((∃ a, align schemas = .ok a) ↔ ∃ a, align schemas' = .ok a) ∧
      ∀ a a', align schemas = .ok a → align schemas' = .ok a' →
        a.Reorders a' schemas schemas') ∧
    ∀ e e' : Expr, Built e → TablesReordered e e' → Built e' ∧
      ∀ (c : Capabilities) (policy : OrderPolicy),
        e.compileFor c policy = e'.compileFor c policy :=
  ⟨fun _ _ h => ⟨⟨h.exists_align, h.symm.exists_align⟩, fun _ _ => reorders_of_align h⟩,
    fun _ _ hb h => ⟨hb.of_reordered h, hb.compileFor_reordered h⟩⟩

/-! ## An example -/

/-- The columns of the archived balances in the other order. -/
def archivedBalances : Schema where
  columns := (balances true).columns.reverse
  nodup := by decide
  named := by decide

/-- All balances, where the table of the archived ones has a schema with these columns. -/
def allBalances (archived : Schema) : Expr :=
  .chain (.table "active" (balances false)) [⟨⟨.union, .all⟩, .table "archived" archived⟩]
    archivedBalances

theorem allBalances_reordered :
    SameColumns [balances false, balances true] [balances false, archivedBalances] ∧
    Built (allBalances (balances true)) ∧
    TablesReordered (allBalances (balances true)) (allBalances archivedBalances) ∧
    (∃ a a', align [balances false, balances true] = .ok a ∧
      align [balances false, archivedBalances] = .ok a' ∧
      a.Reorders a' [balances false, balances true] [balances false, archivedBalances]) ∧
    Built (allBalances archivedBalances) ∧ ∀ c policy,
      (allBalances (balances true)).compileFor c policy =
        (allBalances archivedBalances).compileFor c policy := by
  have hperm : (balances true).columns.Perm archivedBalances.columns :=
    (List.reverse_perm _).symm
  have hsame : SameColumns [balances false, balances true] [balances false, archivedBalances] :=
    .cons (.refl _) (.cons hperm .nil)
  have hunion : combineTwo ⟨.union, .all⟩ (.table "active" (balances false))
      (.table "archived" (balances true)) = .ok (allBalances (balances true)) := rfl
  have hbuilt : Built (allBalances (balances true)) := .combineTwo (.table ..) (.table ..) hunion
  have hreordered : TablesReordered (allBalances (balances true)) (allBalances archivedBalances) :=
    .chain _ (.refl _) (.cons _ (.table _ hperm) .nil)
  exact ⟨hsame, hbuilt, hreordered,
    ⟨_, _, rfl, rfl, (column_order_irrelevant.1 _ _ hsame).2 _ _ rfl rfl⟩,
    column_order_irrelevant.2 _ _ hbuilt hreordered⟩

end Expr

end SetQuery
