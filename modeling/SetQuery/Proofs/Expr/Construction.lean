import SetQuery.Expr.Operands
import SetQuery.Proofs.Schema.Alignment

/-!
# Expressions that the constructors build

`Expr.Built` holds of what the building functions return, in any order of calls. What they check is
kept in every node: `Expr.Valid` says so along the tree, and `Built.valid` derives it.

**Theorem (`Valid.alignsTo`).** The schema that a chain carries is the canonical schema of all
operands of its left spine, although each building step aligned only the operands that it was given.
A step widens the schema of the chain before it, and merging the rest into that schema is merging
the whole list, because the merge runs from left to right.
-/

namespace SetQuery.Expr

/-! ## The nodes of a tree -/

mutual

/-- The expression and all expressions inside it. -/
def nodes : Expr → List Expr
  | .source origin schema => [.source origin schema]
  | .chain base steps schema => .chain base steps schema :: (base.nodes ++ stepNodes steps)
  | .sort input keys => .sort input keys :: input.nodes
  | .limit input most skipped => .limit input most skipped :: input.nodes

/-- All expressions inside the operands of some steps. -/
def stepNodes : List (Step Expr) → List Expr
  | [] => []
  | ⟨_, operand⟩ :: rest => operand.nodes ++ stepNodes rest

end

theorem mem_stepNodes {e : Expr} {steps : List (Step Expr)} :
    e ∈ stepNodes steps ↔ ∃ step ∈ steps, e ∈ step.operand.nodes := by
  induction steps with
  | nil => simp [stepNodes]
  | cons step rest ih => simp [stepNodes, ih]

theorem self_mem_nodes (e : Expr) : e ∈ e.nodes := by
  cases e <;> simp [nodes]

theorem nodes_base_subset (base : Expr) (steps : List (Step Expr)) (schema : Schema) :
    base.nodes ⊆ (chain base steps schema).nodes := fun _ h =>
  List.mem_cons_of_mem _ (List.mem_append_left _ h)

theorem nodes_step_subset {step : Step Expr} {steps : List (Step Expr)} (h : step ∈ steps)
    (base : Expr) (schema : Schema) : step.operand.nodes ⊆ (chain base steps schema).nodes :=
  fun _ hmem =>
    List.mem_cons_of_mem _ (List.mem_append_right _ (mem_stepNodes.2 ⟨step, h, hmem⟩))

theorem nodes_leftmost_subset : ∀ e : Expr, e.leftmost.nodes ⊆ e.nodes
  | .chain base steps schema => fun _ h =>
    nodes_base_subset base steps schema (nodes_leftmost_subset base h)
  | .source _ _ => fun _ h => h
  | .sort _ _ => fun _ h => h
  | .limit _ _ _ => fun _ h => h

theorem nodes_flatStep_subset : ∀ (e : Expr) {step : Step Expr}, step ∈ e.flatSteps →
    step.operand.nodes ⊆ e.nodes
  | .chain base steps schema, step, hstep => fun x h => by
    rcases List.mem_append.1 hstep with hstep | hstep
    · exact nodes_base_subset base steps schema (nodes_flatStep_subset base hstep h)
    · exact nodes_step_subset hstep base schema h
  | .source _ _, _, hstep => nomatch hstep
  | .sort _ _, _, hstep => nomatch hstep
  | .limit _ _ _, _, hstep => nomatch hstep

theorem nodes_operand_subset {e operand : Expr} (h : operand ∈ e.operands) :
    operand.nodes ⊆ e.nodes := by
  rcases List.mem_cons.1 h with rfl | h
  · exact nodes_leftmost_subset e
  · obtain ⟨step, hstep, rfl⟩ := List.mem_map.1 h
    exact nodes_flatStep_subset e hstep

theorem nodes_withoutSort_subset (e : Expr) : e.withoutSort.nodes ⊆ e.nodes := by
  cases e with
  | sort input keys => exact fun _ h => List.mem_cons_of_mem _ h
  | _ => exact fun _ h => h

theorem nodes_withoutSorts_subset : ∀ e : Expr, e.withoutSorts.nodes ⊆ e.nodes
  | .sort input _ => fun _ h => List.mem_cons_of_mem _ (nodes_withoutSorts_subset input h)
  | .source _ _ => fun _ h => h
  | .chain _ _ _ => fun _ h => h
  | .limit _ _ _ => fun _ h => h

mutual

/-- What is inside a node of an expression is inside the expression. -/
theorem nodes_subset_of_mem {node : Expr} : ∀ e : Expr, node ∈ e.nodes → node.nodes ⊆ e.nodes
  | .source origin schema, h => by
    obtain rfl := List.mem_singleton.1 h
    exact fun _ h => h
  | .chain base steps schema, h => by
    rcases List.mem_cons.1 h with rfl | h
    · exact fun _ h => h
    · refine List.Subset.trans ?_ (List.subset_cons_self _ _)
      rcases List.mem_append.1 h with h | h
      · exact List.subset_append_of_subset_left _ (nodes_subset_of_mem base h)
      · exact List.subset_append_of_subset_right _ (nodes_subset_of_mem_step steps h)
  | .sort input keys, h => by
    rcases List.mem_cons.1 h with rfl | h
    · exact fun _ h => h
    · exact List.subset_cons_of_subset _ (nodes_subset_of_mem input h)
  | .limit input most skipped, h => by
    rcases List.mem_cons.1 h with rfl | h
    · exact fun _ h => h
    · exact List.subset_cons_of_subset _ (nodes_subset_of_mem input h)

theorem nodes_subset_of_mem_step {node : Expr} :
    ∀ steps : List (Step Expr), node ∈ stepNodes steps → node.nodes ⊆ stepNodes steps
  | [], h => nomatch h
  | ⟨_, operand⟩ :: rest, h => by
    rcases List.mem_append.1 h with h | h
    · exact List.subset_append_of_subset_left _ (nodes_subset_of_mem operand h)
    · exact List.subset_append_of_subset_right _ (nodes_subset_of_mem_step rest h)

end

mutual

/-- The column names of an expression are those of the schemas of its nodes. -/
theorem mem_columnNames {x : String} :
    ∀ e : Expr, x ∈ e.columnNames ↔ ∃ node ∈ e.nodes, x ∈ node.schema.names
  | .source origin s => by simp [columnNames, nodes, schema]
  | .chain base steps s => by
    simp only [columnNames, nodes, List.mem_append, List.mem_cons, or_and_right, exists_or,
      exists_eq_left, schema, mem_columnNames base, mem_stepColumnNames steps, or_assoc]
  | .sort input keys => by
    simp only [columnNames, nodes, List.mem_cons, or_and_right, exists_or, exists_eq_left, schema,
      mem_columnNames input]
    exact ⟨.inr, fun h => h.elim (fun h => ⟨input, self_mem_nodes input, h⟩) id⟩
  | .limit input most skipped => by
    simp only [columnNames, nodes, List.mem_cons, or_and_right, exists_or, exists_eq_left, schema,
      mem_columnNames input]
    exact ⟨.inr, fun h => h.elim (fun h => ⟨input, self_mem_nodes input, h⟩) id⟩

theorem mem_stepColumnNames {x : String} :
    ∀ steps : List (Step Expr),
      x ∈ stepColumnNames steps ↔ ∃ node ∈ stepNodes steps, x ∈ node.schema.names
  | [] => by simp [stepColumnNames, stepNodes]
  | ⟨_, operand⟩ :: rest => by
    simp only [stepColumnNames, stepNodes, List.mem_append, or_and_right, exists_or,
      mem_columnNames operand, mem_stepColumnNames rest]

end

theorem columnNames_subset {e e' : Expr} (h : e.nodes ⊆ e'.nodes) :
    e.columnNames ⊆ e'.columnNames := fun x hx => by
  obtain ⟨node, hnode, hx⟩ := (mem_columnNames e).1 hx
  exact (mem_columnNames e').2 ⟨node, h hnode, hx⟩

theorem names_subset_columnNames (e : Expr) : e.schema.names ⊆ e.columnNames := fun _ h =>
  (mem_columnNames e).2 ⟨e, self_mem_nodes e, h⟩

/-! ## Operands along the left spine -/

theorem operands_chain (base : Expr) (steps : List (Step Expr)) (schema : Schema) :
    (chain base steps schema).operands = base.operands ++ steps.map (·.operand) := by
  simp [operands, leftmost, flatSteps]

theorem operand_mem_operands {e : Expr} {step : Step Expr} (h : step ∈ e.flatSteps) :
    step.operand ∈ e.operands :=
  List.mem_cons_of_mem _ (List.mem_map_of_mem h)

/-- A chain inside a chain is on its left spine, whose operands the outer one shares, or inside one
of these operands. -/
theorem operands_subset_or_mem_operand {node : Expr} (hnode : node.isChain = true) :
    ∀ {e : Expr}, e.isChain = true → node ∈ e.nodes →
      node.operands ⊆ e.operands ∨ ∃ operand ∈ e.operands, node ∈ operand.nodes
  | .chain base steps schema, _, hmem => by
    rw [operands_chain]
    rcases List.mem_cons.1 hmem with rfl | hmem
    · exact .inl fun _ h => operands_chain base steps schema ▸ h
    · rcases List.mem_append.1 hmem with hmem | hmem
      · by_cases hbase : base.isChain = true
        · rcases operands_subset_or_mem_operand hnode hbase hmem with hsub | ⟨operand, ho, hin⟩
          · exact .inl (List.subset_append_of_subset_left _ hsub)
          · exact .inr ⟨operand, List.mem_append_left _ ho, hin⟩
        · -- a base that is no chain is itself the first operand
          refine .inr ⟨base, List.mem_append_left _ ?_, hmem⟩
          cases base with
          | chain => exact absurd rfl hbase
          | _ => exact List.mem_cons_self
      · obtain ⟨step, hstep, hin⟩ := mem_stepNodes.1 hmem
        exact .inr ⟨step.operand, List.mem_append_right _ (List.mem_map_of_mem hstep), hin⟩

section

variable {node : Expr} (hnode : node.isChain = true)

include hnode

theorem mem_nodes_sort_iff {input : Expr} {keys : List SortKey} :
    node ∈ (sort input keys).nodes ↔ node ∈ input.nodes := by
  rw [nodes, List.mem_cons, or_iff_right]
  intro heq
  cases heq ▸ hnode

theorem mem_nodes_limit_iff {input : Expr} {most skipped : Option Nat} :
    node ∈ (limit input most skipped).nodes ↔ node ∈ input.nodes := by
  rw [nodes, List.mem_cons, or_iff_right]
  intro heq
  cases heq ▸ hnode

theorem mem_nodes_withoutSort_iff {e : Expr} : node ∈ e.withoutSort.nodes ↔ node ∈ e.nodes := by
  cases e with
  | sort input keys => exact (mem_nodes_sort_iff hnode).symm
  | _ => exact Iff.rfl

theorem mem_nodes_withoutSorts_iff : ∀ e : Expr, node ∈ e.withoutSorts.nodes ↔ node ∈ e.nodes
  | .sort input _ => by
    rw [withoutSorts, mem_nodes_withoutSorts_iff input, mem_nodes_sort_iff hnode]
  | .source _ _ => Iff.rfl
  | .chain _ _ _ => Iff.rfl
  | .limit _ _ _ => Iff.rfl

end

theorem schema_withoutSort (e : Expr) : e.withoutSort.schema = e.schema := by
  cases e <;> rfl

theorem schema_withoutSorts : ∀ e : Expr, e.withoutSorts.schema = e.schema
  | .sort input _ => schema_withoutSorts input
  | .source _ _ => rfl
  | .chain _ _ _ => rfl
  | .limit _ _ _ => rfl

/-! ## Building -/

/-- What the building functions return. -/
inductive Built : Expr → Prop
  | table (name : String) (schema : Schema) : Built (.table name schema)
  | query (sql : String) (schema : Schema) : Built (.query sql schema)
  | orderBy {e e' : Expr} (keys : List SortKey) :
      Built e → e.orderBy keys = .ok e' → Built e'
  | limitOffset {e : Expr} (most : Option Nat) (skipped : Nat) :
      Built e → Built (e.limitOffset most skipped)
  | chainOf {base e : Expr} {steps : List (Step Expr)} :
      Built base → (∀ step ∈ steps, Built step.operand) → chainOf base steps = .ok e → Built e

/-- One operation on several operands is a chain. -/
theorem Built.combine {op : SetOp} {first e : Expr} {rest : List Expr} (hf : Built first)
    (hr : ∀ operand ∈ rest, Built operand) (h : Expr.combine op first rest = .ok e) : Built e := by
  refine .chainOf hf (fun step hstep => ?_) h
  obtain ⟨operand, ho, rfl⟩ := List.mem_map.1 hstep
  exact hr operand ho

theorem Built.combineTwo {op : SetOp} {left right e : Expr} (hl : Built left) (hr : Built right)
    (h : Expr.combineTwo op left right = .ok e) : Built e :=
  hl.combine (by simpa using hr) h

/-- What the building functions check, in every node of the tree. -/
inductive Valid : Expr → Prop
  | source (origin : Source) (schema : Schema) : Valid (.source origin schema)
  | chain {base : Expr} {steps : List (Step Expr)} {schema : Schema} :
      Valid base → (∀ step ∈ steps, Valid step.operand) → steps ≠ [] →
      AlignsTo (chainSchemas base steps) schema → Valid (.chain base steps schema)
  | sort {input : Expr} {keys : List SortKey} :
      Valid input → keys ≠ [] → (∀ key ∈ keys, key.column ∈ input.schema.names) →
      Valid (.sort input keys)
  | limit {input : Expr} {most skipped : Option Nat} :
      Valid input → (most.isSome ∨ ∃ n, skipped = some n ∧ 0 < n) →
      Valid (.limit input most skipped)

theorem chainOf_eq_ok_iff {base e : Expr} {steps : List (Step Expr)} :
    Expr.chainOf base steps = .ok e ↔ (steps = [] ∧ e = base) ∨
      (steps ≠ [] ∧ ∃ schema, AlignsTo (chainSchemas base steps) schema ∧
        e = .chain base steps schema) := by
  unfold Expr.chainOf AlignsTo
  by_cases hs : steps = []
  · simp [hs, eq_comm]
  · simp only [List.isEmpty_iff, hs, false_and, false_or, ne_eq, not_false_eq_true, true_and,
      if_false]
    cases align (chainSchemas base steps) with
    | error mismatch => simp [Except.map]
    | ok a => simp [Except.map, eq_comm]

theorem orderBy_eq_ok_iff {e e' : Expr} {keys : List SortKey} :
    e.orderBy keys = .ok e' ↔ (keys = [] ∧ e' = e) ∨
      (keys ≠ [] ∧ (∀ key ∈ keys, key.column ∈ e.schema.names) ∧ e' = .sort e keys) := by
  unfold Expr.orderBy
  by_cases hk : keys = []
  · simp [hk, eq_comm]
  · simp only [List.isEmpty_iff, hk, false_and, false_or, ne_eq, not_false_eq_true, true_and,
      if_false]
    split
    · next key hfind =>
      have hmissing : key.column ∉ e.schema.names := by
        rw [Schema.mem_names]
        intro ⟨c, hc⟩
        have hnone := List.find?_some hfind
        simp [Schema.find?_eq_some_iff.2 hc] at hnone
      constructor
      · intro h; cases h
      · intro h
        exact absurd (h.1 key (List.mem_of_find?_eq_some hfind)) hmissing
    · next hfind =>
      have hkeys : ∀ key ∈ keys, key.column ∈ e.schema.names := by
        intro key hkey
        have hsome := List.find?_eq_none.1 hfind key hkey
        simp only [Option.isNone_iff_eq_none] at hsome
        obtain ⟨c, hc⟩ := Option.ne_none_iff_exists'.1 hsome
        exact Schema.mem_names.2 ⟨c, Schema.find?_eq_some_iff.1 hc⟩
      constructor
      · intro h; cases h; exact ⟨hkeys, rfl⟩
      · intro h; rw [h.2]

theorem limitOffset_cases (e : Expr) (most : Option Nat) (skipped : Nat) :
    e.limitOffset most skipped = e ∨ ∃ skipped', (most.isSome ∨ ∃ n, skipped' = some n ∧ 0 < n) ∧
      e.limitOffset most skipped = .limit e most skipped' := by
  unfold limitOffset
  split
  · exact .inl rfl
  · next h =>
    refine .inr ⟨_, ?_, rfl⟩
    cases most with
    | some n => exact .inl rfl
    | none =>
      have hpos : skipped ≠ 0 := by simpa using h
      exact .inr ⟨skipped, if_neg hpos, Nat.pos_of_ne_zero hpos⟩

theorem Built.valid {e : Expr} (h : Built e) : Valid e := by
  induction h with
  | table name schema => exact .source _ _
  | query sql schema => exact .source _ _
  | orderBy keys _ h ih =>
    rcases orderBy_eq_ok_iff.1 h with ⟨-, rfl⟩ | ⟨hk, hkeys, rfl⟩
    · exact ih
    · exact .sort ih hk hkeys
  | limitOffset most skipped _ ih =>
    rcases limitOffset_cases _ most skipped with h | ⟨skipped', hs, h⟩
    · rw [h]; exact ih
    · rw [h]; exact .limit ih hs
  | chainOf _ _ h ihb ihs =>
    rcases chainOf_eq_ok_iff.1 h with ⟨-, rfl⟩ | ⟨hs, schema, ha, rfl⟩
    · exact ihb
    · exact .chain ihb ihs hs ha

/-! ## What validity gives along the left spine -/

namespace Valid

theorem leftmost {e : Expr} (h : e.Valid) : e.leftmost.Valid := by
  induction h with
  | chain _ _ _ _ ihb _ => exact ihb
  | source origin schema => exact .source origin schema
  | sort h hk hkeys _ => exact .sort h hk hkeys
  | limit h hs _ => exact .limit h hs

theorem flatStep {e : Expr} (h : e.Valid) : ∀ step ∈ e.flatSteps, step.operand.Valid := by
  induction h with
  | chain _ hs _ _ ihb _ =>
    intro step hstep
    exact (List.mem_append.1 hstep).elim (ihb step) (hs step)
  | _ => exact fun _ h => nomatch h

theorem withoutSort {e : Expr} (h : e.Valid) : e.withoutSort.Valid := by
  cases h with
  | source origin schema => exact .source origin schema
  | chain hbase hsteps hne ha => exact .chain hbase hsteps hne ha
  | sort h _ _ => exact h
  | limit h hs => exact .limit h hs

theorem withoutSorts {e : Expr} (h : e.Valid) : e.withoutSorts.Valid := by
  induction h with
  | source origin schema => exact .source origin schema
  | chain hbase hsteps hne ha _ _ => exact .chain hbase hsteps hne ha
  | sort _ _ _ ih => exact ih
  | limit h hs _ => exact .limit h hs

theorem operand {e : Expr} (h : e.Valid) : ∀ operand ∈ e.operands, operand.Valid := by
  intro operand hmem
  rcases List.mem_cons.1 hmem with rfl | hmem
  · exact h.leftmost
  · obtain ⟨step, hstep, rfl⟩ := List.mem_map.1 hmem
    exact h.flatStep step hstep

theorem isEmpty_eq_false_of_isChain {e : Expr} (h : e.Valid) (hc : e.isChain = true) :
    e.schema.isEmpty = false := by
  cases h with
  | chain _ _ _ ha => exact ha.isEmpty_eq_false
  | _ => cases hc

/-- **A chain carries the canonical schema of its whole left spine.** -/
theorem alignsTo {e : Expr} (h : e.Valid) (he : e.schema.isEmpty = false) :
    AlignsTo (e.operands.map (·.schema)) e.schema := by
  induction h with
  | @chain base steps schema _ _ _ ha ihb _ =>
    have hbase : base.schema.isEmpty = false :=
      (alignsTo_cons_iff.1 ha).1 _ List.mem_cons_self
    rw [operands_chain, List.map_append, operands, List.map_cons, List.cons_append]
    refine alignsTo_append_iff.2 ⟨base.schema, ihb hbase, ?_⟩
    rw [List.map_map]
    exact ha
  | source _ schema => exact alignsTo_cons_iff.2 ⟨List.forall_mem_singleton.2 he, .nil _⟩
  | sort => exact alignsTo_cons_iff.2 ⟨List.forall_mem_singleton.2 he, .nil _⟩
  | limit => exact alignsTo_cons_iff.2 ⟨List.forall_mem_singleton.2 he, .nil _⟩

theorem alignsTo_of_isChain {e : Expr} (h : e.Valid) (hc : e.isChain = true) :
    AlignsTo (e.operands.map (·.schema)) e.schema :=
  h.alignsTo (h.isEmpty_eq_false_of_isChain hc)

end Valid

/-! ## Pages -/

/-- The expression orders the input by keys, skips some rows and keeps so many of the others. A
limit takes the keys of an ordering directly below it, and an ordering replaces one directly below
it. -/
inductive PageOf : Expr → Expr → List SortKey → Option Nat → Option Nat → Prop
  | sort (input : Expr) (keys : List SortKey) :
      PageOf (.sort input keys) input.withoutSort keys none none
  | limitSort (input : Expr) (keys : List SortKey) (most skipped : Option Nat) :
      PageOf (.limit (.sort input keys) most skipped) input.withoutSort keys most skipped
  | limit {input : Expr} (most skipped : Option Nat) : input.isOrdered = false →
      PageOf (.limit input most skipped) input [] most skipped

namespace PageOf

variable {e input : Expr} {keys : List SortKey} {most skipped : Option Nat}

theorem schema_eq (h : PageOf e input keys most skipped) : input.schema = e.schema := by
  cases h with
  | sort input keys => exact schema_withoutSort input
  | limitSort input keys most skipped => exact schema_withoutSort input
  | limit => rfl

theorem nodes_subset (h : PageOf e input keys most skipped) : input.nodes ⊆ e.nodes := by
  cases h with
  | sort input keys => exact fun _ h => List.mem_cons_of_mem _ (nodes_withoutSort_subset input h)
  | limitSort input keys most skipped =>
    exact fun _ h =>
      List.mem_cons_of_mem _ (List.mem_cons_of_mem _ (nodes_withoutSort_subset input h))
  | limit => exact fun _ h => List.mem_cons_of_mem _ h

/-- The chains of the input are those of the page. -/
theorem mem_nodes_iff (h : PageOf e input keys most skipped) {node : Expr}
    (hnode : node.isChain = true) : node ∈ input.nodes ↔ node ∈ e.nodes := by
  cases h with
  | sort input keys => rw [mem_nodes_withoutSort_iff hnode, mem_nodes_sort_iff hnode]
  | limitSort input keys most skipped =>
    rw [mem_nodes_withoutSort_iff hnode, mem_nodes_limit_iff hnode, mem_nodes_sort_iff hnode]
  | limit => rw [mem_nodes_limit_iff hnode]

theorem valid (h : PageOf e input keys most skipped) (hv : e.Valid) : input.Valid := by
  cases h with
  | sort =>
    cases hv with
    | sort hv _ _ => exact hv.withoutSort
  | limitSort =>
    cases hv with
    | limit hv _ =>
      cases hv with
      | sort hv _ _ => exact hv.withoutSort
  | limit =>
    cases hv with
    | limit hv _ => exact hv

theorem keys_mem_names (h : PageOf e input keys most skipped) (hv : e.Valid) :
    ∀ key ∈ keys, key.column ∈ e.schema.names := by
  cases h with
  | sort =>
    cases hv with
    | sort _ _ hkeys => exact hkeys
  | limitSort =>
    cases hv with
    | limit hv _ =>
      cases hv with
      | sort _ _ hkeys => exact hkeys
  | limit => exact fun _ h => absurd h List.not_mem_nil

theorem size_lt (h : PageOf e input keys most skipped) : input.size < e.size := by
  cases h with
  | sort input keys =>
    have := withoutSort_size_le input
    simp only [size]; omega
  | limitSort input keys most skipped =>
    have := withoutSort_size_le input
    simp only [size]; omega
  | limit => simp only [size]; omega

end PageOf

/-! ## An example -/

/-- One column of integers, whose name an emulation would like to use. -/
def counterSchema (width : IntWidth) : Schema where
  columns := [⟨"_sw_rn", .integer width, .unknown⟩]
  nodup := List.nodup_singleton _
  named := by simp

/-- A table with that column. -/
def counter (name : String) (width : IntWidth) : Expr := .table name (counterSchema width)

/-- A chain in a chain, whose operands become wider. -/
def nested : Expr :=
  .chain (.chain (counter "a" .i16) [⟨⟨.union, .distinct⟩, counter "b" .i32⟩] (counterSchema .i32))
    [⟨⟨.intersect, .all⟩, counter "c" .i64⟩] (counterSchema .i64)

theorem built_nested : Built nested := by
  have hunion : combineTwo ⟨.union, .distinct⟩ (counter "a" .i16) (counter "b" .i32) =
      .ok (.chain (counter "a" .i16) [⟨⟨.union, .distinct⟩, counter "b" .i32⟩]
        (counterSchema .i32)) := rfl
  have hintersect : combineTwo ⟨.intersect, .all⟩ (.chain (counter "a" .i16)
      [⟨⟨.union, .distinct⟩, counter "b" .i32⟩] (counterSchema .i32)) (counter "c" .i64) =
        .ok nested := rfl
  exact .combineTwo (.combineTwo (.table ..) (.table ..) hunion) (.table ..) hintersect

end SetQuery.Expr
