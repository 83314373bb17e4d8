import SetQuery.Compile
import SetQuery.Proofs.Expr.Construction

/-!
# What resolving does

Each function of the resolution is described once, by what it does when it succeeds and by the
errors with which it fails; later modules use these descriptions and never unfold the functions.

Main statements: `PageOf.resolve_eq_ok_iff` (an ordering or a limit resolves when its input does),
`resolve_chain_eq_ok_iff` (a chain resolves exactly when its schemas align, each of its operations
has a method and each of its operands resolves) and `operand_induction` (the induction that the
resolution follows).
-/

namespace SetQuery

theorem Capabilities.eq_of_resolve_eq_error {c : Capabilities} {op : SetOp} {e : PlanError}
    (h : c.resolve op = .error e) : e = .unsupportedOperation c.name op := by
  unfold Capabilities.resolve at h
  split at h
  · cases h
  · cases h; rfl
  · split at h <;> cases h
    rfl

namespace Expr

/-! ## The induction of the resolution -/

theorem size_lt_of_mem_steps {step : Step Expr} {steps : List (Step Expr)} (h : step ∈ steps) :
    step.operand.size < stepsSize steps := by
  induction steps with
  | nil => cases h
  | cons s steps ih =>
    rcases List.mem_cons.1 h with rfl | h
    · simp only [stepsSize]; omega
    · have := ih h
      simp only [stepsSize]; omega

theorem size_lt_of_mem_operands {base operand : Expr} {steps : List (Step Expr)} {schema : Schema}
    (h : operand ∈ (chain base steps schema).operands) :
    operand.size < (chain base steps schema).size := by
  rcases List.mem_cons.1 h with rfl | h
  · exact leftmost_size_lt base steps schema
  · obtain ⟨step, hstep, rfl⟩ := List.mem_map.1 h
    exact Nat.lt_trans (size_lt_of_mem_steps hstep) (stepsSize_flatSteps_lt base steps schema)

/-- The resolution passes from a page to its input, and from a chain to the operands of its left
spine, with or without the orderings around them. -/
theorem operand_induction {motive : Expr → Prop}
    (source : ∀ origin schema, motive (.source origin schema))
    (page : ∀ e input keys most skipped, PageOf e input keys most skipped → motive input → motive e)
    (chain : ∀ base steps schema, (∀ operand ∈ (chain base steps schema).operands,
      motive operand ∧ motive operand.withoutSorts) → motive (.chain base steps schema)) :
    ∀ e, motive e := by
  intro e
  induction hn : e.size using Nat.strongRecOn generalizing e with
  | ind n ih =>
    subst hn
    have hpage : ∀ {input keys most skipped}, PageOf e input keys most skipped → motive e :=
      fun hp => page _ _ _ _ _ hp (ih _ hp.size_lt _ rfl)
    cases e with
    | source origin schema => exact source origin schema
    | sort input keys => exact hpage (.sort input keys)
    | limit input most skipped =>
      cases h : input.isOrdered with
      | false => exact hpage (.limit most skipped h)
      | true =>
        cases input with
        | sort input keys => exact hpage (.limitSort input keys most skipped)
        | _ => cases h
    | chain base steps schema =>
      refine chain base steps schema fun operand hmem => ?_
      have hlt := size_lt_of_mem_operands hmem
      have hle := withoutSorts_size_le operand
      exact ⟨ih _ hlt _ rfl, ih _ (by omega) _ rfl⟩

theorem PageOf.resolve_eq {e input : Expr} {keys : List SortKey} {most skipped : Option Nat}
    (h : PageOf e input keys most skipped) (c : Capabilities) (policy : OrderPolicy) :
    e.resolve c policy = (input.resolve c policy).map fun r => .page r keys most skipped := by
  cases h with
  | sort input keys => rw [resolve]
  | limitSort input keys most skipped => rw [resolve]
  | limit most skipped hinput =>
    rw [resolve.eq_5 _ _ _ _ _ (by rintro _ _ rfl; cases hinput)]

theorem PageOf.resolve_eq_ok_iff {e input : Expr} {keys : List SortKey}
    {most skipped : Option Nat} (h : PageOf e input keys most skipped) {c : Capabilities}
    {policy : OrderPolicy} {r : Resolved} : e.resolve c policy = .ok r ↔
      ∃ page, input.resolve c policy = .ok page ∧ .page page keys most skipped = r := by
  rw [h.resolve_eq, Except.map_eq_ok_iff]

/-! ## Operands -/

/-- What an operand of a chain is resolved to. -/
inductive ResolvesOperand (c : Capabilities) (policy : OrderPolicy) (canonical : Schema) :
    Expr → Operand Resolved → Prop
  | table (name : String) (schema : Schema) :
      ResolvesOperand c policy canonical (.source (.table name) schema)
        (.table name (columnReads canonical schema))
  | dropped {e : Expr} {r : Resolved} : e.isOrdered = true → c.subqueryOrder = false →
      policy = .drop → e.withoutSorts.resolve c policy = .ok r →
      ResolvesOperand c policy canonical e (.relation r true (columnReads canonical e.schema))
  | kept {e : Expr} {r : Resolved} : (∀ name schema, e ≠ .source (.table name) schema) →
      (e.isOrdered && !c.subqueryOrder) = false → e.resolve c policy = .ok r →
      ResolvesOperand c policy canonical e (.relation r false (columnReads canonical e.schema))

variable {c : Capabilities} {policy : OrderPolicy} {canonical : Schema} {position : Nat}

/-- An operand is a table, or has an ordering that the backend rejects, or stays as it is. -/
inductive OperandCase (c : Capabilities) : Expr → Prop
  | table (name : String) (schema : Schema) : OperandCase c (.source (.table name) schema)
  | ordered {e : Expr} : e.isOrdered = true → c.subqueryOrder = false → OperandCase c e
  | kept {e : Expr} : (∀ name schema, e ≠ .source (.table name) schema) →
      (e.isOrdered && !c.subqueryOrder) = false → OperandCase c e

theorem operandCase (c : Capabilities) (e : Expr) : OperandCase c e := by
  by_cases htable : ∃ name schema, e = .source (.table name) schema
  · obtain ⟨name, schema, rfl⟩ := htable
    exact .table name schema
  · by_cases hdrop : (e.isOrdered && !c.subqueryOrder) = true
    · obtain ⟨hordered, hsub⟩ : e.isOrdered = true ∧ c.subqueryOrder = false := by
        simpa using hdrop
      exact .ordered hordered hsub
    · exact .kept (fun name schema h => htable ⟨name, schema, h⟩) (Bool.eq_false_iff.2 hdrop)

theorem ne_table_of_isOrdered {e : Expr} (h : e.isOrdered = true) (name : String)
    (schema : Schema) : e ≠ .source (.table name) schema := by
  intro heq
  rw [heq] at h
  cases h

section

variable (c policy canonical position)

theorem resolveOperand_table (name : String) (schema : Schema) :
    resolveOperand c policy canonical position (.source (.table name) schema) =
      .ok (.table name (columnReads canonical schema)) := by
  rw [resolveOperand]; rfl

variable {c} {e : Expr}

theorem resolveOperand_drop (hordered : e.isOrdered = true) (hsub : c.subqueryOrder = false) :
    resolveOperand c .drop canonical position e = (e.withoutSorts.resolve c .drop).map
      fun r => .relation r true (columnReads canonical e.schema) := by
  rw [resolveOperand.eq_3 _ _ _ _ (ne_table_of_isOrdered hordered), if_pos (by simp [*])]

theorem resolveOperand_strict (hordered : e.isOrdered = true) (hsub : c.subqueryOrder = false) :
    resolveOperand c .strict canonical position e =
      .error (.unsupportedSubqueryOrder c.name position) := by
  rw [resolveOperand.eq_2 _ _ _ _ (ne_table_of_isOrdered hordered), if_pos (by simp [*])]

theorem resolveOperand_kept (hne : ∀ name schema, e ≠ .source (.table name) schema)
    (hkept : (e.isOrdered && !c.subqueryOrder) = false) :
    resolveOperand c policy canonical position e = (e.resolve c policy).map
      fun r => .relation r false (columnReads canonical e.schema) := by
  cases policy
  · rw [resolveOperand.eq_3 _ _ _ _ hne, if_neg (by simp [hkept])]
  · rw [resolveOperand.eq_2 _ _ _ _ hne, if_neg (by simp [hkept])]

end

/-- The position of an operand matters only to errors. -/
theorem resolveOperand_eq_ok_iff {e : Expr} {operand : Operand Resolved} :
    resolveOperand c policy canonical position e = .ok operand ↔
      ResolvesOperand c policy canonical e operand := by
  cases operandCase c e with
  | table name schema =>
    rw [resolveOperand_table]
    constructor
    · intro h; cases h; exact .table name schema
    · rintro (_ | ⟨h, -⟩ | ⟨h, -⟩)
      · rfl
      · cases h
      · exact absurd rfl (h name schema)
  | ordered hordered hsub =>
    cases policy with
    | strict =>
      rw [resolveOperand_strict _ _ hordered hsub]
      constructor
      · intro h; cases h
      · rintro (_ | ⟨-, -, h, -⟩ | ⟨-, h, -⟩)
        · cases hordered
        · cases h
        · simp [hordered, hsub] at h
    | drop =>
      rw [resolveOperand_drop _ _ hordered hsub, Except.map_eq_ok_iff]
      constructor
      · rintro ⟨r, hr, rfl⟩
        exact .dropped hordered hsub rfl hr
      · rintro (_ | ⟨-, -, -, hr⟩ | ⟨-, h, -⟩)
        · cases hordered
        · exact ⟨_, hr, rfl⟩
        · simp [hordered, hsub] at h
  | kept hne hkept =>
    rw [resolveOperand_kept _ _ _ hne hkept, Except.map_eq_ok_iff]
    constructor
    · rintro ⟨r, hr, rfl⟩
      exact .kept hne hkept hr
    · rintro (_ | ⟨h, h', -⟩ | ⟨-, -, hr⟩)
      · exact absurd rfl (hne _ _)
      · simp [h, h'] at hkept
      · exact ⟨_, hr, rfl⟩

/-- An operand fails because of its ordering, which only the strict policy keeps, or as the
expression that is read for it. -/
theorem of_resolveOperand_eq_error {e : Expr} {err : PlanError}
    (h : resolveOperand c policy canonical position e = .error err) :
    (err = .unsupportedSubqueryOrder c.name position ∧ c.subqueryOrder = false ∧
      policy = .strict) ∨ e.resolve c policy = .error err ∨
        e.withoutSorts.resolve c policy = .error err := by
  cases operandCase c e with
  | table name schema =>
    rw [resolveOperand_table] at h
    cases h
  | ordered hordered hsub =>
    cases policy with
    | strict =>
      rw [resolveOperand_strict _ _ hordered hsub] at h
      cases h
      exact .inl ⟨rfl, hsub, rfl⟩
    | drop =>
      rw [resolveOperand_drop _ _ hordered hsub] at h
      exact .inr (.inr (Except.map_eq_error_iff.1 h))
  | kept hne hkept =>
    rw [resolveOperand_kept _ _ _ hne hkept] at h
    exact .inr (.inl (Except.map_eq_error_iff.1 h))

/-! ## Steps -/

/-- What a step of a chain is resolved to. -/
structure ResolvesStep (c : Capabilities) (policy : OrderPolicy) (canonical : Schema)
    (step : Step Expr) (out : ResolvedStep Resolved) : Prop where
  op : out.op = step.op
  method : c.resolve step.op = .ok out.method
  operand : ResolvesOperand c policy canonical step.operand out.operand

section

variable (c policy canonical position)

theorem resolveSteps_nil (methods : List Method) :
    resolveSteps c policy canonical position [] methods = .ok [] := by
  rw [resolveSteps.eq_2 _ _ _ _ _ _ (by simp)]

theorem resolveSteps_without_methods (steps : List (Step Expr)) :
    resolveSteps c policy canonical position steps [] = .ok [] := by
  rw [resolveSteps.eq_2 _ _ _ _ _ _ (by simp)]

theorem resolveSteps_cons (step : Step Expr) (steps : List (Step Expr)) (method : Method)
    (methods : List Method) :
    resolveSteps c policy canonical position (step :: steps) (method :: methods) = (do
      let operand ← resolveOperand c policy canonical position step.operand
      let rest ← resolveSteps c policy canonical (position + 1) steps methods
      return ⟨step.op, method, operand⟩ :: rest) := by
  rw [resolveSteps.eq_1]

end

theorem resolveSteps_eq_ok_iff {steps : List (Step Expr)} {methods : List Method}
    {rest : List (ResolvedStep Resolved)}
    (hm : List.Forall₂ (fun step method => c.resolve step.op = .ok method) steps methods) :
    resolveSteps c policy canonical position steps methods = .ok rest ↔
      List.Forall₂ (ResolvesStep c policy canonical) steps rest := by
  induction hm generalizing position rest with
  | nil =>
    rw [resolveSteps_nil]
    constructor
    · intro h; cases h; exact .nil
    · rintro ⟨⟩; rfl
  | @cons step method steps methods hmethod _ ih =>
    rw [resolveSteps_cons]
    simp only [Except.bind_eq_ok_iff, resolveOperand_eq_ok_iff, ih, pure, Except.pure,
      Except.ok.injEq]
    constructor
    · rintro ⟨o, ho, outs, houts, rfl⟩
      exact .cons ⟨rfl, hmethod, ho⟩ houts
    · rintro (_ | ⟨⟨hop, hmethod', ho⟩, houts⟩)
      rename_i out outs
      obtain ⟨op', method', o⟩ := out
      cases hop
      cases Except.ok.inj (hmethod.symm.trans hmethod')
      exact ⟨o, ho, outs, houts, rfl⟩

theorem exists_of_resolveSteps_eq_error {steps : List (Step Expr)} {methods : List Method}
    {err : PlanError} (h : resolveSteps c policy canonical position steps methods = .error err) :
    ∃ step ∈ steps, ∃ position, resolveOperand c policy canonical position step.operand =
      .error err := by
  induction steps generalizing position methods with
  | nil => rw [resolveSteps_nil] at h; cases h
  | cons step steps ih =>
    cases methods with
    | nil => rw [resolveSteps_without_methods] at h; cases h
    | cons method methods =>
      rw [resolveSteps_cons, Except.bind_eq_error_iff] at h
      rcases h with h | ⟨_, -, h⟩
      · exact ⟨_, List.mem_cons_self, position, h⟩
      · rcases Except.bind_eq_error_iff.1 h with h | ⟨_, -, h⟩
        · obtain ⟨step, hstep, hs⟩ := ih h
          exact ⟨step, List.mem_cons_of_mem _ hstep, hs⟩
        · cases h

/-! ## Chains -/

/-- A chain is resolved by its operands and operations. -/
theorem resolve_chain {e : Expr} (hc : e.isChain = true) (c : Capabilities)
    (policy : OrderPolicy) : e.resolve c policy = (do
      let alignment ← (align (e.operands.map (·.schema))).mapError .schemaMismatch
      let methods ← e.flatSteps.mapM fun step => c.resolve step.op
      let first ← resolveOperand c policy alignment.canonical 0 e.leftmost
      let rest ← resolveSteps c policy alignment.canonical 1 e.flatSteps methods
      return .chain alignment.canonical.names first rest) := by
  cases e with
  | chain base steps schema => rw [resolve.eq_6]
  | _ => cases hc

/-- Only the operands and operations of a chain matter. -/
theorem resolve_congr {e e' : Expr} (hc : e.isChain = true) (hc' : e'.isChain = true)
    (hleftmost : e.leftmost = e'.leftmost) (hsteps : e.flatSteps = e'.flatSteps) :
    e.resolve c policy = e'.resolve c policy := by
  rw [resolve_chain hc, resolve_chain hc']
  simp only [operands, hleftmost, hsteps]

theorem align_map_canonical {schemas : List Schema} {canonical : Schema} :
    AlignsTo schemas canonical ↔ ∃ a, align schemas = .ok a ∧ a.canonical = canonical :=
  Except.map_eq_ok_iff

/-- **Resolving a chain.** It succeeds when the schemas of the operands align, each operation has a
method and each operand resolves. -/
theorem resolve_chain_eq_ok_iff {e : Expr} {r : Resolved} (hc : e.isChain = true) :
    e.resolve c policy = .ok r ↔ ∃ canonical first rest,
      AlignsTo (e.operands.map (·.schema)) canonical ∧
      ResolvesOperand c policy canonical e.leftmost first ∧
      List.Forall₂ (ResolvesStep c policy canonical) e.flatSteps rest ∧
      r = .chain canonical.names first rest := by
  rw [resolve_chain hc]
  simp only [Except.bind_eq_ok_iff, Except.mapError_eq_ok_iff, Except.mapM_eq_ok_iff,
    resolveOperand_eq_ok_iff, align_map_canonical, pure, Except.pure, Except.ok.injEq]
  constructor
  · rintro ⟨a, ha, methods, hm, first, hfirst, rest, hrest, rfl⟩
    exact ⟨_, first, rest, ⟨a, ha, rfl⟩, hfirst, (resolveSteps_eq_ok_iff hm).1 hrest, rfl⟩
  · rintro ⟨_, first, rest, ⟨a, ha, rfl⟩, hfirst, hrest, rfl⟩
    have hm : List.Forall₂ (fun step method => c.resolve step.op = .ok method)
        e.flatSteps (rest.map (·.method)) := by
      rw [List.forall₂_map_right_iff]
      exact hrest.imp fun _ _ h => h.method
    exact ⟨a, ha, _, hm, first, hfirst, rest, (resolveSteps_eq_ok_iff hm).2 hrest, rfl⟩

/-- A chain whose schemas align is resolved with their canonical schema. -/
theorem resolve_chain_of_alignsTo {e : Expr} (hc : e.isChain = true)
    (ha : AlignsTo (e.operands.map (·.schema)) canonical) : e.resolve c policy = (do
      let methods ← e.flatSteps.mapM fun step => c.resolve step.op
      let first ← resolveOperand c policy canonical 0 e.leftmost
      let rest ← resolveSteps c policy canonical 1 e.flatSteps methods
      return .chain canonical.names first rest) := by
  obtain ⟨a, halign, rfl⟩ := align_map_canonical.1 ha
  rw [resolve_chain hc, halign]
  rfl

/-- A chain whose schemas align fails with the error of one of its operations or operands. -/
theorem of_resolve_chain_eq_error {e : Expr} {err : PlanError} (hc : e.isChain = true)
    (ha : AlignsTo (e.operands.map (·.schema)) canonical)
    (h : e.resolve c policy = .error err) :
    (∃ step ∈ e.flatSteps, c.resolve step.op = .error err) ∨
      ∃ operand ∈ e.operands, ∃ position,
        resolveOperand c policy canonical position operand = .error err := by
  rw [resolve_chain_of_alignsTo hc ha] at h
  rcases Except.bind_eq_error_iff.1 h with h | ⟨methods, -, h⟩
  · exact .inl (Except.exists_of_mapM_eq_error h)
  · rcases Except.bind_eq_error_iff.1 h with h | ⟨first, -, h⟩
    · exact .inr ⟨_, List.mem_cons_self, 0, h⟩
    · rcases Except.bind_eq_error_iff.1 h with h | ⟨rest, -, h⟩
      · obtain ⟨step, hstep, hs⟩ := exists_of_resolveSteps_eq_error h
        exact .inr ⟨_, List.mem_cons_of_mem _ (List.mem_map_of_mem hstep), hs⟩
      · cases h

/-- The example resolves on every backend that has its operations in some way. -/
theorem exists_resolve_nested {m n : Method} (hm : c.resolve ⟨.union, .distinct⟩ = .ok m)
    (hn : c.resolve ⟨.intersect, .all⟩ = .ok n) : ∃ r, nested.resolve c policy = .ok r := by
  have hstep : ∀ {op method} name width, c.resolve op = .ok method →
      ResolvesStep c policy (counterSchema .i64) ⟨op, counter name width⟩
        ⟨op, method, .table name (columnReads (counterSchema .i64) (counterSchema width))⟩ :=
    fun name _ h => ⟨rfl, h, .table name _⟩
  exact ⟨_, (resolve_chain_eq_ok_iff rfl).2 ⟨counterSchema .i64, _, _, rfl, .table "a" _,
    .cons (hstep "b" .i32 hm) (.cons (hstep "c" .i64 hn) .nil), rfl⟩⟩

end Expr

end SetQuery
