import SetQuery.Proofs.Expr.Resolution
import SetQuery.Proofs.Sql.Enclosed

/-!
# Where orderings end up

On a backend that rejects orderings in parentheses, the orderings around an operand are all dropped,
and an ordering of an ordered expression takes the place of the one below it. It takes the place of
that one only: of three orderings directly on each other, the first one is still written, in
parentheses and without a limit.

**Theorem (`Built.innerOrders_restricted_iff`).** In the text for an expression, every SELECT in
parentheses that orders its rows also restricts them, exactly when the expression does not bury an
ordering in this way (`Expr.BuriesOrder`).
-/

namespace SetQuery

open Sql

namespace Expr

/-! ## Buried orderings -/

/-- The input of an ordering or a limit is ordered although one ordering below was replaced,
somewhere in the expression outside of what a backend drops from operands. -/
inductive BuriesOrder : Expr → Prop
  | ordered {e input : Expr} {keys : List SortKey} {most skipped : Option Nat} :
      PageOf e input keys most skipped → input.isOrdered = true → BuriesOrder e
  | input {e input : Expr} {keys : List SortKey} {most skipped : Option Nat} :
      PageOf e input keys most skipped → BuriesOrder input → BuriesOrder e
  | operand {base operand : Expr} {steps : List (Step Expr)} {schema : Schema} :
      operand ∈ (chain base steps schema).operands → BuriesOrder operand.withoutSorts →
      BuriesOrder (.chain base steps schema)

theorem not_buriesOrder_source (origin : Source) (schema : Schema) :
    ¬ BuriesOrder (.source origin schema) := by
  intro h
  cases h with
  | ordered hp _ => cases hp
  | input hp _ => cases hp

theorem PageOf.input_unique {e input input' : Expr} {keys keys' : List SortKey}
    {most most' skipped skipped' : Option Nat} (h : PageOf e input keys most skipped)
    (h' : PageOf e input' keys' most' skipped') : input = input' := by
  cases h with
  | sort => cases h'; rfl
  | limitSort =>
    cases h' with
    | limitSort => rfl
    | limit _ _ hordered => cases hordered
  | limit most skipped hordered =>
    cases h' with
    | limitSort => cases hordered
    | limit => rfl

theorem PageOf.buriesOrder_iff {e input : Expr} {keys : List SortKey}
    {most skipped : Option Nat} (h : PageOf e input keys most skipped) :
    e.BuriesOrder ↔ input.isOrdered = true ∨ input.BuriesOrder := by
  constructor
  · intro hb
    cases hb with
    | ordered h' hordered => exact .inl (h.input_unique h' ▸ hordered)
    | input h' hinput => exact .inr (h.input_unique h' ▸ hinput)
    | operand => cases h
  · intro hb
    rcases hb with hordered | hinput
    · exact .ordered h hordered
    · exact .input h hinput

theorem buriesOrder_chain_iff {base : Expr} {steps : List (Step Expr)} {schema : Schema} :
    (chain base steps schema).BuriesOrder ↔
      ∃ operand ∈ (chain base steps schema).operands, operand.withoutSorts.BuriesOrder := by
  constructor
  · intro h
    cases h with
    | ordered hp _ => cases hp
    | input hp _ => cases hp
    | operand hmem hb => exact ⟨_, hmem, hb⟩
  · intro ⟨operand, hmem, hb⟩
    exact .operand hmem hb

theorem isOrdered_withoutSorts : ∀ e : Expr, e.withoutSorts.isOrdered = false
  | .sort input _ => isOrdered_withoutSorts input
  | .source _ _ => rfl
  | .chain _ _ _ => rfl
  | .limit _ _ _ => rfl

theorem withoutSorts_of_not_isOrdered {e : Expr} (h : e.isOrdered = false) :
    e.withoutSorts = e := by
  cases e with
  | sort input keys => cases h
  | _ => rfl

/-- An ordering that replaced another one and still has an ordering below it is the last of three. -/
theorem exists_of_isOrdered_withoutSort {e : Expr} (h : e.withoutSort.isOrdered = true) :
    ∃ input first second, e = sort (sort input first) second := by
  cases e with
  | sort input second =>
    cases input with
    | sort input first => exact ⟨input, first, second, rfl⟩
    | _ => cases h
  | _ => cases h

/-- **Nothing is buried without three orderings directly on each other.** -/
theorem exists_of_buriesOrder {e : Expr} (h : e.BuriesOrder) :
    ∃ input first second third, sort (sort (sort input first) second) third ∈ e.nodes := by
  induction h with
  | ordered hp hordered =>
    cases hp with
    | sort below third =>
      obtain ⟨input, first, second, rfl⟩ := exists_of_isOrdered_withoutSort hordered
      exact ⟨input, first, second, _, self_mem_nodes _⟩
    | limitSort below third most skipped =>
      obtain ⟨input, first, second, rfl⟩ := exists_of_isOrdered_withoutSort hordered
      exact ⟨input, first, second, _, List.mem_cons_of_mem _ (self_mem_nodes _)⟩
    | limit most skipped hinput =>
      rw [hinput] at hordered
      cases hordered
  | input hp _ ih =>
    obtain ⟨input, first, second, third, hmem⟩ := ih
    exact ⟨input, first, second, third, hp.nodes_subset hmem⟩
  | operand hmem _ ih =>
    obtain ⟨input, first, second, third, hnode⟩ := ih
    exact ⟨input, first, second, third,
      nodes_operand_subset hmem (nodes_withoutSorts_subset _ hnode)⟩

/-! ## What resolving buries -/

variable {c : Capabilities} {policy : OrderPolicy} {canonical : Schema}

/-- Only an ordering resolves to one that keeps all rows; a limit drops or skips some. -/
theorem Valid.ordersAll_iff {e : Expr} {r : Resolved} (hv : e.Valid)
    (h : e.resolve c policy = .ok r) : r.OrdersAll ↔ e.isOrdered = true := by
  cases hv with
  | source origin schema =>
    cases origin <;>
    · rw [resolve] at h
      cases h
      exact iff_of_false id Bool.false_ne_true
  | chain =>
    obtain ⟨canonical, first, rest, -, -, -, rfl⟩ := (resolve_chain_eq_ok_iff rfl).1 h
    exact iff_of_false id Bool.false_ne_true
  | @sort input keys hv hkeys hnames =>
    obtain ⟨page, -, rfl⟩ := (PageOf.sort input keys).resolve_eq_ok_iff.1 h
    exact iff_of_true ⟨hkeys, rfl, rfl⟩ rfl
  | @limit input most skipped hv hlimit =>
    have hpage : ∃ page keys, r = .page page keys most skipped := by
      cases hordered : input.isOrdered with
      | false =>
        obtain ⟨page, -, rfl⟩ := (PageOf.limit most skipped hordered).resolve_eq_ok_iff.1 h
        exact ⟨page, [], rfl⟩
      | true =>
        cases input with
        | sort input keys =>
          obtain ⟨page, -, rfl⟩ :=
            (PageOf.limitSort input keys most skipped).resolve_eq_ok_iff.1 h
          exact ⟨page, keys, rfl⟩
        | _ => cases hordered
    obtain ⟨page, keys, rfl⟩ := hpage
    refine iff_of_false (fun hall => ?_) Bool.false_ne_true
    obtain ⟨-, rfl, rfl⟩ := hall
    rcases hlimit with hmost | ⟨n, hskipped, -⟩
    · cases hmost
    · cases hskipped

/-- A backend that rejects orderings reads every operand without those around it. -/
theorem ResolvesOperand.buries_iff {e : Expr} {operand : Operand Resolved}
    (hsub : c.subqueryOrder = false) (hv : e.Valid)
    (h : ResolvesOperand c policy canonical e operand)
    (ih : ∀ r, e.withoutSorts.resolve c policy = .ok r →
      (r.Buries ↔ e.withoutSorts.BuriesOrder)) :
    Resolved.operandBuries operand ↔ e.withoutSorts.BuriesOrder := by
  have hrelation : ∀ r, e.withoutSorts.resolve c policy = .ok r →
      (r.OrdersAll ∨ r.Buries ↔ e.withoutSorts.BuriesOrder) := by
    intro r hr
    rw [hv.withoutSorts.ordersAll_iff hr, isOrdered_withoutSorts, ih r hr]
    simp
  cases h with
  | table name schema => exact iff_of_false id (not_buriesOrder_source _ schema)
  | dropped _ _ _ hr => exact hrelation _ hr
  | kept _ hkept hr =>
    have hordered : e.isOrdered = false := by simpa [hsub] using hkept
    rw [← withoutSorts_of_not_isOrdered hordered] at hr
    exact hrelation _ hr

theorem ResolvesStep.restBuries_iff {steps : List (Step Expr)}
    {rest : List (ResolvedStep Resolved)}
    (h : List.Forall₂ (ResolvesStep c policy canonical) steps rest)
    (hoperand : ∀ step ∈ steps, ∀ out, ResolvesOperand c policy canonical step.operand out →
      (Resolved.operandBuries out ↔ step.operand.withoutSorts.BuriesOrder)) :
    Resolved.restBuries rest ↔ ∃ step ∈ steps, step.operand.withoutSorts.BuriesOrder := by
  induction h with
  | nil => simp [Resolved.restBuries]
  | @cons step out steps rest hstep _ ih =>
    obtain ⟨hfirst, hrest⟩ := List.forall_mem_cons.1 hoperand
    rw [Resolved.restBuries, hfirst _ hstep.operand, ih hrest]
    simp

/-- **A resolved expression buries what the expression buries.** -/
theorem Valid.buries_iff {e : Expr} {r : Resolved} (hsub : c.subqueryOrder = false)
    (hv : e.Valid) (h : e.resolve c policy = .ok r) : r.Buries ↔ e.BuriesOrder := by
  induction e using operand_induction generalizing r with
  | source origin schema =>
    cases origin <;>
    · rw [resolve] at h
      cases h
      exact iff_of_false id (not_buriesOrder_source _ schema)
  | page e input keys most skipped hp ih =>
    obtain ⟨page, hpage, rfl⟩ := hp.resolve_eq_ok_iff.1 h
    have hinput := hp.valid hv
    rw [Resolved.Buries, hinput.ordersAll_iff hpage, ih hinput hpage, hp.buriesOrder_iff]
  | chain base steps schema ih =>
    obtain ⟨canonical, first, rest, -, hfirst, hrest, rfl⟩ := (resolve_chain_eq_ok_iff rfl).1 h
    have hoperand : ∀ operand ∈ (Expr.chain base steps schema).operands, ∀ out,
        ResolvesOperand c policy canonical operand out →
          (Resolved.operandBuries out ↔ operand.withoutSorts.BuriesOrder) := by
      intro operand hmem out hout
      have hov := hv.operand operand hmem
      exact hout.buries_iff hsub hov fun r hr => (ih operand hmem).2 hov.withoutSorts hr
    rw [Resolved.Buries, hoperand _ List.mem_cons_self _ hfirst,
      ResolvesStep.restBuries_iff hrest fun step hstep =>
        hoperand _ (operand_mem_operands hstep), buriesOrder_chain_iff, operands,
      List.exists_mem_cons_iff]
    simp

/-! ## Emitted orderings -/

/-- The statement for an expression buries what the expression buries. -/
theorem Built.query_buries_iff {e : Expr} (h : Built e) (hsub : c.subqueryOrder = false)
    {compiled : Compiled} (hok : e.compileFor c policy = .ok compiled) :
    compiled.query.Buries ↔ e.BuriesOrder := by
  obtain ⟨r, hr, rfl⟩ := Except.map_eq_ok_iff.1 hok
  rw [← h.valid.buries_iff hsub hr]
  exact Resolved.buries_toQuery e.columnNames r 0

/-- **Which orderings stand in parentheses.** On a backend that rejects orderings in operands, every
SELECT in parentheses that orders its rows also restricts them, exactly when the expression buries
no ordering. -/
theorem Built.innerOrders_restricted_iff {e : Expr} (h : Built e)
    (hsub : c.subqueryOrder = false) {compiled : Compiled}
    (hok : e.compileFor c policy = .ok compiled) :
    (∀ inner ∈ compiled.query.enclosed, ∀ head ∈ inner.heads,
      head.IsOrdered compiled.dialect → head.IsRestricted compiled.dialect) ↔
        ¬ e.BuriesOrder := by
  rw [← h.query_buries_iff hsub hok, Query.not_buries_iff]

/-- Without three orderings directly on each other, there is no ordering in parentheses that the
backend may reject. -/
theorem Built.innerOrders_restricted {e : Expr} (h : Built e) (hsub : c.subqueryOrder = false)
    (hthree : ∀ input first second third,
      sort (sort (sort input first) second) third ∉ e.nodes) {compiled : Compiled}
    (hok : e.compileFor c policy = .ok compiled) :
    ∀ inner ∈ compiled.query.enclosed, ∀ head ∈ inner.heads,
      head.IsOrdered compiled.dialect → head.IsRestricted compiled.dialect := by
  refine Query.not_buries_iff.1 fun hburies => ?_
  obtain ⟨input, first, second, third, hmem⟩ :=
    exists_of_buriesOrder ((h.query_buries_iff hsub hok).1 hburies)
  exact hthree input first second third hmem

/-! ## Three orderings -/

/-- A table ordered up, down and up again. -/
def orderedThrice : Expr :=
  .sort (.sort (.sort (counter "a" .i64) [⟨"_sw_rn", true⟩]) [⟨"_sw_rn", false⟩])
    [⟨"_sw_rn", true⟩]

theorem built_orderedThrice : Built orderedThrice := by
  have hfirst : orderBy (counter "a" .i64) [⟨"_sw_rn", true⟩] = .ok _ := rfl
  have hsecond : orderBy (.sort (counter "a" .i64) [⟨"_sw_rn", true⟩]) [⟨"_sw_rn", false⟩] =
    .ok _ := rfl
  have hthird : orderBy (.sort (.sort (counter "a" .i64) [⟨"_sw_rn", true⟩])
    [⟨"_sw_rn", false⟩]) [⟨"_sw_rn", true⟩] = .ok orderedThrice := rfl
  exact .orderBy _ (.orderBy _ (.orderBy _ (.table ..) hfirst) hsecond) hthird

theorem buriesOrder_orderedThrice : orderedThrice.BuriesOrder :=
  .ordered (.sort _ _) rfl

/-- The third ordering replaces the second one, and the first one is written in parentheses. -/
theorem orderedThrice_unrestricted :
    let c := { Registry.withBags "mssql" .msSql (.emulated .rowNumber) with subqueryOrder := false }
    ∃ compiled, orderedThrice.compileFor c .drop = .ok compiled ∧
      ¬ ∀ inner ∈ compiled.query.enclosed, ∀ head ∈ inner.heads,
        head.IsOrdered compiled.dialect → head.IsRestricted compiled.dialect := by
  intro c
  have hsteps : (orderedThrice.compileFor c .drop).map (·.steps) = .ok [] := by decide +kernel
  obtain ⟨compiled, hok, -⟩ := Except.map_eq_ok_iff.1 hsteps
  refine ⟨compiled, hok, fun hall => ?_⟩
  exact (Built.innerOrders_restricted_iff built_orderedThrice rfl hok).1 hall
    buriesOrder_orderedThrice

/-- So orderings in parentheses are not always restricted. -/
theorem exists_unrestricted_innerOrder : ¬ ∀ (e : Expr) (c : Capabilities) (policy : OrderPolicy)
    (compiled : Compiled), Built e → c.subqueryOrder = false →
      e.compileFor c policy = .ok compiled → ∀ inner ∈ compiled.query.enclosed,
        ∀ head ∈ inner.heads, head.IsOrdered compiled.dialect →
          head.IsRestricted compiled.dialect := by
  intro h
  have hsteps : (orderedThrice.compileFor
      { Capabilities.native ⟨"mssql"⟩ .msSql with subqueryOrder := false } .drop).map (·.steps) =
        .ok [] := by
    decide +kernel
  obtain ⟨compiled, hok, -⟩ := Except.map_eq_ok_iff.1 hsteps
  refine Query.not_buries_iff.2 (h _ _ _ compiled built_orderedThrice rfl hok) ?_
  exact (built_orderedThrice.query_buries_iff rfl hok).2 buriesOrder_orderedThrice

end Expr

end SetQuery
