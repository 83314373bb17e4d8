import SetQuery.Compile
import SetQuery.Proofs.Meaning.Refinement

/-!
# Emulations are transparent

**Theorem (`Capabilities.Standard.results_eq`).** On a backend with a standard table, which all
built-in and configured ones are, the statement for an expression answers, as it is read, with the
same relations as the statement for a backend that has all operations, over every database. Each
emulated step keeps as many copies of a row as its operation.

Resolving for the other backend only replaces the methods by the backend's own
(`Expr.resolve_allNative`), and the meaning of a resolved expression does not depend on them.
-/

namespace SetQuery

open Sql

/-- The backend as if it had all operations. -/
def Capabilities.allNative (c : Capabilities) : Capabilities :=
  { c with support := PerOp.const .native }

theorem Capabilities.resolve_allNative (c : Capabilities) (op : SetOp) :
    c.allNative.resolve op = .ok .native := by
  rw [resolve, allNative, PerOp.get_const]

theorem Capabilities.standard_allNative (c : Capabilities) : c.allNative.Standard :=
  standard_of_native (PerOp.get_const _)

namespace Resolved

/-! ## Other methods, same meaning -/

mutual

/-- The expression with the backend's own operator in every step. -/
def allNative : Resolved → Resolved
  | .table columns name => .table columns name
  | .query sql => .query sql
  | .page input keys most skipped => .page input.allNative keys most skipped
  | .chain columns first rest => .chain columns (operandNative first) (restNative rest)

/-- The operand with the backend's own operator in every step. -/
def operandNative : Operand Resolved → Operand Resolved
  | .table name columns => .table name columns
  | .relation input dropped columns => .relation input.allNative dropped columns

/-- The steps with the backend's own operators. -/
def restNative : List (ResolvedStep Resolved) → List (ResolvedStep Resolved)
  | [] => []
  | ⟨op, _, operand⟩ :: rest => ⟨op, .native, operandNative operand⟩ :: restNative rest

end

variable {V : Type} [DecidableEq V] (E : Engine V) (db : Database V)

mutual

theorem results_allNative : ∀ r : Resolved, r.allNative.results E db = r.results E db
  | .table _ _ => by rw [allNative]
  | .query _ => by rw [allNative]
  | .page input _ _ _ => by rw [allNative, results, results, results_allNative input]
  | .chain _ first rest => by
    rw [allNative, results, results, operandResults_operandNative first,
      restResults_restNative rest]

theorem operandResults_operandNative :
    ∀ operand : Operand Resolved,
      operandResults E db (operandNative operand) = operandResults E db operand
  | .table _ _ => by rw [operandNative]
  | .relation input _ _ => by
    rw [operandNative, operandResults, operandResults, results_allNative input]

theorem restResults_restNative : ∀ (rest : List (ResolvedStep Resolved)) (A : Set (Relation V)),
    restResults E db (restNative rest) A = restResults E db rest A
  | [], _ => by rw [restNative]
  | ⟨_, _, operand⟩ :: rest, _ => by
    rw [restNative, restResults, restResults, operandResults_operandNative operand,
      restResults_restNative rest]

end

end Resolved

namespace Expr

variable {c : Capabilities} {policy : OrderPolicy} {canonical : Schema}

theorem resolvesOperand_allNative {e : Expr} {o : Operand Resolved}
    (h : ResolvesOperand c policy canonical e o)
    (ih : ∀ r, e.resolve c policy = .ok r → e.resolve c.allNative policy = .ok r.allNative)
    (ih' : ∀ r, e.withoutSorts.resolve c policy = .ok r →
      e.withoutSorts.resolve c.allNative policy = .ok r.allNative) :
    ResolvesOperand c.allNative policy canonical e (Resolved.operandNative o) := by
  cases h with
  | table name schema => rw [Resolved.operandNative]; exact .table name schema
  | dropped hordered hsub hpolicy hr =>
    rw [Resolved.operandNative]
    exact .dropped hordered hsub hpolicy (ih' _ hr)
  | kept hne hkept hr =>
    rw [Resolved.operandNative]
    exact .kept hne hkept (ih _ hr)

theorem resolvesSteps_allNative {steps : List (Step Expr)} {rest : List (ResolvedStep Resolved)}
    (h : List.Forall₂ (ResolvesStep c policy canonical) steps rest)
    (hoperand : ∀ step ∈ steps, ∀ o, ResolvesOperand c policy canonical step.operand o →
      ResolvesOperand c.allNative policy canonical step.operand (Resolved.operandNative o)) :
    List.Forall₂ (ResolvesStep c.allNative policy canonical) steps (Resolved.restNative rest) := by
  induction h with
  | nil => rw [Resolved.restNative]; exact .nil
  | @cons step s steps rest hstep _ ih =>
    obtain ⟨ho, hos⟩ := List.forall_mem_cons.1 hoperand
    rw [Resolved.restNative]
    exact .cons ⟨hstep.op, c.resolve_allNative _, ho _ hstep.operand⟩ (ih hos)

/-- Resolving for a backend that has all operations replaces the methods. -/
theorem resolve_allNative {e : Expr} {r : Resolved} (h : e.resolve c policy = .ok r) :
    e.resolve c.allNative policy = .ok r.allNative := by
  induction e using operand_induction generalizing r with
  | source origin schema =>
    cases origin <;>
    · rw [resolve] at h ⊢
      cases h
      rw [Resolved.allNative]
  | page e input keys most skipped hp ih =>
    rw [hp.resolve_eq_ok_iff] at h ⊢
    obtain ⟨page, hpage, rfl⟩ := h
    exact ⟨_, ih hpage, by rw [Resolved.allNative]⟩
  | chain base steps schema ih =>
    obtain ⟨canonical, first, rest, ha, hfirst, hrest, rfl⟩ := (resolve_chain_eq_ok_iff rfl).1 h
    have hoperand : ∀ operand ∈ (chain base steps schema).operands, ∀ o,
        ResolvesOperand c policy canonical operand o →
          ResolvesOperand c.allNative policy canonical operand (Resolved.operandNative o) :=
      fun operand hmem o ho => resolvesOperand_allNative ho (fun _ => (ih operand hmem).1)
        fun _ => (ih operand hmem).2
    have hnative := resolvesSteps_allNative hrest fun step hstep =>
      hoperand _ (operand_mem_operands hstep)
    rw [Resolved.allNative]
    exact (resolve_chain_eq_ok_iff rfl).2 ⟨canonical, _, _, ha,
      hoperand _ List.mem_cons_self _ hfirst, hnative, rfl⟩

end Expr

/-! ## Statements -/

/-- **Emulations are transparent.** -/
theorem Capabilities.Standard.results_eq {c : Capabilities} (hc : c.Standard) {e : Expr}
    {policy : OrderPolicy} {compiled : Compiled} (hok : e.compileFor c policy = .ok compiled) :
    (∃ native, e.compileFor c.allNative policy = .ok native ∧ native.schema = compiled.schema ∧
      ∀ (V : Type) [DecidableEq V] (E : Engine V) (db : Database V),
        compiled.query.results E db = native.query.results E db) ∧
    ∀ (V : Type) [DecidableEq V] (E : Engine V) (db : Database V) (reserved columns : List String)
      (p : Progress) (op : SetOp) (emulation : Emulation) (right : Query) (A B : Set (Relation V)),
      columns ≠ [] → columns.Nodup → columns ⊆ reserved → Emulation.ofOp? op = some emulation →
      Carries E db columns p.query A → Carries E db columns right B → ∀ out : Relation V,
        out ∈ (p.step reserved columns ⟨op, .emulated emulation, right⟩).query.answers E db ↔
          out.columns = columns ∧ ∃ a ∈ A, ∃ b ∈ B, ∀ row,
            out.rows.count row = op.copies (a.rows.count row) (b.rows.count row) := by
  refine ⟨?_, ?_⟩
  · obtain ⟨r, hr, rfl⟩ := Except.map_eq_ok_iff.1 hok
    have hnative := Expr.resolve_allNative hr
    refine ⟨_, Except.map_eq_ok_iff.2 ⟨_, hnative, rfl⟩, rfl, fun V _ E db => ?_⟩
    have hnames := List.Subset.refl e.columnNames
    rw [Resolved.results_toQuery (Expr.wellFormed_of_resolve hc hr hnames),
      Resolved.results_toQuery (Expr.wellFormed_of_resolve c.standard_allNative hnative hnames),
      Resolved.results_allNative]
  · intro V _ E db reserved columns p op emulation right A B hne hnodup hsubset hop hp hright out
    exact hp.mem_answers_step_iff hright hne hnodup hsubset (fun _ h => by cases h; exact hop)

theorem nested_results_eq : ∃ c : Capabilities,
    c.support.get ⟨.union, .distinct⟩ = .emulated .distinctOverUnionAll ∧
    c.support.get ⟨.intersect, .all⟩ = .emulated .rowNumber ∧
    ∃ compiled native, Expr.nested.compileFor c .strict = .ok compiled ∧
      Expr.nested.compileFor c.allNative .strict = .ok native ∧
      compiled.query.results Engine.integers .counters =
        native.query.results Engine.integers .counters := by
  let c := ((Capabilities.native ⟨"hive"⟩ .hive).setSupport ⟨.union, .distinct⟩
    (.emulated .distinctOverUnionAll)).setSupport ⟨.intersect, .all⟩ (.emulated .rowNumber)
  have hc : c.Standard :=
    ((Capabilities.standard_native _ _).setSupport fun _ h => by cases h; rfl).setSupport
      fun _ h => by cases h; rfl
  obtain ⟨r, hr⟩ : ∃ r, Expr.nested.resolve c .strict = .ok r :=
    Expr.exists_resolve_nested rfl rfl
  have hok : Expr.nested.compileFor c .strict = .ok _ := Except.map_eq_ok_iff.2 ⟨r, hr, rfl⟩
  obtain ⟨native, hnative, -, hresults⟩ := (Capabilities.Standard.results_eq hc hok).1
  exact ⟨c, rfl, rfl, _, native, hok, hnative, hresults _ _ _⟩

end SetQuery
