import SetQuery.Proofs.Expr.Coherence
import SetQuery.Proofs.Sql.Selects

/-!
# Select lists

A schema may have no columns, and a select list without items is no portable SQL. The operands of a
set operation have columns, because alignment refuses a schema without any, and so has everything
that is written for them. A table that is no operand is never aligned with anything.

**Theorem (`selectLists_nonempty_iff`).** Every SELECT in the text for an expression has a select
list, exactly when the expression is not a table without columns, below orderings and limits or
alone.
-/

namespace SetQuery

open Sql

/-- No SELECT of the query has an empty select list. -/
def Sql.Query.Lists (q : Query) : Prop := q.AllSelects fun head => head.items ≠ []

theorem items_readingHead_columnReads {canonical : Schema} (h : canonical.isEmpty = false)
    (s : Schema) : (readingHead (columnReads canonical s)).items ≠ [] := by
  have hcolumns : canonical.columns ≠ [] := List.isEmpty_eq_false_iff.1 h
  simpa [readingHead, columnReads] using hcolumns

namespace Expr

variable {c : Capabilities} {policy : OrderPolicy} {canonical : Schema} {reserved : List String}

theorem core_withoutSorts : ∀ e : Expr, e.withoutSorts.core = e.core
  | .sort input _ => core_withoutSorts input
  | .source _ _ => rfl
  | .chain _ _ _ => rfl
  | .limit _ _ _ => rfl

theorem core_ne_of_schema {e : Expr} (h : e.schema.isEmpty = false) (name : String) :
    e.core ≠ .table name .empty := by
  intro hcore
  rw [← schema_core e, hcore] at h
  cases h

/-- An operand is read under the columns of its chain. -/
theorem ResolvesOperand.lists {e : Expr} {operand : Operand Resolved}
    (h : ResolvesOperand c policy canonical e operand) (hc : canonical.isEmpty = false)
    (he : ∀ r, e.resolve c policy = .ok r ∨ e.withoutSorts.resolve c policy = .ok r →
      ∀ next, (r.toQuery reserved next).1.Lists) (next : Nat) :
    (Resolved.operandQuery reserved operand next).1.Lists := by
  have hitems : (readingHead (columnReads canonical e.schema)).items ≠ [] :=
    items_readingHead_columnReads hc e.schema
  cases h with
  | table name schema => exact Query.allSelects_ofTable.2 hitems
  | dropped _ _ _ hr => exact Query.allSelects_wrap.2 ⟨hitems, he _ (.inr hr) next⟩
  | kept _ _ hr => exact Query.allSelects_wrap.2 ⟨hitems, he _ (.inl hr) next⟩

/-- A chain has columns, and what is written for its operands lists something. -/
theorem lists_chain {schema : Schema} {first : Operand Resolved}
    {rest : List (ResolvedStep Resolved)} (hc : schema.isEmpty = false)
    (hfirst : ∀ next, (Resolved.operandQuery reserved first next).1.Lists)
    (hrest : ∀ step ∈ rest, ∀ next, (Resolved.operandQuery reserved step.operand next).1.Lists)
    (next : Nat) :
    ((Resolved.chain schema.names first rest).toQuery reserved next).1.Lists := by
  have hne : schema.names ≠ [] := fun hnil =>
    List.isEmpty_eq_false_iff.1 hc (List.map_eq_nil_iff.1 hnil)
  refine Progress.allSelects_foldl (fun _ => ?_) ?_ (hfirst next)
    (Resolved.forall_right_restQueries reserved hrest _)
  · simpa [Head.columns] using hne
  · simp [numberingHead]

/-- **What is resolved lists something, unless it is a table without columns.** -/
theorem lists_toQuery_iff {e : Expr} {r : Resolved} (h : e.resolve c policy = .ok r) (next : Nat) :
    (r.toQuery reserved next).1.Lists ↔ ∀ name, e.core ≠ .table name .empty := by
  induction e using operand_induction generalizing r next with
  | source origin schema =>
    cases origin with
    | table name =>
      rw [resolve] at h
      cases h
      rw [Resolved.toQuery, Query.Lists, Query.allSelects_ofTable]
      constructor
      · intro hitems other hcore
        cases hcore
        exact hitems rfl
      · intro hcore hnil
        have hnone : schema.columns = [] := by simpa [Head.columns, Schema.names] using hnil
        exact hcore name (congrArg (Expr.table name) (Schema.ext_columns hnone))
    | query sql =>
      rw [resolve] at h
      cases h
      exact iff_of_true (Query.allSelects_verbatim _) fun name hcore => by cases hcore
  | page e input keys most skipped hp ih =>
    obtain ⟨page, hpage, rfl⟩ := hp.resolve_eq_ok_iff.1 h
    rw [Resolved.toQuery, Query.Lists, Query.allSelects_wrap, ← hp.core_eq, ← ih hpage next]
    exact and_iff_right (List.cons_ne_nil _ _)
  | chain base steps schema ih =>
    obtain ⟨canonical, first, rest, ha, hfirst, hrest, rfl⟩ := (resolve_chain_eq_ok_iff rfl).1 h
    have hoperand : ∀ operand ∈ (Expr.chain base steps schema).operands, ∀ out,
        ResolvesOperand c policy canonical operand out →
          ∀ next, (Resolved.operandQuery reserved out next).1.Lists := by
      intro operand hmem out hout
      have hcolumns : operand.schema.isEmpty = false :=
        (alignsTo_cons_iff.1 ha).1 _ (List.mem_map_of_mem hmem)
      refine hout.lists ha.isEmpty_eq_false fun r hr next => ?_
      rcases hr with hr | hr
      · exact ((ih operand hmem).1 hr next).2 (core_ne_of_schema hcolumns)
      · refine ((ih operand hmem).2 hr next).2 ?_
        rw [core_withoutSorts]
        exact core_ne_of_schema hcolumns
    refine iff_of_true ?_ fun name hcore => by cases hcore
    refine lists_chain ha.isEmpty_eq_false (hoperand _ List.mem_cons_self _ hfirst) ?_ next
    intro out hout
    obtain ⟨step, hstep, hresolves⟩ := exists_of_mem_forall₂ hrest hout
    exact hoperand _ (operand_mem_operands hstep) _ hresolves.operand

/-- **Which statements have select lists.** Every SELECT of a statement lists something, exactly
when the expression is not a table without columns below orderings and limits; and the text of each
of these SELECTs is in the text of the statement. -/
theorem selectLists_nonempty_iff {e : Expr} {compiled : Compiled}
    (hok : e.compileFor c policy = .ok compiled) :
    ((∀ head ∈ compiled.query.selects, head.items ≠ []) ↔
      ∀ name, e.core ≠ .table name .empty) ∧
    ∀ head ∈ compiled.query.selects, ∃ source, (head.select compiled.dialect source).parts
      compiled.dialect <:+: compiled.query.parts compiled.dialect := by
  obtain ⟨r, hr, rfl⟩ := Except.map_eq_ok_iff.1 hok
  exact ⟨lists_toQuery_iff hr 0, fun _ => Query.select_infix c.dialect⟩

/-! ## A table without columns -/

/-- The first rows of a table without columns. -/
def firstOfNothing : Expr := (Expr.table "t" .empty).limitOffset (some 3) 0

/-- The limit changes nothing about the select list below it, and no chain has such a list. -/
theorem firstOfNothing_listsNothing :
    (∃ compiled, firstOfNothing.compileFor (.native ⟨"duckdb"⟩ .duckDb) .strict = .ok compiled ∧
      ¬ ∀ head ∈ compiled.query.selects, head.items ≠ []) ∧
    ∃ compiled, nested.compileFor (.native ⟨"duckdb"⟩ .duckDb) .strict = .ok compiled ∧
      ∀ head ∈ compiled.query.selects, head.items ≠ [] := by
  constructor
  · have hsteps : (firstOfNothing.compileFor (.native ⟨"duckdb"⟩ .duckDb) .strict).map
        (·.steps) = .ok [] := by
      decide +kernel
    obtain ⟨compiled, hok, -⟩ := Except.map_eq_ok_iff.1 hsteps
    exact ⟨compiled, hok, fun hall => (selectLists_nonempty_iff hok).1.1 hall "t" rfl⟩
  · obtain ⟨r, hr⟩ : ∃ r, nested.resolve (.native ⟨"duckdb"⟩ .duckDb) .strict = .ok r :=
      exists_resolve_nested rfl rfl
    have hok : nested.compileFor (.native ⟨"duckdb"⟩ .duckDb) .strict = .ok _ :=
      Except.map_eq_ok_iff.2 ⟨r, hr, rfl⟩
    exact ⟨_, hok, (selectLists_nonempty_iff hok).1.2 fun name hcore => by cases hcore⟩

/-- So a SELECT may list nothing: the text for a table without columns has its source right behind
the first word. -/
theorem exists_empty_selectList : ¬ ∀ (e : Expr) (c : Capabilities) (policy : OrderPolicy)
    (compiled : Compiled), Built e → e.compileFor c policy = .ok compiled →
      ∀ head ∈ compiled.query.selects, head.items ≠ [] := by
  intro h
  have hsteps : ((Expr.table "t" .empty).compileFor (.native ⟨"duckdb"⟩ .duckDb) .drop).map
      (fun compiled => (compiled.query.parts compiled.dialect, compiled.query.selects)) =
        .ok ([.word "SELECT ", .word " FROM ", .table "t"], [.columns []]) := by
    decide +kernel
  obtain ⟨compiled, hok, htext⟩ := Except.map_eq_ok_iff.1 hsteps
  have hselects : compiled.query.selects = [.columns []] := (Prod.mk.inj htext).2
  refine h _ _ _ compiled (.table "t" .empty) hok (.columns []) ?_ rfl
  rw [hselects]
  exact List.mem_singleton_self _

end Expr

end SetQuery
