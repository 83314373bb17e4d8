import SetQuery.Proofs.Expr.Resolution
import SetQuery.Proofs.Schema.TypeNames
import SetQuery.Proofs.Sql.Casts

/-!
# Names of types in a statement

A user may declare a column under any type name, and a cast writes the name of its target as it is.

**Theorem (`casts_have_known_targets`).** What a column is cast to is strictly wider than what was
declared, so it is none of the types that are known by their names alone, nor an array of one. A
statement does not depend on these names at all: under other names for unknown types the
expression compiles to the same statement.
-/

namespace SetQuery

open Sql

namespace Expr

variable {c : Capabilities} {policy : OrderPolicy} {canonical : Schema} {reserved : List String}

/-! ## The targets of casts -/

/-- Everything that is cast is cast to a strictly wider type. -/
def Widening (head : Head) : Prop :=
  ∀ cast ∈ head.casts, ∃ declared : SqlType, declared.CastsTo cast.2

theorem widening_of_casts_eq_nil {head : Head} (h : head.casts = []) : Widening head := by
  intro cast hcast
  rw [h] at hcast
  cases hcast

theorem widening_readingHead {s : Schema} (h : s.Widens canonical) :
    Widening (readingHead (columnReads canonical s)) := by
  intro cast hcast
  obtain ⟨item, hitem, hcast⟩ := List.mem_filterMap.1 hcast
  obtain ⟨read, hread, rfl⟩ := List.mem_map.1 hitem
  unfold ColumnRead.item at hcast
  split at hcast
  · next declared target htarget =>
    cases hcast
    exact ⟨declared, castsTo_of_mem_columnReads h hread htarget⟩
  · cases hcast

theorem ResolvesOperand.widening {e : Expr} {operand : Operand Resolved}
    (h : ResolvesOperand c policy canonical e operand) (hs : e.schema.Widens canonical)
    (he : ∀ r, e.resolve c policy = .ok r ∨ e.withoutSorts.resolve c policy = .ok r →
      ∀ next, (r.toQuery reserved next).1.AllSelects Widening) (next : Nat) :
    (Resolved.operandQuery reserved operand next).1.AllSelects Widening := by
  have hreading := widening_readingHead hs
  cases h with
  | table name schema => exact Query.allSelects_ofTable.2 hreading
  | dropped _ _ _ hr => exact Query.allSelects_wrap.2 ⟨hreading, he _ (.inr hr) next⟩
  | kept _ _ hr => exact Query.allSelects_wrap.2 ⟨hreading, he _ (.inl hr) next⟩

/-- **Every SELECT that is written casts to strictly wider types.** -/
theorem widening_toQuery {e : Expr} {r : Resolved} (h : e.resolve c policy = .ok r) (next : Nat) :
    (r.toQuery reserved next).1.AllSelects Widening := by
  induction e using operand_induction generalizing r next with
  | source origin schema =>
    cases origin with
    | table name =>
      rw [resolve] at h
      cases h
      exact Query.allSelects_ofTable.2 (widening_of_casts_eq_nil (Head.casts_columns _))
    | query sql =>
      rw [resolve] at h
      cases h
      exact Query.allSelects_verbatim _
  | page e input keys most skipped hp ih =>
    obtain ⟨page, hpage, rfl⟩ := hp.resolve_eq_ok_iff.1 h
    exact Query.allSelects_wrap.2 ⟨widening_of_casts_eq_nil rfl, ih hpage next⟩
  | chain base steps schema ih =>
    obtain ⟨canonical, first, rest, ha, hfirst, hrest, rfl⟩ := (resolve_chain_eq_ok_iff rfl).1 h
    have hoperand : ∀ operand ∈ (Expr.chain base steps schema).operands, ∀ out,
        ResolvesOperand c policy canonical operand out →
          ∀ next, (Resolved.operandQuery reserved out next).1.AllSelects Widening := by
      intro operand hmem out hout
      refine hout.widening (ha.widens _ (List.mem_map_of_mem hmem)) fun r hr next => ?_
      exact hr.elim (fun hr => (ih operand hmem).1 hr next) fun hr => (ih operand hmem).2 hr next
    refine Progress.allSelects_foldl
      (fun _ => widening_of_casts_eq_nil (Head.casts_columns canonical.names))
      (widening_of_casts_eq_nil (casts_numberingHead _ _))
      (hoperand _ List.mem_cons_self _ hfirst _)
      (Resolved.forall_right_restQueries reserved (fun out hout => ?_) _)
    obtain ⟨step, hstep, hresolves⟩ := exists_of_mem_forall₂ hrest hout
    exact hoperand _ (operand_mem_operands hstep) _ hresolves.operand

/-! ## Other names for unknown types -/

mutual

/-- The expression with other names for the unknown types in its schemas. -/
def retype (f : String → String) : Expr → Expr
  | .source origin schema => .source origin (schema.retype f)
  | .chain base steps schema => .chain (base.retype f) (retypeSteps f steps) (schema.retype f)
  | .sort input keys => .sort (input.retype f) keys
  | .limit input most skipped => .limit (input.retype f) most skipped

/-- The steps with other names for the unknown types in their operands. -/
def retypeSteps (f : String → String) : List (Step Expr) → List (Step Expr)
  | [] => []
  | ⟨op, operand⟩ :: rest => ⟨op, operand.retype f⟩ :: retypeSteps f rest

end

section

variable (f : String → String)

/-- The step with other names for the unknown types in its operand. -/
def retypeStep (step : Step Expr) : Step Expr := ⟨step.op, step.operand.retype f⟩

theorem retypeSteps_eq_map (steps : List (Step Expr)) :
    retypeSteps f steps = steps.map (retypeStep f) := by
  induction steps with
  | nil => rfl
  | cons step rest ih => rw [retypeSteps, ih]; rfl

theorem schema_retype : ∀ e : Expr, (e.retype f).schema = e.schema.retype f
  | .sort input _ => schema_retype input
  | .limit input _ _ => schema_retype input
  | .source _ _ => rfl
  | .chain _ _ _ => rfl

theorem isOrdered_retype (e : Expr) : (e.retype f).isOrdered = e.isOrdered := by
  cases e <;> rfl

theorem withoutSort_retype (e : Expr) : (e.retype f).withoutSort = e.withoutSort.retype f := by
  cases e <;> rfl

theorem withoutSorts_retype : ∀ e : Expr, (e.retype f).withoutSorts = e.withoutSorts.retype f
  | .sort input _ => withoutSorts_retype input
  | .source _ _ => rfl
  | .chain _ _ _ => rfl
  | .limit _ _ _ => rfl

theorem leftmost_retype : ∀ e : Expr, (e.retype f).leftmost = e.leftmost.retype f
  | .chain base _ _ => leftmost_retype base
  | .source _ _ => rfl
  | .sort _ _ => rfl
  | .limit _ _ _ => rfl

theorem flatSteps_retype : ∀ e : Expr, (e.retype f).flatSteps = e.flatSteps.map (retypeStep f)
  | .chain base steps _ => by
    rw [retype, flatSteps, flatSteps_retype base, retypeSteps_eq_map, flatSteps, List.map_append]
  | .source _ _ => rfl
  | .sort _ _ => rfl
  | .limit _ _ _ => rfl

theorem map_schema_operands_retype (e : Expr) : (e.retype f).operands.map (·.schema) =
    (e.operands.map (·.schema)).map (·.retype f) := by
  simp [operands, leftmost_retype, flatSteps_retype, retypeStep, schema_retype]

mutual

theorem columnNames_retype : ∀ e : Expr, (e.retype f).columnNames = e.columnNames
  | .source _ _ => Schema.names_retype
  | .chain base steps schema => by
    simp only [retype, columnNames, Schema.names_retype, columnNames_retype base,
      stepColumnNames_retype steps]
  | .sort input _ => columnNames_retype input
  | .limit input _ _ => columnNames_retype input

theorem stepColumnNames_retype : ∀ steps : List (Step Expr),
    stepColumnNames (retypeSteps f steps) = stepColumnNames steps
  | [] => rfl
  | ⟨_, operand⟩ :: rest => by
    simp only [retypeSteps, stepColumnNames, columnNames_retype operand,
      stepColumnNames_retype rest]

end

variable {f}

theorem PageOf.retype {e input : Expr} {keys : List SortKey} {most skipped : Option Nat}
    (h : PageOf e input keys most skipped) :
    PageOf (e.retype f) (input.retype f) keys most skipped := by
  cases h with
  | sort input keys =>
    rw [← withoutSort_retype]
    exact .sort _ _
  | limitSort input keys most skipped =>
    rw [← withoutSort_retype]
    exact .limitSort _ _ _ _
  | limit most skipped hordered => exact .limit _ _ (by rw [isOrdered_retype, hordered])

/-! ## Resolving under other names -/

theorem ResolvesOperand.retype {e : Expr} {operand : Operand Resolved}
    (h : ResolvesOperand c policy canonical e operand) (hs : e.schema.Widens canonical)
    (he : ∀ r, e.resolve c policy = .ok r → (e.retype f).resolve c policy = .ok r)
    (hsorts : ∀ r, e.withoutSorts.resolve c policy = .ok r →
      (e.withoutSorts.retype f).resolve c policy = .ok r) :
    ResolvesOperand c policy (canonical.retype f) (e.retype f) operand := by
  have hreads := columnReads_retype (f := f) hs
  cases h with
  | table name schema =>
    rw [← show columnReads _ _ = columnReads canonical schema from hreads]
    exact .table name _
  | dropped hordered hsub hpolicy hr =>
    rw [← hreads, ← schema_retype]
    refine .dropped (by rw [isOrdered_retype, hordered]) hsub hpolicy ?_
    rw [withoutSorts_retype]
    exact hsorts _ hr
  | kept hne hkept hr =>
    rw [← hreads, ← schema_retype]
    refine .kept (fun name schema heq => ?_) (by rw [isOrdered_retype, hkept]) (he _ hr)
    cases e with
    | source origin schema' =>
      cases heq
      exact hne name schema' rfl
    | _ => cases heq

/-- **Under other names of unknown types an expression resolves to the same.** -/
theorem resolve_retype {e : Expr} {r : Resolved} (h : e.resolve c policy = .ok r) :
    (e.retype f).resolve c policy = .ok r := by
  induction e using operand_induction generalizing r with
  | source origin schema =>
    cases origin with
    | table name =>
      rw [resolve] at h
      rw [retype, resolve, Schema.names_retype, h]
    | query sql =>
      rw [resolve] at h
      rw [retype, resolve, h]
  | page e input keys most skipped hp ih =>
    obtain ⟨page, hpage, rfl⟩ := hp.resolve_eq_ok_iff.1 h
    exact hp.retype.resolve_eq_ok_iff.2 ⟨page, ih hpage, rfl⟩
  | chain base steps schema ih =>
    obtain ⟨canonical, first, rest, ha, hfirst, hrest, rfl⟩ := (resolve_chain_eq_ok_iff rfl).1 h
    have hoperand : ∀ operand ∈ (Expr.chain base steps schema).operands, ∀ out,
        ResolvesOperand c policy canonical operand out →
          ResolvesOperand c policy (canonical.retype f) (operand.retype f) out := fun operand hmem _
        hout => hout.retype (ha.widens _ (List.mem_map_of_mem hmem))
          (fun _ => (ih operand hmem).1) fun _ => (ih operand hmem).2
    rw [resolve_chain_eq_ok_iff rfl]
    refine ⟨canonical.retype f, first, rest, ?_, ?_, ?_, by rw [Schema.names_retype]⟩
    · rw [map_schema_operands_retype]
      exact ha.retype
    · rw [leftmost_retype]
      exact hoperand _ List.mem_cons_self _ hfirst
    · rw [flatSteps_retype, List.forall₂_map_left_iff, List.forall₂_iff_zip]
      obtain ⟨hlength, hzip⟩ := List.forall₂_iff_zip.1 hrest
      refine ⟨hlength, fun {step out} hmem => ?_⟩
      obtain ⟨hop, hmethod, hresolves⟩ := hzip hmem
      have hstep := operand_mem_operands (List.of_mem_zip hmem).1
      exact ⟨hop, hmethod, hoperand _ hstep _ hresolves⟩

end

/-! ## Statements -/

/-- **Casts go only to known types.** -/
theorem casts_have_known_targets :
    (∀ (schemas : List Schema) (a : Alignment), align schemas = .ok a →
      ∀ (i pos : Nat) (s : Schema) (o : OperandAlignment), schemas[i]? = some s →
        a.operands[i]? = some o → (o.casts a.canonical)[pos]? = some true →
          ∃ x ∈ s.columns, ∃ d, a.canonical.columns[pos]? = some d ∧ x.name = d.name ∧
            o.declared[pos]? = some x.type ∧ x.type.CastsTo d.type) ∧
    ∀ (e : Expr) (c : Capabilities) (policy : OrderPolicy) (compiled : Compiled),
      e.compileFor c policy = .ok compiled →
        (∀ cast ∈ compiled.query.casts, (∃ declared : SqlType, declared.CastsTo cast.2) ∧
          ∀ depth name, cast.2 ≠ .arrayOf depth (.unknown name)) ∧
        (compiled.query.parts compiled.dialect).count castWord = compiled.query.casts.length ∧
        ∀ f, ∃ compiled', (e.retype f).compileFor c policy = .ok compiled' ∧
          compiled'.query = compiled.query ∧ compiled'.sql = compiled.sql := by
  refine ⟨fun schemas a h i pos s o hs ho hcast => align_casts h hs ho hcast,
    fun e c policy compiled hok => ?_⟩
  obtain ⟨r, hr, rfl⟩ := Except.map_eq_ok_iff.1 hok
  refine ⟨fun cast hcast => ?_, Query.count_cast_parts _ _, fun f => ?_⟩
  · obtain ⟨head, hhead, hcast⟩ := List.mem_flatMap.1 hcast
    obtain ⟨declared, hdeclared⟩ := widening_toQuery hr 0 head hhead cast hcast
    exact ⟨⟨declared, hdeclared⟩, hdeclared.ne_unknown⟩
  · refine ⟨_, Except.map_eq_ok_iff.2 ⟨r, resolve_retype hr, rfl⟩, ?_, ?_⟩
    · rw [columnNames_retype]
    · rw [Compiled.sql, Compiled.sql, columnNames_retype]

/-! ## An example -/

/-- A column of a type known by its name, and one of arrays. -/
def shapes (width : IntWidth) : Schema where
  columns :=
    [⟨"shape", .unknown "GEOMETRY", .unknown⟩, ⟨"sides", .array (.integer width), .unknown⟩]
  nodup := by simp
  named := by simp

/-- A union whose first operand has the narrower arrays. -/
def shapesUnion : Expr :=
  .chain (.table "a" (shapes .i16)) [⟨⟨.union, .all⟩, .table "b" (shapes .i32)⟩] (shapes .i32)

/-- The arrays are cast, and the other type is not in the statement. -/
theorem shapesUnion_casts :
    (∃ a o, align [shapes .i16, shapes .i32] = .ok a ∧ a.operands[0]? = some o ∧
      ∃ x ∈ (shapes .i16).columns, ∃ d, a.canonical.columns[1]? = some d ∧ x.name = d.name ∧
        o.declared[1]? = some x.type ∧ x.type.CastsTo d.type) ∧
    ∃ compiled compiled', shapesUnion.compileFor (.native ⟨"postgres"⟩ .postgres) .strict =
        .ok compiled ∧
      compiled.query.casts = [("sides", .array (.integer .i32))] ∧
      (∀ cast ∈ compiled.query.casts, ∃ declared : SqlType, declared.CastsTo cast.2) ∧
      (shapesUnion.retype fun _ => "x) --").compileFor (.native ⟨"postgres"⟩ .postgres) .strict =
        .ok compiled' ∧ compiled'.sql = compiled.sql := by
  obtain ⟨haligned, hcompiled⟩ := casts_have_known_targets
  constructor
  · obtain ⟨a, ha⟩ : ∃ a, align [shapes .i16, shapes .i32] = .ok a := ⟨_, rfl⟩
    obtain ⟨o, ho⟩ : ∃ o, a.operands[0]? = some o := by
      cases ha
      exact ⟨_, rfl⟩
    refine ⟨a, o, ha, ho, haligned _ a ha 0 1 _ o rfl ho ?_⟩
    cases ha
    cases ho
    decide
  · have hcasts : (shapesUnion.compileFor (.native ⟨"postgres"⟩ .postgres) .strict).map
        (·.query.casts) = .ok [("sides", .array (.integer .i32))] := by
      decide +kernel
    obtain ⟨compiled, hok, hcompiledcasts⟩ := Except.map_eq_ok_iff.1 hcasts
    obtain ⟨htargets, -, hretype⟩ := hcompiled _ _ _ compiled hok
    obtain ⟨compiled', hok', -, hsql⟩ := hretype fun _ => "x) --"
    exact ⟨compiled, compiled', hok, hcompiledcasts, fun cast hcast => (htargets cast hcast).1,
      hok', hsql⟩

end Expr

end SetQuery
