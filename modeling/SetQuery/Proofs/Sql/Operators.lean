import SetQuery.Proofs.Sql.Picking
import SetQuery.Resolved.Query

/-!
# The operators of a statement

The operators between the queries of a statement are parts of their own, so they can be read off its
text. `Query.operations` lists them, and they are the operations of the text (`filterMap_parts`).

**Theorem (`Resolved.operations_toQuery`).** The statement for a resolved expression has as many
operators of each kind as its report has steps that write it: no step is left out of the text, none
is written twice, and nothing else is written as an operator.
-/

namespace SetQuery

namespace Sql

/-! ## Operators in the text -/

/-- The operation of a part that stands between two queries. -/
def Part.operation? : Part → Option SetOp
  | .operator op => some op
  | _ => none

/-- The operations of some parts. -/
def operations (parts : List Part) : List SetOp := parts.filterMap Part.operation?

@[simp] theorem operations_nil : operations [] = [] := rfl

@[simp] theorem operations_append (l r : List Part) :
    operations (l ++ r) = operations l ++ operations r := List.filterMap_append

theorem operations_cons (p : Part) (l : List Part) :
    operations (p :: l) = p.operation?.toList ++ operations l := by
  unfold operations
  cases hp : p.operation? <;> simp [hp]

theorem skipsWords_operation : SkipsWords Part.operation? where
  word _ := rfl
  column _ := rfl

theorem SelectItem.operations_parts (d : Dialect) (item : SelectItem) :
    operations (item.parts d) = [] := by
  have hcolumns : ∀ names, operations (columnParts names) = [] :=
    skipsWords_operation.filterMap_columnParts
  cases item <;> simp [parts, operations_cons, hcolumns, Part.operation?]

/-- The operators among some parts, as a dialect spells them. -/
def operatorTexts (d : Dialect) (parts : List Part) : List String :=
  (parts.filter fun p => p.operation?.isSome).map (·.spell d)

/-- What is spelled between two queries is the operator of the operation, between blanks. -/
theorem operatorTexts_eq (d : Dialect) (parts : List Part) :
    operatorTexts d parts = (operations parts).map fun op => " " ++ d.operator op ++ " " := by
  induction parts with
  | nil => rfl
  | cons p rest ih =>
    cases p with
    | operator op => exact congrArg ((" " ++ d.operator op ++ " ") :: ·) ih
    | _ => exact ih

/-- A SELECT writes no operators beside those of its source. -/
theorem Head.operations_select (d : Dialect) (head : Head) (source : List Part) :
    operations ((head.select d source).parts d) = operations source := by
  refine (skipsWords_operation.filterMap_select d head source).trans ?_
  rw [List.flatMap_eq_nil_iff.2 fun item _ => item.operations_parts d, List.nil_append]
  rfl

namespace Query

/-- The operations between the queries of a query, from left to right. -/
def operations : Query → List SetOp
  | .verbatim _ => []
  | .ofTable _ _ _ => []
  | .ofQuery _ source _ => source.operations
  | .compound left op right => left.operations ++ op :: right.operations

/-- The operators of a text are the operations of the query. -/
theorem operations_parts (d : Dialect) (q : Query) :
    Sql.operations (q.parts d) = q.operations := by
  induction q with
  | verbatim sql => rfl
  | ofTable head table label? =>
    rw [parts, Head.operations_select]
    cases label? <;> rfl
  | ofQuery head source label ih =>
    rw [parts, Head.operations_select]
    simp [operations_cons, aliasParts, Part.operation?, ih, operations]
  | compound left op right ihl ihr =>
    simp [parts, operations_cons, Part.operation?, ihl, ihr, operations]

end Query

end Sql

open Sql

/-! ## Operators of an emitted statement -/

/-- The report on a step of a query. -/
def QueryStep.record (s : QueryStep) : StepRecord := ⟨s.op, s.method⟩

/-- A step writes one operator behind what was written before. -/
theorem Progress.operations_step (reserved columns : List String) (p : Progress) (s : QueryStep) :
    (p.step reserved columns s).query.operations =
      p.query.operations ++ s.record.written :: s.right.operations := by
  unfold Progress.step
  cases hm : s.method with
  | native =>
    simp only [native, StepRecord.written, QueryStep.record, hm]
    split <;> rfl
  | emulated emulation =>
    cases emulation <;> simp only [StepRecord.written, QueryStep.record, hm] <;> rfl

theorem Progress.operations_foldl (reserved columns : List String) (p : Progress)
    (steps : List QueryStep) :
    (steps.foldl (Progress.step reserved columns) p).query.operations =
      p.query.operations ++ steps.flatMap fun s => s.record.written :: s.right.operations := by
  induction steps generalizing p with
  | nil => simp
  | cons s steps ih => simp [ih, operations_step]

namespace Resolved

variable (reserved : List String)

mutual

/-- **The text has the operators that the report names.** -/
theorem operations_toQuery : ∀ (r : Resolved) (next : Nat),
    (r.toQuery reserved next).1.operations.Perm (r.steps.map (·.written))
  | .table _ _, _ => .nil
  | .query _, _ => .nil
  | .page input _ _ _, next => operations_toQuery input next
  | .chain _ first rest, next => by
    have hfirst := operations_operandQuery first next
    have hrest := operations_restQueries rest (operandQuery reserved first next).2
    simp only [toQuery, steps, Progress.operations_foldl, List.map_append]
    rw [List.map_append] at hrest
    rw [List.append_assoc]
    exact hfirst.append hrest

theorem operations_operandQuery : ∀ (operand : Operand Resolved) (next : Nat),
    (operandQuery reserved operand next).1.operations.Perm
      ((operandSteps operand).map (·.written))
  | .table _ _, _ => .nil
  | .relation input _ _, next => operations_toQuery input next

theorem operations_restQueries : ∀ (rest : List (ResolvedStep Resolved)) (next : Nat),
    ((restQueries reserved rest next).1.flatMap fun s =>
      s.record.written :: s.right.operations).Perm
        ((restSteps rest ++ recordSteps rest).map (·.written))
  | [], _ => .nil
  | ⟨op, method, operand⟩ :: rest, next => by
    have hoperand := operations_operandQuery operand next
    have hrest := operations_restQueries rest (operandQuery reserved operand next).2
    -- the text has the operator of the step in front of its operand, the report behind all operands
    rw [List.perm_iff_count] at hoperand hrest ⊢
    intro written
    have hoperand := hoperand written
    have hrest := hrest written
    simp only [restQueries, restSteps, recordSteps, List.flatMap_cons, List.map_append,
      List.map_cons, List.cons_append, List.count_append, List.count_cons,
      QueryStep.record] at hrest ⊢
    omega

end

end Resolved

end SetQuery
