import Mathlib.Data.List.Infix
import SetQuery.Resolved.Query

/-!
# Orderings in parentheses

A backend may reject an ordering in a query that stands in parentheses, because nothing depends on
it there. It does where the same SELECT keeps some of the rows only, so such an ordering is allowed.

`Query.enclosed` lists the queries in parentheses, and `Query.heads` the SELECTs of a query that
stand in none. `Query.Buries` holds of a query with an ordering in parentheses that a backend may
reject.

**Theorem (`Resolved.buries_toQuery`).** The query for a resolved expression buries an ordering
exactly when an ordering without a limit is the input of a page or the operand of a chain; the
wrapping of operands and of steps neither adds such an ordering nor restricts one.
-/

namespace SetQuery

namespace Sql

/-! ## SELECTs with an ordering -/

namespace Head

/-- The SELECT has an ORDER BY clause. -/
def IsOrdered (d : Dialect) (head : Head) : Prop :=
  Select.orderParts (orderByParts head.orderBy) (d.paging head.limit head.offset).needsOrder ≠ []

/-- The SELECT has a clause that limits the number of rows or skips some. -/
def IsRestricted (d : Dialect) (head : Head) : Prop :=
  (d.paging head.limit head.offset).top.isSome ∨ (d.paging head.limit head.offset).clauses ≠ []

/-- The rows are ordered and all of them are kept. -/
def OrdersAll (head : Head) : Prop :=
  head.orderBy ≠ [] ∧ head.limit = none ∧ head.offset = none

theorem isRestricted_iff {d : Dialect} {head : Head} :
    head.IsRestricted d ↔ head.limit.isSome ∨ head.offset.isSome := by
  unfold IsRestricted
  cases head.limit <;> cases head.offset <;> cases d <;> simp [Dialect.paging, Dialect.limitClauses]

theorem isOrdered_of_orderBy {d : Dialect} {head : Head} (h : head.orderBy ≠ []) :
    head.IsOrdered d := by
  rw [IsOrdered, orderByParts, if_neg (by simpa using h)]
  exact List.cons_ne_nil _ _

/-- Without keys there is an ordering only where a clause needs one. -/
theorem isRestricted_of_orderBy_eq_nil {d : Dialect} {head : Head} (h : head.orderBy = [])
    (ho : head.IsOrdered d) : head.IsRestricted d := by
  rw [isRestricted_iff]
  by_contra hnone
  obtain ⟨hlimit, hoffset⟩ : head.limit = none ∧ head.offset = none := by simpa using hnone
  refine ho ?_
  rw [h, hlimit, hoffset]
  cases d <;> rfl

/-- In every dialect, an ordering without a restriction is one that the keys ask for. -/
theorem isOrdered_imp_isRestricted_iff {d : Dialect} {head : Head} :
    (head.IsOrdered d → head.IsRestricted d) ↔ ¬ head.OrdersAll := by
  constructor
  · intro h ⟨horder, hlimit, hoffset⟩
    have hrestricted := isRestricted_iff.1 (h (isOrdered_of_orderBy horder))
    simp [hlimit, hoffset] at hrestricted
  · intro h ho
    by_cases horder : head.orderBy = []
    · exact isRestricted_of_orderBy_eq_nil horder ho
    · rw [isRestricted_iff]
      by_contra hnone
      exact h ⟨horder, by simpa using hnone⟩

end Head

/-! ## Queries in parentheses -/

namespace Query

/-- The heads of the SELECTs that stand in no parentheses. -/
def heads : Query → List Head
  | .verbatim _ => []
  | .ofTable head _ _ => [head]
  | .ofQuery head _ _ => [head]
  | .compound left _ right => left.heads ++ right.heads

/-- The queries that stand in parentheses, at whatever depth. -/
def enclosed : Query → List Query
  | .verbatim _ => []
  | .ofTable _ _ _ => []
  | .ofQuery _ source _ => source :: source.enclosed
  | .compound left _ right => left.enclosed ++ right.enclosed

theorem source_infix_select (d : Dialect) (head : Head) (source : List Part) :
    source <:+: (head.select d source).parts d := by
  rw [Select.parts]
  have hfrom : source <:+ .word " FROM " :: source := List.suffix_cons _ _
  have hlead := hfrom.trans (List.suffix_append (Select.leadParts head.distinct
    (d.paging head.limit head.offset).top ++ (head.select d source).projection) _)
  exact (hlead.isInfix.trans (List.prefix_append _ _).isInfix).trans
    (List.prefix_append _ _).isInfix

/-- The text of such a query has parentheses around it. -/
theorem enclosed_infix (d : Dialect) {q inner : Query} (h : inner ∈ q.enclosed) :
    .opening :: inner.parts d ++ [.closing] <:+: q.parts d := by
  induction q with
  | verbatim sql => cases h
  | ofTable head table label? => cases h
  | ofQuery head source label ih =>
    have hsource := source_infix_select d head
      (.opening :: source.parts d ++ .closing :: aliasParts d label)
    rcases List.mem_cons.1 h with rfl | h
    · refine List.IsInfix.trans ⟨[], aliasParts d label, ?_⟩ hsource
      simp
    · refine (ih h).trans (List.IsInfix.trans ⟨[.opening], .closing :: aliasParts d label, ?_⟩
        hsource)
      simp
  | compound left op right ihl ihr =>
    rcases List.mem_append.1 h with h | h
    · exact (ihl h).trans (List.prefix_append _ _).isInfix
    · exact (ihr h).trans (List.suffix_append_of_suffix (List.suffix_cons _ _)).isInfix

/-- Some SELECT that stands in no parentheses orders its rows and keeps all of them. -/
def OrdersAll (q : Query) : Prop := ∃ head ∈ q.heads, head.OrdersAll

/-- Some SELECT in parentheses orders its rows and keeps all of them. -/
def Buries (q : Query) : Prop := ∃ inner ∈ q.enclosed, inner.OrdersAll

/-- Nothing is buried when every SELECT in parentheses that orders its rows restricts them. -/
theorem not_buries_iff {d : Dialect} {q : Query} :
    ¬ q.Buries ↔ ∀ inner ∈ q.enclosed, ∀ head ∈ inner.heads,
      head.IsOrdered d → head.IsRestricted d := by
  simp only [Head.isOrdered_imp_isRestricted_iff, Buries, OrdersAll, not_exists, not_and]

theorem ordersAll_ofTable {head : Head} {table : String} {label? : Option String} :
    (ofTable head table label?).OrdersAll ↔ head.OrdersAll := by
  simp [OrdersAll, heads]

theorem not_buries_ofTable {head : Head} {table : String} {label? : Option String} :
    ¬ (ofTable head table label?).Buries := by
  simp [Buries, enclosed]

theorem ordersAll_wrap {reserved : List String} {head : Head} {q : Query} {next : Nat} :
    (q.wrap reserved head next).1.OrdersAll ↔ head.OrdersAll := by
  simp [OrdersAll, wrap, heads]

theorem buries_wrap {reserved : List String} {head : Head} {q : Query} {next : Nat} :
    (q.wrap reserved head next).1.Buries ↔ q.OrdersAll ∨ q.Buries := by
  simp [Buries, wrap, enclosed]

theorem ordersAll_compound {left right : Query} {op : SetOp} :
    (compound left op right).OrdersAll ↔ left.OrdersAll ∨ right.OrdersAll := by
  simp only [OrdersAll, heads, List.mem_append, or_and_right, exists_or]

theorem buries_compound {left right : Query} {op : SetOp} :
    (compound left op right).Buries ↔ left.Buries ∨ right.Buries := by
  simp only [Buries, enclosed, List.mem_append, or_and_right, exists_or]

end Query

end Sql

open Sql

/-! ## Steps -/

theorem Sql.Head.not_ordersAll {head : Head} (h : head.orderBy = []) : ¬ head.OrdersAll :=
  fun hall => hall.1 h

namespace Progress

variable {reserved columns : List String}

/-- A step between queries without an ordering of their own buries what they bury. -/
theorem step_buries_iff {p : Progress} {s : QueryStep} (hp : ¬ p.query.OrdersAll)
    (hs : ¬ s.right.OrdersAll) :
    ¬ (p.step reserved columns s).query.OrdersAll ∧
      ((p.step reserved columns s).query.Buries ↔ p.query.Buries ∨ s.right.Buries) := by
  have hcolumns : ¬ (Head.columns columns).OrdersAll := Head.not_ordersAll rfl
  have hnumbering : ¬ (numberingHead reserved columns).OrdersAll := Head.not_ordersAll rfl
  have hdistinct : ¬ ({ Head.columns columns with distinct := true } : Head).OrdersAll :=
    Head.not_ordersAll rfl
  unfold step
  cases s.method with
  | native =>
    simp only [native]
    split <;> simp [Query.ordersAll_compound, Query.buries_compound, Query.ordersAll_wrap,
      Query.buries_wrap, hp, hs, hcolumns]
  | emulated emulation =>
    cases emulation with
    | rowNumber =>
      simp [numbered, Query.ordersAll_compound, Query.buries_compound, Query.ordersAll_wrap,
        Query.buries_wrap, hp, hs, hcolumns, hnumbering]
    | distinctOverUnionAll =>
      simp [deduplicated, Query.ordersAll_compound, Query.buries_compound, Query.ordersAll_wrap,
        Query.buries_wrap, hp, hs, hdistinct]

theorem foldl_buries_iff {p : Progress} {steps : List QueryStep} (hp : ¬ p.query.OrdersAll)
    (hs : ∀ s ∈ steps, ¬ s.right.OrdersAll) :
    ¬ (steps.foldl (step reserved columns) p).query.OrdersAll ∧
      ((steps.foldl (step reserved columns) p).query.Buries ↔
        p.query.Buries ∨ ∃ s ∈ steps, s.right.Buries) := by
  induction steps generalizing p with
  | nil => simp [hp]
  | cons s steps ih =>
    obtain ⟨hfirst, hrest⟩ := List.forall_mem_cons.1 hs
    obtain ⟨hstep, hburies⟩ := step_buries_iff hp hfirst
    obtain ⟨hall, hiff⟩ := ih hstep hrest
    refine ⟨hall, ?_⟩
    rw [List.foldl_cons, hiff, hburies, or_assoc]
    simp

end Progress

/-! ## Resolved expressions -/

namespace Resolved

/-- The expression is an ordering that keeps all rows. -/
def OrdersAll : Resolved → Prop
  | .page _ keys limit offset => keys ≠ [] ∧ limit = none ∧ offset = none
  | _ => False

mutual

/-- Such an ordering is the input of a page or an operand of a chain somewhere in the expression. -/
def Buries : Resolved → Prop
  | .table _ _ => False
  | .query _ => False
  | .page input _ _ _ => input.OrdersAll ∨ input.Buries
  | .chain _ first rest => operandBuries first ∨ restBuries rest

/-- An operand is such an ordering or has one inside. -/
def operandBuries : Operand Resolved → Prop
  | .table _ _ => False
  | .relation input _ _ => input.OrdersAll ∨ input.Buries

/-- An operand of some steps is such an ordering or has one inside. -/
def restBuries : List (ResolvedStep Resolved) → Prop
  | [] => False
  | ⟨_, _, operand⟩ :: rest => operandBuries operand ∨ restBuries rest

end

variable (reserved : List String)

theorem not_ordersAll_operandQuery (operand : Operand Resolved) (next : Nat) :
    ¬ (operandQuery reserved operand next).1.OrdersAll := by
  cases operand with
  | table name columns =>
    rw [operandQuery, Query.ordersAll_ofTable]
    exact Head.not_ordersAll rfl
  | relation input dropped columns =>
    rw [operandQuery, Query.ordersAll_wrap]
    exact Head.not_ordersAll rfl

/-- What holds of the query for each operand, wherever the numbering starts, holds of the queries on
the right of the steps. -/
theorem forall_right_restQueries {P : Query → Prop} {rest : List (ResolvedStep Resolved)}
    (h : ∀ step ∈ rest, ∀ next, P (operandQuery reserved step.operand next).1) (next : Nat) :
    ∀ s ∈ (restQueries reserved rest next).1, P s.right := by
  induction rest generalizing next with
  | nil => exact fun _ h => nomatch h
  | cons step rest ih =>
    obtain ⟨hfirst, hrest⟩ := List.forall_mem_cons.1 h
    exact List.forall_mem_cons.2 ⟨hfirst next, ih hrest _⟩

theorem not_ordersAll_restQueries (rest : List (ResolvedStep Resolved)) (next : Nat) :
    ∀ s ∈ (restQueries reserved rest next).1, ¬ s.right.OrdersAll :=
  forall_right_restQueries (P := fun query => ¬ query.OrdersAll) reserved
    (fun step _ => not_ordersAll_operandQuery reserved step.operand) next

theorem ordersAll_toQuery (r : Resolved) (next : Nat) :
    (r.toQuery reserved next).1.OrdersAll ↔ r.OrdersAll := by
  cases r with
  | table columns name =>
    rw [toQuery, Query.ordersAll_ofTable]
    exact iff_of_false (Head.not_ordersAll rfl) id
  | query sql => simp [toQuery, Query.OrdersAll, Query.heads, OrdersAll]
  | page input keys limit offset =>
    rw [toQuery, Query.ordersAll_wrap]
    rfl
  | chain columns first rest =>
    refine iff_of_false ?_ id
    exact (Progress.foldl_buries_iff (not_ordersAll_operandQuery reserved first next)
      (not_ordersAll_restQueries reserved rest _)).1

mutual

/-- **The text buries the orderings that the resolved expression buries.** -/
theorem buries_toQuery : ∀ (r : Resolved) (next : Nat),
    (r.toQuery reserved next).1.Buries ↔ r.Buries
  | .table columns name, next => iff_of_false Query.not_buries_ofTable id
  | .query sql, next => by simp [toQuery, Query.Buries, Query.enclosed, Buries]
  | .page input keys limit offset, next => by
    rw [toQuery, Query.buries_wrap, ordersAll_toQuery, buries_toQuery input, Buries]
  | .chain columns first rest, next => by
    refine (Progress.foldl_buries_iff (not_ordersAll_operandQuery reserved first next)
      (not_ordersAll_restQueries reserved rest _)).2.trans ?_
    exact or_congr (buries_operandQuery first next) (buries_restQueries rest _)

theorem buries_operandQuery : ∀ (operand : Operand Resolved) (next : Nat),
    (operandQuery reserved operand next).1.Buries ↔ operandBuries operand
  | .table name columns, next => iff_of_false Query.not_buries_ofTable id
  | .relation input dropped columns, next => by
    rw [operandQuery, Query.buries_wrap, ordersAll_toQuery, buries_toQuery input, operandBuries]

theorem buries_restQueries : ∀ (rest : List (ResolvedStep Resolved)) (next : Nat),
    (∃ s ∈ (restQueries reserved rest next).1, s.right.Buries) ↔ restBuries rest
  | [], next => by simp [restQueries, restBuries]
  | ⟨op, method, operand⟩ :: rest, next => by
    simp only [restQueries, List.mem_cons, exists_eq_or_imp, buries_operandQuery operand,
      buries_restQueries rest, restBuries]

end

end Resolved

end SetQuery
