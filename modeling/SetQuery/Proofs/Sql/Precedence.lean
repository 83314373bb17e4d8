import SetQuery.Proofs.Sql.Enclosed
import SetQuery.Proofs.Sql.Level
import SetQuery.Proofs.Sql.Reading

/-!
# Evaluation order does not depend on precedence

Between the same parentheses, an emitted statement has intersections first and unions and
differences behind them, and no operand is a set operation outside of parentheses
(`Query.InOrder`). The flag of `Progress` is set whenever a union or a difference stands there, so
an intersection is only written behind a query without one, or behind a query in parentheses.

**Theorem (`Resolved.inOrder_toQuery`).** So it is at every level of an emitted query. It follows
that no intersection stands behind a union or a difference in the text (`tightFirst_parts`), that
grouping the operands by precedence and grouping them from left to right both give the query as it
was built (`InOrder.byPrecedence_eq`, `InOrder.leftToRight_eq`), and that a backend reads it so
(`Resolved.asRead_toQuery`).
-/

namespace SetQuery

namespace Sql.Query

/-! ## One level -/

/-- The query is no set operation. -/
def IsOperand : Query → Prop
  | .compound _ _ _ => False
  | _ => True

/-- Operands from left to right, intersections first. The index says whether a union or a difference
is among the operators. -/
inductive InOrder : Bool → Query → Prop
  | operand {q : Query} (h : q.IsOperand) : InOrder false q
  | intersect {left right : Query} {op : SetOp} (hleft : InOrder false left)
      (hright : right.IsOperand) (hop : op.kind = .intersect) :
      InOrder false (.compound left op right)
  | other {loose : Bool} {left right : Query} {op : SetOp} (hleft : InOrder loose left)
      (hright : right.IsOperand) (hop : op.kind ≠ .intersect) :
      InOrder true (.compound left op right)

/-- Every query in parentheses is in order. -/
def EnclosedInOrder (q : Query) : Prop := ∀ inner ∈ q.enclosed, ∃ loose, InOrder loose inner

/-- The query and every query in parentheses are in order. -/
def AllInOrder (q : Query) : Prop := ∀ inner ∈ q :: q.enclosed, ∃ loose, InOrder loose inner

theorem allInOrder_iff {q : Query} :
    q.AllInOrder ↔ (∃ loose, InOrder loose q) ∧ q.EnclosedInOrder := List.forall_mem_cons

theorem IsOperand.allInOrder {q : Query} (h : q.IsOperand) (henclosed : q.EnclosedInOrder) :
    q.AllInOrder := allInOrder_iff.2 ⟨⟨false, .operand h⟩, henclosed⟩

theorem enclosedInOrder_compound {left right : Query} {op : SetOp} :
    (compound left op right).EnclosedInOrder ↔ left.EnclosedInOrder ∧ right.EnclosedInOrder := by
  simp only [EnclosedInOrder, enclosed, List.forall_mem_append]

/-- Parentheses add one level. -/
theorem enclosedInOrder_ofQuery {head : Head} {source : Query} {label : String} :
    (ofQuery head source label).EnclosedInOrder ↔ source.AllInOrder := Iff.rfl

theorem isOperand_wrap (q : Query) (reserved : List String) (head : Head) (next : Nat) :
    (q.wrap reserved head next).1.IsOperand := trivial

theorem IsOperand.allInOrder_compound {left right : Query} (op : SetOp) (hl : left.IsOperand)
    (hr : right.IsOperand) (hleft : left.EnclosedInOrder) (hright : right.EnclosedInOrder) :
    (compound left op right).AllInOrder := by
  refine allInOrder_iff.2 ⟨?_, enclosedInOrder_compound.2 ⟨hleft, hright⟩⟩
  by_cases hop : op.kind = .intersect
  · exact ⟨false, .intersect (.operand hl) hr hop⟩
  · exact ⟨true, .other (.operand hl) hr hop⟩

/-! ## The text -/

theorem steady_aliasParts (d : Dialect) (label : String) : Steady (aliasParts d label) :=
  fun _ _ => rfl

/-- What is read of a query in order: nothing of an operand, and else whether there is a union or a
difference. -/
theorem track_parts (d : Dialect) {q : Query} (h : q.EnclosedInOrder) :
    (q.IsOperand → Steady (q.parts d)) ∧
      ∀ loose, q.InOrder loose → ∀ stack,
        track (false :: stack) (q.parts d) = some (loose :: stack) := by
  -- an operand is in order with no operators at all
  have hoperand {q : Query} (hq : q.IsOperand) (hsteady : Steady (q.parts d)) :
      (q.IsOperand → Steady (q.parts d)) ∧ ∀ loose, q.InOrder loose → ∀ stack,
        track (false :: stack) (q.parts d) = some (loose :: stack) := by
    refine ⟨fun _ => hsteady, fun loose hloose stack => ?_⟩
    cases hloose with
    | operand => exact hsteady false stack
    | intersect => exact absurd hq id
    | other => exact absurd hq id
  induction q with
  | verbatim sql => exact hoperand trivial fun _ _ => rfl
  | ofTable head table label? =>
    refine hoperand trivial (head.steady_select d ?_)
    cases label? with
    | none => exact fun _ _ => rfl
    | some label => exact fun _ _ => rfl
  | ofQuery head source label ih =>
    obtain ⟨⟨loose, hsource⟩, henclosed⟩ := allInOrder_iff.1 (enclosedInOrder_ofQuery.1 h)
    have hgroup := steady_group fun stack => ⟨loose, (ih henclosed).2 loose hsource stack⟩
    refine hoperand trivial (head.steady_select d ?_)
    have hparts := hgroup.append (steady_aliasParts d label)
    rwa [List.cons_append, List.append_assoc] at hparts
  | compound left op right ihl ihr =>
    obtain ⟨hleft, hright⟩ := enclosedInOrder_compound.1 h
    refine ⟨fun h => absurd h id, fun loose hloose stack => ?_⟩
    rw [parts, track_append]
    cases hloose with
    | operand h => exact absurd h id
    | intersect hl hr hop =>
      rw [(ihl hleft).2 _ hl, Option.bind_some, track_cons]
      simpa [trackPart, hop] using (ihr hright).1 hr false stack
    | other hl hr hop =>
      rw [(ihl hleft).2 _ hl, Option.bind_some, track_cons]
      simpa [trackPart, hop] using (ihr hright).1 hr true stack

/-- **No intersection stands behind a union or a difference.** -/
theorem AllInOrder.tightFirst_parts {q : Query} (h : q.AllInOrder) (d : Dialect) :
    TightFirst (q.parts d) := by
  obtain ⟨⟨loose, hlevel⟩, henclosed⟩ := allInOrder_iff.1 h
  exact tightFirst_of_track ((track_parts d henclosed).2 loose hlevel [])

/-! ## Grouping -/

/-- The operands of a query that stand in no parentheses, and the operators between them, as they
are written. -/
def flat : Query → Query × List (SetOp × Query)
  | .compound left op right => (left.flat.1, left.flat.2 ++ (op, right.flat.1) :: right.flat.2)
  | q => (q, [])

/-- The operands grouped by the precedence of the operators. -/
def byPrecedence (q : Query) : Query := (Reading.ofSequence q.flat.1 q.flat.2).query

/-- The operands grouped from left to right. -/
def leftToRight (q : Query) : Query :=
  q.flat.2.foldl (fun left next => .compound left next.1 next.2) q.flat.1

/-- The operands and operators are those of the text. -/
theorem parts_flat (d : Dialect) (q : Query) : q.flat.1.parts d ++
    (q.flat.2.flatMap fun next => .operator next.1 :: next.2.parts d) = q.parts d := by
  induction q with
  | compound left op right ihl ihr =>
    simp only [flat, List.flatMap_append, List.flatMap_cons, parts, ← ihl, ← ihr,
      List.append_assoc, List.cons_append]
  | _ => exact List.append_nil _

theorem IsOperand.flat_eq {q : Query} (h : q.IsOperand) : q.flat = (q, []) := by
  cases q with
  | compound => exact absurd h id
  | _ => rfl

theorem flat_compound {left right : Query} (op : SetOp) (h : right.IsOperand) :
    (compound left op right).flat = (left.flat.1, left.flat.2 ++ [(op, right)]) := by
  rw [flat, h.flat_eq]

/-- **Grouping from left to right gives the query.** -/
theorem InOrder.leftToRight_eq {loose : Bool} {q : Query} (h : q.InOrder loose) :
    q.leftToRight = q := by
  have hcompound {left right : Query} (op : SetOp) (hright : right.IsOperand)
      (ih : left.leftToRight = left) :
      (compound left op right).leftToRight = compound left op right := by
    rw [leftToRight, flat_compound op hright, List.foldl_append]
    exact congrArg (compound · op right) ih
  induction h with
  | operand h => rw [leftToRight, h.flat_eq, List.foldl_nil]
  | intersect _ hright _ ih => exact hcompound _ hright ih
  | other _ hright _ ih => exact hcompound _ hright ih

/-- What has been read of a query in order: the query, with nothing in front of the last operand if
there is no union and no difference. -/
theorem InOrder.reading {loose : Bool} {q : Query} (h : q.InOrder loose) :
    (Reading.ofSequence q.flat.1 q.flat.2).query = q ∧
      (loose = false → (Reading.ofSequence q.flat.1 q.flat.2).before = none) := by
  have hpush {left right : Query} (op : SetOp) (hright : right.IsOperand) :
      Reading.ofSequence (compound left op right).flat.1 (compound left op right).flat.2 =
        (Reading.ofSequence left.flat.1 left.flat.2).push op right := by
    rw [flat_compound op hright, Reading.ofSequence, List.foldl_append]
    rfl
  induction h with
  | operand h =>
    rw [h.flat_eq]
    exact ⟨rfl, fun _ => rfl⟩
  | intersect _ hright hop ih =>
    obtain ⟨hquery, hbefore⟩ := ih
    -- nothing stands before, so all that was read is what the intersection extends
    rw [hpush _ hright, Reading.push, if_pos hop, Reading.last_eq_query (hbefore rfl), hquery,
      hbefore rfl]
    exact ⟨rfl, fun _ => rfl⟩
  | other _ hright hop ih =>
    rw [hpush _ hright, Reading.push, if_neg hop, ih.1]
    exact ⟨rfl, fun h => nomatch h⟩

/-- **Grouping by precedence gives the query.** -/
theorem InOrder.byPrecedence_eq {loose : Bool} {q : Query} (h : q.InOrder loose) :
    q.byPrecedence = q := h.reading.1

/-! ## What a backend reads -/

theorem sequence_eq_flat {q : Query} (h : ∀ inner ∈ q.enclosed, inner.asRead = inner) :
    q.sequence = q.flat := by
  induction q with
  | verbatim sql => rfl
  | ofTable head table label? => rfl
  | ofQuery head source label =>
    have hsource : (Reading.ofSequence source.sequence.1 source.sequence.2).query = source :=
      h source List.mem_cons_self
    rw [sequence, hsource]
    rfl
  | compound left op right ihl ihr =>
    obtain ⟨hleft, hright⟩ := List.forall_mem_append.1 h
    rw [sequence, ihl hleft, ihr hright, flat]

theorem asRead_of_enclosed {loose : Bool} {q : Query} (h : q.InOrder loose)
    (henclosed : ∀ inner ∈ q.enclosed, inner.asRead = inner) : q.asRead = q := by
  rw [asRead, reading, sequence_eq_flat henclosed]
  exact h.byPrecedence_eq

theorem EnclosedInOrder.asRead_enclosed {q : Query} (h : q.EnclosedInOrder) :
    ∀ inner ∈ q.enclosed, inner.asRead = inner := by
  induction q with
  | verbatim sql => exact fun _ hmem => nomatch hmem
  | ofTable head table label? => exact fun _ hmem => nomatch hmem
  | ofQuery head source label ih =>
    obtain ⟨⟨loose, hsource⟩, henclosed⟩ := allInOrder_iff.1 (enclosedInOrder_ofQuery.1 h)
    exact List.forall_mem_cons.2 ⟨asRead_of_enclosed hsource (ih henclosed), ih henclosed⟩
  | compound left op right ihl ihr =>
    obtain ⟨hleft, hright⟩ := enclosedInOrder_compound.1 h
    exact List.forall_mem_append.2 ⟨ihl hleft, ihr hright⟩

/-- **A backend reads a query that is in order as it is.** -/
theorem AllInOrder.asRead_eq {q : Query} (h : q.AllInOrder) : q.asRead = q := by
  obtain ⟨⟨loose, hlevel⟩, henclosed⟩ := allInOrder_iff.1 h
  exact asRead_of_enclosed hlevel henclosed.asRead_enclosed

end Sql.Query

open Sql

/-! ## Emitted queries -/

/-- Everything is in order so far, and the flag is set if a union or a difference stands outside of
parentheses. -/
structure Progress.InOrder (p : Progress) : Prop where
  level : ∃ loose, p.query.InOrder loose ∧ (loose = true → p.loose = true)
  enclosed : p.query.EnclosedInOrder

namespace Progress.InOrder

variable {p : Progress} {reserved columns : List String} {right : Query}

theorem ofOperand {q : Query} (h : q.IsOperand) (henclosed : q.EnclosedInOrder) (next : Nat) :
    InOrder ⟨q, false, next⟩ where
  level := ⟨false, .operand h, id⟩
  enclosed := henclosed

theorem ofWrap {q : Query} (h : q.AllInOrder) (head : Head) (next next' : Nat) :
    InOrder ⟨(q.wrap reserved head next).1, false, next'⟩ :=
  ofOperand (q.isOperand_wrap reserved head next) h next'

theorem allInOrder (hp : p.InOrder) : p.query.AllInOrder :=
  Query.allInOrder_iff.2 ⟨hp.level.imp fun _ h => h.1, hp.enclosed⟩

theorem native (hp : p.InOrder) (hright : right.IsOperand) (hinner : right.EnclosedInOrder)
    (op : SetOp) : (p.native reserved columns op right).InOrder := by
  unfold Progress.native
  by_cases hwrap : op.kind = .intersect ∧ p.loose = true
  · rw [if_pos hwrap]
    exact ⟨⟨false, .intersect (.operand trivial) hright hwrap.1, nofun⟩,
      Query.enclosedInOrder_compound.2 ⟨hp.allInOrder, hinner⟩⟩
  · rw [if_neg hwrap]
    obtain ⟨loose, hlevel, hflag⟩ := hp.level
    refine ⟨?_, Query.enclosedInOrder_compound.2 ⟨hp.enclosed, hinner⟩⟩
    by_cases hop : op.kind = .intersect
    · have htight : loose = false := by
        by_contra hloose
        exact hwrap ⟨hop, hflag (by simpa using hloose)⟩
      exact ⟨false, .intersect (htight ▸ hlevel) hright hop, nofun⟩
    · exact ⟨true, .other hlevel hright hop, by simp [hop]⟩

/-- **Every step keeps the order**, with the backend's own operator and with both emulations. -/
theorem step (hp : p.InOrder) {s : QueryStep} (hright : s.right.IsOperand)
    (hinner : s.right.EnclosedInOrder) : (p.step reserved columns s).InOrder := by
  unfold Progress.step
  cases s.method with
  | native => exact hp.native hright hinner s.op
  | emulated emulation =>
    cases emulation with
    | rowNumber =>
      exact ofWrap (Query.IsOperand.allInOrder_compound _ (Query.isOperand_wrap ..)
        (Query.isOperand_wrap ..) hp.allInOrder (hright.allInOrder hinner)) ..
    | distinctOverUnionAll =>
      obtain ⟨loose, hlevel, -⟩ := hp.level
      exact ofWrap (Query.allInOrder_iff.2 ⟨⟨true, .other hlevel hright (by decide)⟩,
        Query.enclosedInOrder_compound.2 ⟨hp.enclosed, hinner⟩⟩) ..

theorem foldl (hp : p.InOrder) {steps : List QueryStep}
    (h : ∀ s ∈ steps, s.right.IsOperand ∧ s.right.EnclosedInOrder) :
    (steps.foldl (Progress.step reserved columns) p).InOrder := by
  induction steps generalizing p with
  | nil => exact hp
  | cons s steps ih =>
    obtain ⟨hs, hsteps⟩ := List.forall_mem_cons.1 h
    exact ih (hp.step hs.1 hs.2) hsteps

end Progress.InOrder

namespace Resolved

variable (reserved : List String)

mutual

/-- **An emitted query is in order at every level.** -/
theorem inOrder_toQuery :
    ∀ (r : Resolved) (next : Nat), (r.toQuery reserved next).1.AllInOrder
  | .table _ _, _ => Query.IsOperand.allInOrder trivial nofun
  | .query _, _ => Query.IsOperand.allInOrder trivial nofun
  | .page input _ _ _, next => by
    simp only [toQuery]
    exact Query.IsOperand.allInOrder trivial (inOrder_toQuery input next)
  | .chain _ first rest, next => by
    simp only [toQuery]
    obtain ⟨hfirst, hinner⟩ := inOrder_operandQuery first next
    exact ((Progress.InOrder.ofOperand hfirst hinner _).foldl
      (inOrder_restQueries rest _)).allInOrder

theorem inOrder_operandQuery : ∀ (operand : Operand Resolved) (next : Nat),
    (operandQuery reserved operand next).1.IsOperand ∧
      (operandQuery reserved operand next).1.EnclosedInOrder
  | .table _ _, _ => ⟨trivial, nofun⟩
  | .relation input _ _, next => by
    simp only [operandQuery]
    exact ⟨trivial, inOrder_toQuery input next⟩

theorem inOrder_restQueries : ∀ (rest : List (ResolvedStep Resolved)) (next : Nat),
    ∀ s ∈ (restQueries reserved rest next).1, s.right.IsOperand ∧ s.right.EnclosedInOrder
  | [], _ => fun _ h => nomatch h
  | ⟨_, _, operand⟩ :: rest, next => by
    simp only [restQueries, List.forall_mem_cons]
    exact ⟨inOrder_operandQuery operand next, inOrder_restQueries rest _⟩

end

/-- **A backend reads an emitted query as it was built.** -/
theorem asRead_toQuery (r : Resolved) (next : Nat) :
    (r.toQuery reserved next).1.asRead = (r.toQuery reserved next).1 :=
  (inOrder_toQuery reserved r next).asRead_eq

end Resolved

end SetQuery
