import SetQuery.Proofs.Meaning.Heads
import SetQuery.Proofs.Meaning.Rewriting
import SetQuery.Proofs.Sql.Names
import SetQuery.Proofs.Sql.Precedence

/-!
# What an emitted query answers

`Resolved.results` says which relations a resolved expression may stand for. It follows the tree and
does not look at how an operation is carried out.

**Theorem (`Resolved.answers_toQuery`).** The emitted query answers with exactly these relations.

The invariant `Carries` of the steps of a chain says that the query written so far answers with the
relations of the steps so far, under the columns of the chain. A step combines the rows as its
method does, whatever the operation (`Carries.step`): the column in which an emulation numbers
copies is none of the columns of the chain, because its name is fresh. An emulation that is made for
the operation computes it (`Carries.step_of_made_for`).
-/

namespace SetQuery

open Sql

variable {V : Type} [DecidableEq V]

/-! ## The meaning of a resolved expression -/

namespace Resolved

mutual

/-- The relations that the expression may stand for. -/
def results (E : Engine V) (db : Database V) : Resolved → Set (Relation V)
  | .table columns name => (Head.columns columns).answers E (db.table name)
  | .query sql => {db.answer sql}
  | .page input keys most skipped =>
    {out | ∃ s ∈ input.results E db, out ∈ (Head.paging keys most skipped).answers E s}
  | .chain _ first rest => restResults E db rest (operandResults E db first)

/-- The relations that the operand may stand for, with the columns that are read. -/
def operandResults (E : Engine V) (db : Database V) : Operand Resolved → Set (Relation V)
  | .table name columns => (readingHead columns).answers E (db.table name)
  | .relation input _ columns =>
    {out | ∃ s ∈ input.results E db, out ∈ (readingHead columns).answers E s}

/-- The relations after some steps from others. -/
def restResults (E : Engine V) (db : Database V) :
    List (ResolvedStep Resolved) → Set (Relation V) → Set (Relation V)
  | [], A => A
  | ⟨op, _, operand⟩ :: rest, A =>
    restResults E db rest (Relation.combine op A (operandResults E db operand))

end

mutual

/-- The columns of each chain are different and reserved, its operands are read under them, and what
emulates an operation is made for it. -/
def WellFormed (reserved : List String) : Resolved → Prop
  | .table _ _ => True
  | .query _ => True
  | .page input _ _ _ => input.WellFormed reserved
  | .chain columns first rest => columns ≠ [] ∧ columns.Nodup ∧ columns ⊆ reserved ∧
      OperandWellFormed reserved columns first ∧ RestWellFormed reserved columns rest

/-- The operand is read under the columns. -/
def OperandWellFormed (reserved columns : List String) : Operand Resolved → Prop
  | .table _ reads => reads.map (·.name) = columns
  | .relation input _ reads => input.WellFormed reserved ∧ reads.map (·.name) = columns

/-- The operands are read under the columns, and what emulates an operation is made for it. -/
def RestWellFormed (reserved columns : List String) : List (ResolvedStep Resolved) → Prop
  | [] => True
  | ⟨op, method, operand⟩ :: rest =>
    (∀ emulation, method = .emulated emulation → Emulation.ofOp? op = some emulation) ∧
      OperandWellFormed reserved columns operand ∧ RestWellFormed reserved columns rest

end

end Resolved

/-! ## Numbered rows -/

namespace Relation

omit [DecidableEq V] in
/-- A row with the number of its copy. -/
def numberedRow (E : Engine V) (x : List V × Nat) : List V := x.1 ++ [E.number (x.2 + 1)]

omit [DecidableEq V] in
theorem numberedRow_injective (E : Engine V) : Function.Injective (numberedRow E) := by
  rintro ⟨row, k⟩ ⟨row', k'⟩ h
  obtain ⟨rfl, hnumber⟩ := List.append_inj' h rfl
  have hk := E.number_injective (List.cons.inj hnumber).1
  exact Prod.ext rfl (Nat.succ.inj hk)

/-- The relation with a column that numbers the copies of each row. -/
def numbered (E : Engine V) (c : String) (s : Relation V) : Relation V where
  columns := s.columns ++ [c]
  rows := (SetOp.numbered s.rows).map (numberedRow E)
  width row hrow := by
    obtain ⟨x, hx, rfl⟩ := Multiset.mem_map.1 hrow
    rw [numberedRow, List.length_append, List.length_append,
      s.width _ (Multiset.mem_of_mem_toEnumFinset hx)]
    rfl

@[simp] theorem columns_numbered (E : Engine V) (c : String) (s : Relation V) :
    (s.numbered E c).columns = s.columns ++ [c] := rfl

/-- Reading the columns of combined numbered rows takes the numbers away. -/
theorem map_value_combine_numbered {E : Engine V} (kind : OpKind) {columns : List String}
    (hnodup : columns.Nodup) (c : String) {a b : Relation V} (ha : a.columns = columns)
    (hb : b.columns = columns) :
    ((SetOp.combine ⟨kind, .distinct⟩ (a.numbered E c).rows (b.numbered E c).rows).map fun row =>
      columns.map (E.value (columns ++ [c]) row)) =
        Emulation.rowNumber.combine kind a.rows b.rows := by
  rw [numbered, numbered, ← SetOp.map_combine (p := fun _ => True)
      (fun x y _ _ h => numberedRow_injective E h) _ (fun _ _ => trivial) (fun _ _ => trivial),
    Multiset.map_map]
  refine Multiset.map_congr rfl fun x hx => ?_
  have hwidth : x.1.length = columns.length := by
    rcases SetOp.mem_of_mem_combine hx with hx | hx
    · exact ha ▸ a.width _ (Multiset.mem_of_mem_toEnumFinset hx)
    · exact hb ▸ b.width _ (Multiset.mem_of_mem_toEnumFinset hx)
  refine Eq.trans (List.map_congr_left fun name hname => ?_) (E.map_value hnodup hwidth)
  exact E.value_append hwidth hname c _

/-- The relations of two sets, combined row by row as a method does. -/
def combineBy (method : Method) (op : SetOp) (A B : Set (Relation V)) : Set (Relation V) :=
  {out | ∃ a ∈ A, ∃ b ∈ B, a.columns.length = b.columns.length ∧ out.columns = a.columns ∧
    out.rows = method.combine op a.rows b.rows}

theorem combineBy_eq_combine {method : Method} {op : SetOp}
    (h : ∀ emulation, method = .emulated emulation → Emulation.ofOp? op = some emulation)
    (A B : Set (Relation V)) : combineBy method op A B = combine op A B := by
  simp only [combineBy, combine, Method.combine_eq h]

end Relation

/-! ## Carrying relations along -/

/-- The query may stand next to an operator and answers with the relations, all under the
columns. -/
structure Carries (E : Engine V) (db : Database V) (columns : List String) (q : Query)
    (A : Set (Relation V)) : Prop where
  isOperand : q.isOperand = true
  answers : q.answers E db = A
  columns : ∀ a ∈ A, a.columns = columns

namespace Carries

variable {E : Engine V} {db : Database V} {columns reserved : List String} {q left right : Query}
  {A B : Set (Relation V)}

theorem columns_of_mem_combineBy (hl : Carries E db columns left A) {method : Method}
    {op : SetOp} : ∀ out ∈ Relation.combineBy method op A B, out.columns = columns := by
  rintro out ⟨a, ha, _, _, _, hcolumns, _⟩
  exact hcolumns.trans (hl.columns a ha)

theorem compound (hl : Carries E db columns left A) (hr : Carries E db columns right B)
    (op : SetOp) : Carries E db columns (.compound left op right)
      (Relation.combineBy .native op A B) where
  isOperand := rfl
  answers := by
    rw [Query.answers, hl.answers, hr.answers]
    ext out
    exact ⟨fun h => h.2.2, fun h => ⟨hl.isOperand, hr.isOperand, h⟩⟩
  columns := hl.columns_of_mem_combineBy

/-- Parentheses and a fresh alias change nothing. -/
theorem wrap (h : Carries E db columns q A) (hne : columns ≠ []) (hnodup : columns.Nodup)
    (next : Nat) : Carries E db columns (q.wrap reserved (.columns columns) next).1 A where
  isOperand := rfl
  answers := by
    rw [Query.wrap, Query.answers, h.answers]
    ext out
    constructor
    · rintro ⟨s, hs, hout⟩
      obtain ⟨hcolumns, hrows⟩ :=
        (Head.mem_answers_columns hne hnodup (h.columns s hs)).1 hout
      rwa [Relation.ext (hcolumns.trans (h.columns s hs).symm) hrows]
    · intro hout
      exact ⟨out, hout, (Head.mem_answers_columns hne hnodup (h.columns out hout)).2
        ⟨h.columns out hout, rfl⟩⟩
  columns := h.columns

/-- A union that drops duplicates afterwards. -/
theorem deduplicated (hl : Carries E db columns left A) (hr : Carries E db columns right B)
    (hne : columns ≠ []) (hnodup : columns.Nodup) (op : SetOp) (next : Nat) :
    Carries E db columns ((Query.compound left ⟨.union, .all⟩ right).wrap reserved
      { Head.columns columns with distinct := true } next).1
      (Relation.combineBy (.emulated .distinctOverUnionAll) op A B) where
  isOperand := rfl
  answers := by
    have hall := hl.compound hr ⟨.union, .all⟩
    rw [Query.wrap, Query.answers, hall.answers]
    ext out
    constructor
    · rintro ⟨s, hs, hout⟩
      obtain ⟨hcolumns, hrows⟩ :=
        (Head.mem_answers_columns hne hnodup (hall.columns s hs)).1 hout
      obtain ⟨a, ha, b, hb, hlength, -, hs⟩ := hs
      refine ⟨a, ha, b, hb, hlength, hcolumns.trans (hl.columns a ha).symm, hrows.trans ?_⟩
      rw [hs]
      rfl
    · rintro ⟨a, ha, b, hb, hlength, hcolumns, hrows⟩
      obtain ⟨s, hs, -, hsrows⟩ := Relation.exists_mem_combine ⟨.union, .all⟩ ha hb hlength
      refine ⟨s, hs, (Head.mem_answers_columns hne hnodup (hall.columns s hs)).2
        ⟨hcolumns.trans (hl.columns a ha), hrows.trans ?_⟩⟩
      rw [hsrows]
      rfl
  columns := hl.columns_of_mem_combineBy

/-- Numbering the rows of an operand. -/
theorem answers_wrap_numberingHead (h : Carries E db columns q A) (hnodup : columns.Nodup)
    (next : Nat) : (q.wrap reserved (numberingHead reserved columns) next).1.answers E db =
      Relation.numbered E (helperColumn reserved) '' A := by
  rw [Query.wrap, Query.answers, h.answers]
  ext out
  constructor
  · rintro ⟨s, hs, hout⟩
    obtain ⟨hcolumns, hrows⟩ := (Head.mem_answers_numberingHead hnodup (h.columns s hs)).1 hout
    refine ⟨s, hs, Relation.ext ?_ hrows.symm⟩
    rw [hcolumns, Relation.columns_numbered, h.columns s hs]
  · rintro ⟨s, hs, rfl⟩
    refine ⟨s, hs, (Head.mem_answers_numberingHead hnodup (h.columns s hs)).2 ⟨?_, rfl⟩⟩
    rw [Relation.columns_numbered, h.columns s hs]

/-- The operation on sets, applied to numbered rows. -/
theorem numbered (hl : Carries E db columns left A) (hr : Carries E db columns right B)
    (hne : columns ≠ []) (hnodup : columns.Nodup) (hsubset : columns ⊆ reserved) (op : SetOp)
    (n₁ n₂ n₃ : Nat) :
    Carries E db columns (((Query.compound
      (left.wrap reserved (numberingHead reserved columns) n₁).1 ⟨op.kind, .distinct⟩
      (right.wrap reserved (numberingHead reserved columns) n₂).1).wrap reserved
        (.columns columns) n₃).1) (Relation.combineBy (.emulated .rowNumber) op A B) where
  isOperand := rfl
  answers := by
    have hfresh : helperColumn reserved ∉ columns := fun h =>
      helperColumn_not_mem reserved (hsubset h)
    have hcount : ∀ name ∈ columns, (columns ++ [helperColumn reserved]).count name = 1 := by
      intro name hname
      rw [List.count_append, List.count_eq_one_of_mem hnodup hname, List.count_eq_zero.2]
      exact fun h => hfresh (List.mem_singleton.1 h ▸ hname)
    -- the column of the numbers is not read, whatever the operation has left of the rows
    have hread : ∀ {a b s out : Relation V}, a.columns = columns → b.columns = columns →
        s.columns = (a.numbered E (helperColumn reserved)).columns →
        s.rows = SetOp.combine ⟨op.kind, .distinct⟩ (a.numbered E (helperColumn reserved)).rows
          (b.numbered E (helperColumn reserved)).rows →
        (out ∈ (Head.columns columns).answers E s ↔ out.columns = columns ∧
          out.rows = Emulation.rowNumber.combine op.kind a.rows b.rows) := by
      intro a b s out ha hb hs hrows
      rw [Relation.columns_numbered, ha] at hs
      rw [← Relation.map_value_combine_numbered op.kind hnodup (helperColumn reserved) ha hb,
        ← hrows, ← hs]
      exact Head.mem_answers_columns_of_count hne (hs ▸ hcount)
    rw [Query.wrap, Query.answers, Query.answers, hl.answers_wrap_numberingHead hnodup,
      hr.answers_wrap_numberingHead hnodup]
    ext out
    constructor
    · rintro ⟨s, ⟨-, -, _, ⟨a, ha, rfl⟩, _, ⟨b, hb, rfl⟩, -, hs, hsrows⟩, hout⟩
      obtain ⟨hcolumns, hrows⟩ := (hread (hl.columns a ha) (hr.columns b hb) hs hsrows).1 hout
      refine ⟨a, ha, b, hb, ?_, hcolumns.trans (hl.columns a ha).symm, hrows⟩
      rw [hl.columns a ha, hr.columns b hb]
    · rintro ⟨a, ha, b, hb, hlength, hcolumns, hrows⟩
      have hlength : (a.numbered E (helperColumn reserved)).columns.length =
          (b.numbered E (helperColumn reserved)).columns.length := by
        rw [Relation.columns_numbered, Relation.columns_numbered, List.length_append,
          List.length_append, hlength]
      obtain ⟨s, hs⟩ := Relation.exists_mem_combine ⟨op.kind, .distinct⟩
        (Set.mem_image_of_mem _ ha) (Set.mem_image_of_mem _ hb) hlength
      refine ⟨s, ⟨rfl, rfl, hs.1⟩, ?_⟩
      exact (hread (hl.columns a ha) (hr.columns b hb) hs.2.1 hs.2.2).2
        ⟨hcolumns.trans (hl.columns a ha), hrows⟩
  columns := hl.columns_of_mem_combineBy

/-! ## Steps -/

/-- **A step combines the rows as its method does.** -/
theorem step {p : Progress} {s : QueryStep} (hp : Carries E db columns p.query A)
    (hs : Carries E db columns s.right B) (hne : columns ≠ []) (hnodup : columns.Nodup)
    (hsubset : columns ⊆ reserved) : Carries E db columns (p.step reserved columns s).query
      (Relation.combineBy s.method s.op A B) := by
  unfold Progress.step
  cases s.method with
  | native =>
    unfold Progress.native
    by_cases hwrap : s.op.kind = .intersect ∧ p.loose = true
    · rw [if_pos hwrap]
      exact (hp.wrap hne hnodup _).compound hs s.op
    · rw [if_neg hwrap]
      exact hp.compound hs s.op
  | emulated emulation =>
    cases emulation with
    | rowNumber => exact hp.numbered hs hne hnodup hsubset s.op ..
    | distinctOverUnionAll => exact hp.deduplicated hs hne hnodup s.op _

/-- A step whose emulation is made for its operation. -/
theorem step_of_made_for {p : Progress} {s : QueryStep} (hp : Carries E db columns p.query A)
    (hs : Carries E db columns s.right B) (hne : columns ≠ []) (hnodup : columns.Nodup)
    (hsubset : columns ⊆ reserved)
    (hmethod : ∀ emulation, s.method = .emulated emulation →
      Emulation.ofOp? s.op = some emulation) :
    Carries E db columns (p.step reserved columns s).query (Relation.combine s.op A B) := by
  rw [← Relation.combineBy_eq_combine hmethod]
  exact hp.step hs hne hnodup hsubset

/-- A step of any method, by numbers of copies. -/
theorem mem_answers_step_iff {p : Progress} {s : QueryStep} (hp : Carries E db columns p.query A)
    (hs : Carries E db columns s.right B) (hne : columns ≠ []) (hnodup : columns.Nodup)
    (hsubset : columns ⊆ reserved)
    (hmethod : ∀ emulation, s.method = .emulated emulation →
      Emulation.ofOp? s.op = some emulation) {out : Relation V} :
    out ∈ (p.step reserved columns s).query.answers E db ↔ out.columns = columns ∧
      ∃ a ∈ A, ∃ b ∈ B, ∀ row,
        out.rows.count row = s.op.copies (a.rows.count row) (b.rows.count row) := by
  have hstep := hp.step_of_made_for hs hne hnodup hsubset hmethod
  rw [hstep.answers]
  constructor
  · intro hout
    refine ⟨hstep.columns out hout, ?_⟩
    obtain ⟨a, ha, b, hb, -, -, hrows⟩ := hout
    refine ⟨a, ha, b, hb, fun row => ?_⟩
    rw [hrows, SetOp.count_combine]
  · rintro ⟨hcolumns, a, ha, b, hb, hcount⟩
    refine ⟨a, ha, b, hb, ?_, hcolumns.trans (hp.columns a ha).symm, ?_⟩
    · rw [hp.columns a ha, hs.columns b hb]
    · ext row
      rw [hcount, SetOp.count_combine]

end Carries

/-! ## Emitted queries -/

namespace Resolved

variable {E : Engine V} {db : Database V} {reserved : List String}

theorem columns_of_mem_readingHead {reads : List ColumnRead} {s out : Relation V}
    (h : out ∈ (readingHead reads).answers E s) : out.columns = reads.map (·.name) :=
  (Head.mem_answers_readingHead.1 h).2.1

theorem columns_of_mem_operandResults {columns : List String} {operand : Operand Resolved}
    (h : OperandWellFormed reserved columns operand) :
    ∀ a ∈ operandResults E db operand, a.columns = columns := by
  intro a ha
  cases operand with
  | table name reads =>
    rw [operandResults] at ha
    rw [OperandWellFormed] at h
    exact (columns_of_mem_readingHead ha).trans h
  | relation input dropped reads =>
    rw [operandResults] at ha
    rw [OperandWellFormed] at h
    obtain ⟨s, -, ha⟩ := ha
    exact (columns_of_mem_readingHead ha).trans h.2

/-- A step with its query, beside what it was resolved to. -/
structure Emits (E : Engine V) (db : Database V) (columns : List String)
    (s : ResolvedStep Resolved) (q : QueryStep) : Prop where
  op : q.op = s.op
  method : q.method = s.method
  right : Carries E db columns q.right (operandResults E db s.operand)
  emulation : ∀ emulation, s.method = .emulated emulation → Emulation.ofOp? s.op = some emulation

theorem carries_foldl {columns : List String} (hne : columns ≠ []) (hnodup : columns.Nodup)
    (hsubset : columns ⊆ reserved) {rest : List (ResolvedStep Resolved)} {steps : List QueryStep}
    (h : List.Forall₂ (Emits E db columns) rest steps) {p : Progress} {A : Set (Relation V)}
    (hp : Carries E db columns p.query A) :
    Carries E db columns (steps.foldl (Progress.step reserved columns) p).query
      (restResults E db rest A) := by
  induction h generalizing p A with
  | nil => rw [restResults]; exact hp
  | @cons s q rest steps hs _ ih =>
    obtain ⟨op, method, operand⟩ := s
    rw [List.foldl_cons, restResults]
    have hstep := hp.step_of_made_for hs.right hne hnodup hsubset (by
      rw [hs.method, hs.op]; exact hs.emulation)
    rw [hs.op] at hstep
    exact ih hstep

mutual

/-- **An emitted query answers what the resolved expression stands for.** -/
theorem answers_toQuery : ∀ (r : Resolved) (_ : r.WellFormed reserved) (next : Nat),
    (r.toQuery reserved next).1.answers E db = r.results E db
  | .table columns name, _, _ => by rw [toQuery, results, Query.answers]
  | .query sql, _, _ => by rw [toQuery, results, Query.answers]
  | .page input keys most skipped, h, next => by
    rw [WellFormed] at h
    simp only [toQuery, results, Query.wrap, Query.answers, answers_toQuery input h next]
    rfl
  | .chain columns first rest, h, next => by
    rw [WellFormed] at h
    obtain ⟨hne, hnodup, hsubset, hfirst, hrest⟩ := h
    have hcarries := carries_operandQuery first hfirst next
    have hemits := emits_restQueries rest hrest (operandQuery reserved first next).2
    simp only [toQuery, results]
    exact (carries_foldl hne hnodup hsubset hemits hcarries).answers

theorem carries_operandQuery : ∀ (operand : Operand Resolved) {columns : List String}
    (_ : OperandWellFormed reserved columns operand) (next : Nat),
    Carries E db columns (operandQuery reserved operand next).1 (operandResults E db operand)
  | .table name reads, _, h, next =>
    ⟨rfl, by simp only [operandQuery, operandResults, Query.answers],
      columns_of_mem_operandResults h⟩
  | .relation input dropped reads, _, h, next => by
    have hinput : input.WellFormed reserved := by
      rw [OperandWellFormed] at h
      exact h.1
    refine ⟨rfl, ?_, columns_of_mem_operandResults h⟩
    simp only [operandQuery, operandResults, Query.wrap, Query.answers,
      answers_toQuery input hinput next]

theorem emits_restQueries : ∀ (rest : List (ResolvedStep Resolved)) {columns : List String}
    (_ : RestWellFormed reserved columns rest) (next : Nat),
    List.Forall₂ (Emits E db columns) rest (restQueries reserved rest next).1
  | [], _, _, _ => .nil
  | ⟨op, method, operand⟩ :: rest, _, h, next => by
    rw [RestWellFormed] at h
    obtain ⟨hmethod, hoperand, hrest⟩ := h
    exact .cons ⟨rfl, rfl, carries_operandQuery operand hoperand next, hmethod⟩
      (emits_restQueries rest hrest _)

end

end Resolved

/-- The relations that the query may answer with as a backend reads it. -/
def Sql.Query.results (E : Engine V) (db : Database V) (q : Query) : Set (Relation V) :=
  q.asRead.answers E db

theorem Resolved.results_toQuery {E : Engine V} {db : Database V} {reserved : List String}
    {r : Resolved} (h : r.WellFormed reserved) (next : Nat) :
    (r.toQuery reserved next).1.results E db = r.results E db := by
  rw [Query.results, asRead_toQuery, answers_toQuery r h next]

end SetQuery
