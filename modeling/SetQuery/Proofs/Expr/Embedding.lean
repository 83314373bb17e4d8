import SetQuery.Proofs.Expr.Resolution
import SetQuery.Proofs.Sql.Embedding
import SetQuery.Proofs.Sql.Enclosed
import SetQuery.Proofs.Sql.QueryText

/-!
# Queries of users in a statement

**Theorem (`compileFor_texts`).** The texts in a statement are those of the queries in the
expression, in the same order, as they are kept. Each is the whole statement or stands alone in
parentheses, and ends every comment that it opens, so that no part of the statement behind it stands
in a comment of it.
-/

namespace SetQuery

open Sql Text

namespace Expr

/-! ## The queries in an expression -/

/-- What is kept of the text of a query. -/
def queryText? : Expr → Option String
  | .source (.query sql) _ => some (queryText sql)
  | _ => none

theorem exists_of_queryText? {e : Expr} {t : String} (h : e.queryText? = some t) :
    ∃ sql, queryText sql = t := by
  unfold queryText? at h
  split at h
  · exact ⟨_, Option.some.inj h⟩
  · cases h

/-- What is kept of the texts of all queries in an expression, from left to right. -/
def queryTexts (e : Expr) : List String := e.nodes.filterMap queryText?

theorem queryTexts_sort (input : Expr) (keys : List SortKey) :
    (sort input keys).queryTexts = input.queryTexts := List.filterMap_cons_none rfl

theorem queryTexts_limit (input : Expr) (most skipped : Option Nat) :
    (limit input most skipped).queryTexts = input.queryTexts := List.filterMap_cons_none rfl

theorem queryTexts_withoutSort (e : Expr) : e.withoutSort.queryTexts = e.queryTexts := by
  cases e with
  | sort input keys => rw [withoutSort, queryTexts_sort]
  | _ => rfl

theorem queryTexts_withoutSorts : ∀ e : Expr, e.withoutSorts.queryTexts = e.queryTexts
  | .sort input _ => by rw [withoutSorts, queryTexts_withoutSorts input, queryTexts_sort]
  | .source _ _ => rfl
  | .chain _ _ _ => rfl
  | .limit _ _ _ => rfl

theorem PageOf.queryTexts_eq {e input : Expr} {keys : List SortKey} {most skipped : Option Nat}
    (h : PageOf e input keys most skipped) : input.queryTexts = e.queryTexts := by
  cases h with
  | sort input keys => rw [queryTexts_withoutSort, queryTexts_sort]
  | limitSort input keys most skipped =>
    rw [queryTexts_withoutSort, queryTexts_limit, queryTexts_sort]
  | limit => rw [queryTexts_limit]

theorem filterMap_stepNodes (steps : List (Step Expr)) :
    (stepNodes steps).filterMap queryText? = steps.flatMap (·.operand.queryTexts) := by
  induction steps with
  | nil => rfl
  | cons step steps ih => rw [stepNodes, List.filterMap_append, ih, List.flatMap_cons, queryTexts]

/-- The queries in a chain are those in its operands. -/
theorem queryTexts_eq_operands : ∀ e : Expr,
    e.leftmost.queryTexts ++ e.flatSteps.flatMap (·.operand.queryTexts) = e.queryTexts
  | .chain base steps schema => by
    have hnodes : (chain base steps schema).queryTexts =
        base.queryTexts ++ (stepNodes steps).filterMap queryText? := by
      rw [queryTexts, nodes, List.filterMap_cons_none rfl, List.filterMap_append, queryTexts]
    rw [hnodes, filterMap_stepNodes, leftmost, flatSteps, List.flatMap_append, ← List.append_assoc,
      queryTexts_eq_operands base]
  | .source _ _ => List.append_nil _
  | .sort _ _ => List.append_nil _
  | .limit _ _ _ => List.append_nil _

/-! ## Their texts in a statement -/

variable {c : Capabilities} {policy : OrderPolicy} {canonical : Schema} {reserved : List String}

/-- The query has the texts, each of them in parentheses unless it is a text itself. -/
structure Embeds (q : Query) (texts : List String) : Prop where
  texts_eq : q.texts = texts
  encloses : q.IsText ∨ q.EnclosesTexts

theorem ResolvesOperand.embeds {e : Expr} {operand : Operand Resolved}
    (h : ResolvesOperand c policy canonical e operand)
    (he : ∀ r, e.resolve c policy = .ok r ∨ e.withoutSorts.resolve c policy = .ok r →
      ∀ next, Embeds (r.toQuery reserved next).1 e.queryTexts) (next : Nat) :
    (Resolved.operandQuery reserved operand next).1.texts = e.queryTexts ∧
      (Resolved.operandQuery reserved operand next).1.EnclosesTexts := by
  cases h with
  | table name schema => exact ⟨rfl, trivial⟩
  | dropped _ _ _ hr => exact ⟨(he _ (.inr hr) next).texts_eq, (he _ (.inr hr) next).encloses⟩
  | kept _ _ hr => exact ⟨(he _ (.inl hr) next).texts_eq, (he _ (.inl hr) next).encloses⟩

theorem ResolvesStep.texts_eq {steps : List (Step Expr)} {rest : List (ResolvedStep Resolved)}
    (h : List.Forall₂ (ResolvesStep c policy canonical) steps rest)
    (hoperand : ∀ step ∈ steps, ∀ out, ResolvesOperand c policy canonical step.operand out →
      ∀ next, (Resolved.operandQuery reserved out next).1.texts = step.operand.queryTexts)
    (next : Nat) : (Resolved.restQueries reserved rest next).1.flatMap (·.right.texts) =
      steps.flatMap (·.operand.queryTexts) := by
  induction h generalizing next with
  | nil => rfl
  | cons hstep _ ih =>
    obtain ⟨hfirst, hrest⟩ := List.forall_mem_cons.1 hoperand
    simp only [Resolved.restQueries, List.flatMap_cons]
    rw [hfirst _ hstep.operand, ih hrest]

/-- **What is resolved has the texts of the queries in the expression.** -/
theorem embeds_toQuery {e : Expr} {r : Resolved} (h : e.resolve c policy = .ok r) (next : Nat) :
    Embeds (r.toQuery reserved next).1 e.queryTexts := by
  induction e using operand_induction generalizing r next with
  | source origin schema =>
    cases origin with
    | table name =>
      rw [resolve] at h
      cases h
      exact ⟨rfl, .inr trivial⟩
    | query sql =>
      rw [resolve] at h
      cases h
      exact ⟨rfl, .inl ⟨_, rfl⟩⟩
  | page e input keys most skipped hp ih =>
    obtain ⟨page, hpage, rfl⟩ := hp.resolve_eq_ok_iff.1 h
    obtain ⟨htexts, hencloses⟩ := ih hpage next
    exact ⟨htexts.trans hp.queryTexts_eq, .inr hencloses⟩
  | chain base steps schema ih =>
    obtain ⟨canonical, first, rest, ha, hfirst, hrest, rfl⟩ := (resolve_chain_eq_ok_iff rfl).1 h
    have hoperand : ∀ operand ∈ (Expr.chain base steps schema).operands, ∀ out,
        ResolvesOperand c policy canonical operand out → ∀ next,
          (Resolved.operandQuery reserved out next).1.texts = operand.queryTexts ∧
            (Resolved.operandQuery reserved out next).1.EnclosesTexts := by
      intro operand hmem out hout
      refine hout.embeds fun r hr next => ?_
      rcases hr with hr | hr
      · exact (ih operand hmem).1 hr next
      · exact queryTexts_withoutSorts operand ▸ (ih operand hmem).2 hr next
    have hsteps : ∀ step ∈ (Expr.chain base steps schema).flatSteps, ∀ out,
        ResolvesOperand c policy canonical step.operand out → ∀ next,
          (Resolved.operandQuery reserved out next).1.texts = step.operand.queryTexts ∧
            (Resolved.operandQuery reserved out next).1.EnclosesTexts :=
      fun step hstep => hoperand _ (operand_mem_operands hstep)
    obtain ⟨hfirsttexts, hfirstencloses⟩ := hoperand _ List.mem_cons_self _ hfirst next
    constructor
    · rw [← queryTexts_eq_operands, ← hfirsttexts, ← ResolvesStep.texts_eq hrest
        (fun step hstep out hout next => (hsteps step hstep out hout next).1) _]
      exact Progress.texts_foldl _ _
    · refine .inr (Progress.enclosesTexts_foldl hfirstencloses ?_)
      refine Resolved.forall_right_restQueries reserved (fun out hout next => ?_) _
      obtain ⟨step, hstep, hresolves⟩ := exists_of_mem_forall₂ hrest hout
      exact (hsteps step hstep _ hresolves.operand next).2

/-- **A text does not comment out what follows it.** What is kept of any text opens no comment on
its last line, also not with a parenthesis on each side, and is the text without blanks and
semicolons at its ends, with at most a newline more. The texts in a statement are what is kept of
the queries in the expression, in their order; the statement has each of them as it is, and no
comment of it reaches what stands behind it. -/
theorem compileFor_texts :
    (∀ sql, ¬ ['-', '-'] <:+: lastLine (queryText sql).toList ∧
      ClosesComments ("(" ++ queryText sql ++ ")").toList ∧
      IsMiddleOf (queryText sql).toList sql.toList) ∧
    ∀ (e : Expr) (c : Capabilities) (policy : OrderPolicy) (compiled : Compiled),
      e.compileFor c policy = .ok compiled →
      (compiled.query.parts compiled.dialect).filterMap Part.userText? = e.queryTexts ∧
      ∀ before t after, compiled.query.parts compiled.dialect = before ++ .verbatim t :: after →
        compiled.sql = spell compiled.dialect before ++ (t ++ spell compiled.dialect after) ∧
        ClosesComments t.toList ∧
        ((before = [] ∧ after = []) ∨
          ∃ front back, before = front ++ [.opening] ∧ after = .closing :: back) := by
  refine ⟨fun sql => ⟨?_, ?_, isMiddleOf_queryText sql⟩, fun e c policy compiled hok => ?_⟩
  · rw [← hasDoubleDash_iff, Bool.not_eq_true]
    exact closesComments_iff.1 (closesComments_queryText sql)
  · have hparens : ("(" ++ queryText sql ++ ")").toList =
        '(' :: ((queryText sql).toList ++ [')']) := by simp
    rw [hparens]
    exact ((closesComments_queryText sql).concat (by decide)).cons (by decide)
  · obtain ⟨r, hr, rfl⟩ := Except.map_eq_ok_iff.1 hok
    have hembeds : Embeds (r.toQuery e.columnNames 0).1 e.queryTexts := embeds_toQuery hr 0
    obtain ⟨htexts, hencloses⟩ := hembeds
    have hparts := (Query.filterMap_userText_parts c.dialect _).trans htexts
    refine ⟨hparts, fun before t after heq => ⟨?_, ?_, ?_⟩⟩
    · rw [Compiled.sql, Query.text, heq, spell_append, spell_cons]
      rfl
    · have hmem : t ∈ e.queryTexts := by
        rw [← hparts]
        refine List.mem_filterMap.2 ⟨.verbatim t, ?_, rfl⟩
        exact heq ▸ List.mem_append_right _ List.mem_cons_self
      obtain ⟨node, -, hnode⟩ := List.mem_filterMap.1 hmem
      obtain ⟨sql, rfl⟩ := exists_of_queryText? hnode
      exact closesComments_queryText sql
    · exact Query.parts_of_isText_or_enclosesTexts hencloses heq

/-! ## A query with a comment -/

/-- A table with a query behind it, whose text ends in a comment. -/
def commentedUnion : Expr :=
  .chain (counter "a" .i32)
    [⟨⟨.union, .all⟩, .query "SELECT _sw_rn FROM b -- the rest" (counterSchema .i32)⟩]
    (counterSchema .i32)

/-- What stands behind the text is on a line of its own. -/
theorem commentedUnion_closes : ∃ compiled before after,
    commentedUnion.compileFor (.native ⟨"duckdb"⟩ .duckDb) .drop = .ok compiled ∧
      compiled.query.parts compiled.dialect =
        before ++ .verbatim "SELECT _sw_rn FROM b -- the rest\n" :: after ∧
      ClosesComments "SELECT _sw_rn FROM b -- the rest\n".toList ∧
      ∃ front back, before = front ++ [.opening] ∧ after = .closing :: back := by
  have hparts : (commentedUnion.compileFor (.native ⟨"duckdb"⟩ .duckDb) .drop).map
      (fun compiled => compiled.query.parts compiled.dialect) =
        .ok ([.word "SELECT ", .column "_sw_rn", .word " FROM ", .table "a", .word " AS ",
          .generated "_sw_0", .operator ⟨.union, .all⟩, .word "SELECT ", .column "_sw_rn",
          .word " FROM ", .opening] ++ .verbatim "SELECT _sw_rn FROM b -- the rest\n" ::
            [.closing, .word " AS ", .generated "_sw_1"]) := by
    decide +kernel
  obtain ⟨compiled, hok, hcompiled⟩ := Except.map_eq_ok_iff.1 hparts
  obtain ⟨-, hcloses, hguards⟩ := (compileFor_texts.2 _ _ _ compiled hok).2 _ _ _ hcompiled
  exact ⟨compiled, _, _, hok, hcompiled, hcloses, hguards.resolve_left fun h => by cases h.1⟩

end Expr

end SetQuery
