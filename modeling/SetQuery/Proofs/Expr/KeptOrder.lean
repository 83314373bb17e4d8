import Mathlib.Data.List.Forall2
import SetQuery.Proofs.Expr.Resolution
import SetQuery.Proofs.Sql.Enclosed
import SetQuery.Proofs.Sql.Outermost

/-!
# Orderings that have to be kept

An ordering is part of what an expression asks for: that of a statement orders its result, and that
of an operand decides which rows a limit keeps. `Expr.OrderedBy` names the keys of the outermost
ordering of an expression, and `Expr.enclosed` lists the expressions whose queries stand in
parentheses, each in the form in which the backend accepts it.

**Theorem (`Built.orderings_kept`).** In the text for an expression, and in the queries in its
parentheses that are written for these expressions, the outermost SELECT has the ordering of the
expression together with the limit and the offset on it; that of a chain has none. An operand keeps
its ordering where a limit depends on it, and where the backend accepts it.
-/

namespace List.SublistForall₂

variable {α β : Type} {R : α → β → Prop}

theorem append {l₁ l₂ : List α} {r₁ r₂ : List β} (h₁ : SublistForall₂ R l₁ r₁)
    (h₂ : SublistForall₂ R l₂ r₂) : SublistForall₂ R (l₁ ++ l₂) (r₁ ++ r₂) := by
  obtain ⟨r₁', hall₁, hsub₁⟩ := sublistForall₂_iff.1 h₁
  obtain ⟨r₂', hall₂, hsub₂⟩ := sublistForall₂_iff.1 h₂
  exact sublistForall₂_iff.2 ⟨r₁' ++ r₂', rel_append hall₁ hall₂, hsub₁.append hsub₂⟩

theorem trans_sublist {l : List α} {r r' : List β} (h : SublistForall₂ R l r) (hr : r.Sublist r') :
    SublistForall₂ R l r' := by
  obtain ⟨r'', hall, hsub⟩ := sublistForall₂_iff.1 h
  exact sublistForall₂_iff.2 ⟨r'', hall, hsub.trans hr⟩

theorem exists_mem {l : List α} {r : List β} (h : SublistForall₂ R l r) {a : α} (ha : a ∈ l) :
    ∃ b ∈ r, R a b := by
  obtain ⟨r', hall, hsub⟩ := sublistForall₂_iff.1 h
  obtain ⟨b, hb, hab⟩ := SetQuery.exists_of_mem_forall₂ hall.flip ha
  exact ⟨b, hsub.subset hb, hab⟩

end List.SublistForall₂

namespace SetQuery

open Sql

/-! ## Chains keep their rows as they are -/

theorem Sql.Head.keepsRows_columns (names : List String) : (Head.columns names).KeepsRows :=
  ⟨rfl, rfl, rfl⟩

namespace Progress

variable {reserved columns : List String}

theorem keepsRows_step {p : Progress} {s : QueryStep} (hp : p.query.KeepsRows)
    (hs : s.right.KeepsRows) : (p.step reserved columns s).query.KeepsRows := by
  have hcolumns : (Head.columns columns).KeepsRows := Head.keepsRows_columns columns
  unfold step
  cases s.method with
  | native =>
    simp only [native]
    split
    · exact ⟨hcolumns, hs⟩
    · exact ⟨hp, hs⟩
  | emulated emulation =>
    cases emulation with
    | rowNumber => exact hcolumns
    | distinctOverUnionAll => exact ⟨rfl, rfl, rfl⟩

theorem keepsRows_foldl {p : Progress} {steps : List QueryStep} (hp : p.query.KeepsRows)
    (hs : ∀ s ∈ steps, s.right.KeepsRows) :
    (steps.foldl (step reserved columns) p).query.KeepsRows := by
  induction steps generalizing p with
  | nil => exact hp
  | cons s steps ih =>
    obtain ⟨hfirst, hrest⟩ := List.forall_mem_cons.1 hs
    exact ih (keepsRows_step hp hfirst) hrest

/-- A step leaves the queries in parentheses as they are, and may add some. -/
theorem enclosed_sublist_step (p : Progress) (s : QueryStep) :
    (p.query.enclosed ++ s.right.enclosed).Sublist
      (p.step reserved columns s).query.enclosed := by
  unfold step
  cases s.method with
  | native =>
    simp only [native]
    split
    · exact (List.sublist_cons_self _ _).append_right _
    · exact List.Sublist.refl _
  | emulated emulation =>
    cases emulation with
    | rowNumber =>
      exact ((List.sublist_cons_self _ _).append (List.sublist_cons_self _ _)).trans
        (List.sublist_cons_self _ _)
    | distinctOverUnionAll => exact List.sublist_cons_self _ _

theorem enclosed_sublist_foldl (p : Progress) (steps : List QueryStep) :
    (p.query.enclosed ++ steps.flatMap (·.right.enclosed)).Sublist
      (steps.foldl (step reserved columns) p).query.enclosed := by
  induction steps generalizing p with
  | nil =>
    rw [List.flatMap_nil, List.append_nil]
    exact List.Sublist.refl _
  | cons s steps ih =>
    rw [List.flatMap_cons, ← List.append_assoc]
    exact ((enclosed_sublist_step p s).append_right _).trans (ih _)

end Progress

namespace Resolved

variable (reserved : List String)

theorem keepsRows_operandQuery (operand : Operand Resolved) (next : Nat) :
    (operandQuery reserved operand next).1.KeepsRows := by
  cases operand with
  | table name columns => exact ⟨rfl, rfl, rfl⟩
  | relation input dropped columns => exact ⟨rfl, rfl, rfl⟩

theorem keepsRows_chain (columns : List String) (first : Operand Resolved)
    (rest : List (ResolvedStep Resolved)) (next : Nat) :
    ((chain columns first rest).toQuery reserved next).1.KeepsRows :=
  Progress.keepsRows_foldl (keepsRows_operandQuery reserved first next)
    (forall_right_restQueries reserved
      (fun step _ => keepsRows_operandQuery reserved step.operand) _)

end Resolved

namespace Expr

/-! ## Orderings of expressions -/

/-- The outermost ordering of an expression has these keys; a limit on it keeps so many rows behind
those that it skips. -/
inductive OrderedBy : Expr → List SortKey → Option Nat → Option Nat → Prop
  | sort (input : Expr) (keys : List SortKey) : OrderedBy (.sort input keys) keys none none
  | limit (input : Expr) (keys : List SortKey) (most skipped : Option Nat) :
      OrderedBy (.limit (.sort input keys) most skipped) keys most skipped

variable {e : Expr} {keys : List SortKey} {most skipped : Option Nat}

theorem OrderedBy.exists_pageOf (h : e.OrderedBy keys most skipped) :
    ∃ input, PageOf e input keys most skipped := by
  cases h with
  | sort input keys => exact ⟨_, .sort input keys⟩
  | limit input keys most skipped => exact ⟨_, .limitSort input keys most skipped⟩

theorem OrderedBy.keys_ne_nil (h : e.OrderedBy keys most skipped) (hv : e.Valid) : keys ≠ [] := by
  cases h with
  | sort =>
    cases hv with
    | sort _ hkeys _ => exact hkeys
  | limit =>
    cases hv with
    | limit hv _ =>
      cases hv with
      | sort _ hkeys _ => exact hkeys

/-! ## Queries in parentheses -/

/-- Whether the expression is a table. -/
def isTable : Expr → Bool
  | .source (.table _) _ => true
  | _ => false

/-- An operand without the orderings that the backend rejects. -/
def accepted (c : Capabilities) (operand : Expr) : Expr :=
  if operand.isOrdered && !c.subqueryOrder then operand.withoutSorts else operand

theorem accepted_cases (c : Capabilities) (operand : Expr) :
    operand.accepted c = operand ∨ operand.accepted c = operand.withoutSorts := by
  unfold accepted
  split
  · exact .inr rfl
  · exact .inl rfl

theorem accepted_size_le (c : Capabilities) (operand : Expr) :
    (operand.accepted c).size ≤ operand.size := by
  rcases accepted_cases c operand with h | h <;> rw [h]
  exact withoutSorts_size_le operand

/-- The expressions whose queries stand in parentheses, in the order in which these are opened: what
is ordered or limited, and the operands of chains except tables. -/
def enclosed (c : Capabilities) : Expr → List Expr
  | .source _ _ => []
  | .sort input _ => input.withoutSort :: input.withoutSort.enclosed c
  | .limit (.sort input _) _ _ => input.withoutSort :: input.withoutSort.enclosed c
  | .limit input _ _ => input :: input.enclosed c
  | .chain base steps schema =>
    (chain base steps schema).operands.attach.flatMap fun ⟨operand, _⟩ =>
      if operand.isTable then [] else operand.accepted c :: (operand.accepted c).enclosed c
termination_by e => e.size
decreasing_by
  · have := withoutSort_size_le input
    simp only [size]; omega
  · have := withoutSort_size_le input
    simp only [size]; omega
  · simp only [size]; omega
  · have := accepted_size_le c operand
    have := size_lt_of_mem_operands ‹_›
    omega

/-- The expressions whose queries stand in parentheses for an operand. -/
def operandEnclosed (c : Capabilities) (operand : Expr) : List Expr :=
  if operand.isTable then [] else operand.accepted c :: (operand.accepted c).enclosed c

theorem enclosed_chain (c : Capabilities) (base : Expr) (steps : List (Step Expr))
    (schema : Schema) : (chain base steps schema).enclosed c =
      (chain base steps schema).operands.flatMap (operandEnclosed c) := by
  rw [enclosed]
  conv_rhs => rw [← List.attach_map_subtype_val (chain base steps schema).operands]
  rw [List.flatMap_map]
  rfl

theorem PageOf.enclosed_eq {input : Expr} (h : PageOf e input keys most skipped)
    (c : Capabilities) : e.enclosed c = input :: input.enclosed c := by
  cases h with
  | sort input keys => rw [enclosed]
  | limitSort input keys most skipped => rw [enclosed]
  | limit most skipped hinput =>
    rw [enclosed.eq_4 _ _ _ _ (by rintro _ _ rfl; cases hinput)]

variable {c : Capabilities} {policy : OrderPolicy} {canonical : Schema}

/-- The query is written for the expression, and its outermost SELECT has the ordering of the
expression with the limit on it. -/
structure Keeps (c : Capabilities) (policy : OrderPolicy) (reserved : List String) (e : Expr)
    (q : Query) : Prop where
  written : ∃ r next, e.resolve c policy = .ok r ∧ q = (r.toQuery reserved next).1
  ordered : ∀ keys most skipped, e.OrderedBy keys most skipped →
    SelectsOrdered c.dialect keys most skipped (q.parts c.dialect)
  unordered : e.isChain = true → Unordered (q.parts c.dialect)

/-- **The query for an expression keeps its ordering.** -/
theorem Valid.keeps {r : Resolved} (hv : e.Valid) (h : e.resolve c policy = .ok r)
    (reserved : List String) (next : Nat) :
    Keeps c policy reserved e (r.toQuery reserved next).1 where
  written := ⟨r, next, h, rfl⟩
  ordered keys most skipped ho := by
    obtain ⟨input, hp⟩ := ho.exists_pageOf
    obtain ⟨page, -, rfl⟩ := hp.resolve_eq_ok_iff.1 h
    exact @selectsOrdered_ofQuery c.dialect
      { Head.every with orderBy := keys, limit := most, offset := skipped } rfl rfl
      (ho.keys_ne_nil hv) _ _
  unordered hchain := by
    obtain ⟨canonical, first, rest, -, -, -, rfl⟩ := (resolve_chain_eq_ok_iff hchain).1 h
    exact Query.unordered_parts c.dialect (Resolved.keepsRows_chain reserved _ first rest next)

/-- The queries in the parentheses of a query keep the orderings of some expressions, each of which
has a query of its own, in the order of the text. -/
def EnclosedKeep (c : Capabilities) (policy : OrderPolicy) (reserved : List String)
    (es : List Expr) (q : Query) : Prop :=
  List.SublistForall₂ (Keeps c policy reserved) es q.enclosed

theorem Valid.accepted {operand : Expr} (hv : operand.Valid) (c : Capabilities) :
    (operand.accepted c).Valid := by
  rcases accepted_cases c operand with h | h <;> rw [h]
  · exact hv
  · exact hv.withoutSorts

theorem ResolvesOperand.enclosedKeep {operand : Expr} {out : Operand Resolved}
    (h : ResolvesOperand c policy canonical operand out) (hv : operand.Valid)
    (reserved : List String)
    (ih : ∀ r, (operand.accepted c).resolve c policy = .ok r → ∀ next,
      EnclosedKeep c policy reserved ((operand.accepted c).enclosed c)
        (r.toQuery reserved next).1) (next : Nat) :
    EnclosedKeep c policy reserved (operandEnclosed c operand)
      (Resolved.operandQuery reserved out next).1 := by
  have hrelation : operand.isTable = false → ∀ r dropped columns,
      (operand.accepted c).resolve c policy = .ok r →
        EnclosedKeep c policy reserved (operandEnclosed c operand)
          (Resolved.operandQuery reserved (.relation r dropped columns) next).1 := by
    intro htable r dropped columns hr
    rw [operandEnclosed, htable]
    exact .cons ((hv.accepted c).keeps hr reserved next) (ih r hr next)
  cases h with
  | table name schema => exact .nil
  | dropped hordered hsub _ hr =>
    have htable : operand.isTable = false := by
      cases operand with
      | sort => rfl
      | _ => cases hordered
    refine hrelation htable _ _ _ ?_
    rwa [Expr.accepted, hordered, hsub]
  | kept hne hkept hr =>
    have htable : operand.isTable = false := by
      rw [Bool.eq_false_iff]
      intro htable
      cases operand with
      | source origin schema =>
        cases origin with
        | table name => exact hne name schema rfl
        | query sql => cases htable
      | _ => cases htable
    refine hrelation htable _ _ _ ?_
    rwa [Expr.accepted, hkept]

theorem ResolvesStep.enclosedKeep {steps : List (Step Expr)} {rest : List (ResolvedStep Resolved)}
    (h : List.Forall₂ (ResolvesStep c policy canonical) steps rest) (reserved : List String)
    (hoperand : ∀ step ∈ steps, ∀ out, ResolvesOperand c policy canonical step.operand out →
      ∀ next, EnclosedKeep c policy reserved (operandEnclosed c step.operand)
        (Resolved.operandQuery reserved out next).1) (next : Nat) :
    List.SublistForall₂ (Keeps c policy reserved)
      ((steps.map (·.operand)).flatMap (operandEnclosed c))
      ((Resolved.restQueries reserved rest next).1.flatMap (·.right.enclosed)) := by
  induction h generalizing next with
  | nil => exact .nil
  | cons hstep _ ih =>
    obtain ⟨hfirst, hrest⟩ := List.forall_mem_cons.1 hoperand
    exact (hfirst _ hstep.operand next).append (ih hrest _)

/-- **The queries in parentheses keep the orderings of what they are written for.** -/
theorem Valid.enclosedKeep {r : Resolved} (hv : e.Valid) (h : e.resolve c policy = .ok r)
    (reserved : List String) (next : Nat) :
    EnclosedKeep c policy reserved (e.enclosed c) (r.toQuery reserved next).1 := by
  induction e using operand_induction generalizing r next with
  | source origin schema =>
    rw [enclosed]
    exact .nil
  | page e input keys most skipped hp ih =>
    obtain ⟨page, hpage, rfl⟩ := hp.resolve_eq_ok_iff.1 h
    rw [hp.enclosed_eq]
    exact .cons ((hp.valid hv).keeps hpage reserved next) (ih (hp.valid hv) hpage next)
  | chain base steps schema ih =>
    obtain ⟨canonical, first, rest, -, hfirst, hrest, rfl⟩ := (resolve_chain_eq_ok_iff rfl).1 h
    have hoperand : ∀ operand ∈ (Expr.chain base steps schema).operands, ∀ out,
        ResolvesOperand c policy canonical operand out → ∀ next,
          EnclosedKeep c policy reserved (operandEnclosed c operand)
            (Resolved.operandQuery reserved out next).1 := by
      intro operand hmem out hout
      have hov := hv.operand operand hmem
      refine hout.enclosedKeep hov reserved fun r hr next => ?_
      rcases accepted_cases c operand with h | h <;> rw [h] at hr ⊢
      · exact (ih operand hmem).1 hov hr next
      · exact (ih operand hmem).2 hov.withoutSorts hr next
    have hsteps := ResolvesStep.enclosedKeep hrest reserved
      (fun step hstep => hoperand _ (operand_mem_operands hstep))
    rw [enclosed_chain, operands, List.flatMap_cons]
    exact ((hoperand _ List.mem_cons_self _ hfirst next).append (hsteps _)).trans_sublist
      (Progress.enclosed_sublist_foldl ⟨_, false, _⟩ _)

/-! ## Operands -/

theorem accepted_of_kept {operand : Expr}
    (h : operand.isOrdered = false ∨ c.subqueryOrder = true) : operand.accepted c = operand := by
  rcases h with h | h <;> rw [accepted, h] <;> simp

theorem OrderedBy.isTable_eq (h : e.OrderedBy keys most skipped) : e.isTable = false := by
  cases h <;> rfl

/-- Every operand whose ordering is kept has a query in parentheses, at whatever depth it stands. -/
theorem mem_enclosed_of_operand {node operand : Expr} (hnode : node ∈ e.nodes)
    (hchain : node.isChain = true) (hmem : operand ∈ node.operands)
    (htable : operand.isTable = false)
    (hkept : operand.isOrdered = false ∨ c.subqueryOrder = true) : operand ∈ e.enclosed c := by
  induction e using operand_induction with
  | source origin schema =>
    obtain rfl := List.mem_singleton.1 hnode
    cases hchain
  | page e input keys most skipped hp ih =>
    rw [hp.enclosed_eq]
    exact List.mem_cons_of_mem _ (ih ((hp.mem_nodes_iff hchain).2 hnode))
  | chain base steps schema ih =>
    rw [enclosed_chain, List.mem_flatMap]
    rcases operands_subset_or_mem_operand hchain rfl hnode with hsub | ⟨outer, houter, hin⟩
    · refine ⟨operand, hsub hmem, ?_⟩
      rw [operandEnclosed, htable, accepted_of_kept hkept]
      exact List.mem_cons_self
    · refine ⟨outer, houter, ?_⟩
      have hnotTable : outer.isTable = false := by
        rw [Bool.eq_false_iff]
        intro htable
        cases outer with
        | source origin schema =>
          obtain rfl := List.mem_singleton.1 hin
          cases hchain
        | _ => cases htable
      rw [operandEnclosed, hnotTable]
      refine List.mem_cons_of_mem _ ?_
      rcases accepted_cases c outer with h | h <;> rw [h]
      · exact (ih outer houter).1 hin
      · exact (ih outer houter).2 ((mem_nodes_withoutSorts_iff hchain outer).2 hin)

/-! ## Statements -/

/-- **Orderings that have to be kept are kept.** The text selects in the order of the expression, and
each expression of `enclosed` has a query of its own in parentheses that does; among these are the
operands, at whatever depth, whose orderings the backend gets. -/
theorem Built.orderings_kept (h : Built e) {compiled : Compiled}
    (hok : e.compileFor c policy = .ok compiled) :
    compiled.sql = spell c.dialect (compiled.query.parts c.dialect) ∧
    Keeps c policy e.columnNames e compiled.query ∧
    List.SublistForall₂ (Keeps c policy e.columnNames) (e.enclosed c) compiled.query.enclosed ∧
    (∀ inner ∈ compiled.query.enclosed, .opening :: inner.parts c.dialect ++ [.closing] <:+:
      compiled.query.parts c.dialect) ∧
    ∀ node ∈ e.nodes, node.isChain = true → ∀ operand ∈ node.operands,
      ∀ keys most skipped, operand.OrderedBy keys most skipped →
        operand.isOrdered = false ∨ c.subqueryOrder = true → operand ∈ e.enclosed c := by
  obtain ⟨r, hr, rfl⟩ := Except.map_eq_ok_iff.1 hok
  refine ⟨rfl, h.valid.keeps hr _ 0, h.valid.enclosedKeep hr _ 0,
    fun inner => Query.enclosed_infix c.dialect, ?_⟩
  intro node hnode hchain operand hmem keys most skipped ho hkept
  exact mem_enclosed_of_operand hnode hchain hmem ho.isTable_eq hkept

/-! ## An example -/

/-- The first rows of one table beside those of another, ordered once more. -/
def firstRows : Expr :=
  .sort (.chain (counter "a" .i16) [⟨⟨.union, .all⟩,
    .limit (.sort (counter "b" .i32) [⟨"_sw_rn", true⟩]) (some 3) none⟩] (counterSchema .i32))
    [⟨"_sw_rn", false⟩]

theorem built_firstRows : Built firstRows := by
  have hsort : orderBy (counter "b" .i32) [⟨"_sw_rn", true⟩] =
      .ok (.sort (counter "b" .i32) [⟨"_sw_rn", true⟩]) := rfl
  have hunion : combineTwo ⟨.union, .all⟩ (counter "a" .i16)
      (limitOffset (.sort (counter "b" .i32) [⟨"_sw_rn", true⟩]) (some 3) 0) = .ok _ := rfl
  have houter : orderBy (.chain (counter "a" .i16) [⟨⟨.union, .all⟩,
      .limit (.sort (counter "b" .i32) [⟨"_sw_rn", true⟩]) (some 3) none⟩] (counterSchema .i32))
      [⟨"_sw_rn", false⟩] = .ok firstRows := rfl
  exact .orderBy _ (.combineTwo (.table ..) (.limitOffset _ _ (.orderBy _ (.table ..) hsort))
    hunion) houter

/-- Both orderings are in the text, although the backend rejects them in operands. -/
theorem firstRows_ordered :
    let c := { Capabilities.native ⟨"mssql"⟩ .msSql with subqueryOrder := false }
    ∃ compiled, firstRows.compileFor c .drop = .ok compiled ∧
      SelectsOrdered .msSql [⟨"_sw_rn", false⟩] none none (compiled.query.parts .msSql) ∧
      ∃ inner ∈ compiled.query.enclosed,
        SelectsOrdered .msSql [⟨"_sw_rn", true⟩] (some 3) none (inner.parts .msSql) := by
  intro c
  have hsteps : (firstRows.compileFor c .drop).map (·.steps) =
      .ok [⟨⟨.union, .all⟩, .native⟩] := by
    decide +kernel
  obtain ⟨compiled, hok, -⟩ := Except.map_eq_ok_iff.1 hsteps
  obtain ⟨-, hkeeps, hinner, -, hoperands⟩ := Built.orderings_kept built_firstRows hok
  have hoperand := hoperands _ (List.mem_cons_of_mem _ (self_mem_nodes _)) rfl _
    (List.mem_cons_of_mem _ List.mem_cons_self) _ _ _ (.limit _ _ _ _) (.inl rfl)
  obtain ⟨inner, hmem, hkept⟩ := hinner.exists_mem hoperand
  exact ⟨compiled, hok, hkeeps.ordered _ _ _ (.sort _ _), inner, hmem,
    hkept.ordered _ _ _ (.limit _ _ _ _)⟩

end Expr

end SetQuery
