import SetQuery.Proofs.Capability.Gating

/-!
# The two order policies

Where a backend rejects orderings in operands, one policy drops them and says so, and the strict one
refuses the expression. Both do the same until the first ordering is met that has to go.

**Theorem (`Built.policies_agree`).** On a backend that allows orderings everywhere the policies
agree, and nothing is dropped or refused. On any other backend the strict policy gives the result of
the dropping one if that dropped nothing; if it dropped something, the strict policy refuses the
operand of the first report on it; and if it failed, the strict policy fails too.

The relation `Tightens` says this of one computation. It is carried through the resolution because
reports are made in the order in which operands are looked at.
-/

namespace SetQuery

/-! ## Reports on dropped orderings -/

/-- The operand whose ordering was dropped, if the report is on that. -/
def Diagnostic.droppedOperand? : Diagnostic → Option Nat
  | .orderDropped _ operand => some operand
  | _ => none

/-- The first operand whose ordering was dropped. -/
def firstDropped (reports : List Diagnostic) : Option Nat :=
  reports.findSome? Diagnostic.droppedOperand?

theorem Diagnostic.droppedOperand?_eq_none_iff {d : Diagnostic} :
    d.droppedOperand? = none ↔ d.code ≠ "L001" := by
  cases d <;> simp [droppedOperand?, code]

theorem Diagnostic.droppedOperand?_of_code {d : Diagnostic} (h : d.code = "L001") :
    d.droppedOperand? = d.operand? := by
  cases d with
  | orderDropped backend operand => rfl
  | emulated backend op emulation => simp [code] at h
  | widened operand column declared canonical => simp [code] at h

theorem firstDropped_eq_none_iff {reports : List Diagnostic} :
    firstDropped reports = none ↔ ∀ d ∈ reports, d.code ≠ "L001" := by
  rw [firstDropped, List.findSome?_eq_none_iff]
  simp only [Diagnostic.droppedOperand?_eq_none_iff]

/-- The first report with the code of dropped orderings names the first such operand. -/
theorem firstDropped_of_find? {reports : List Diagnostic} {d : Diagnostic}
    (h : reports.find? (·.code = "L001") = some d) :
    ∃ operand, d.operand? = some operand ∧ firstDropped reports = some operand := by
  have hcode : d.code = "L001" := by simpa using List.find?_some h
  have hsome : d.droppedOperand? ≠ none := fun hnone =>
    Diagnostic.droppedOperand?_eq_none_iff.1 hnone hcode
  obtain ⟨operand, hoperand⟩ := Option.ne_none_iff_exists'.1 hsome
  refine ⟨operand, Diagnostic.droppedOperand?_of_code hcode ▸ hoperand, ?_⟩
  obtain ⟨-, before, after, rfl, hbefore⟩ := List.find?_eq_some_iff_append.1 h
  have hfirst : firstDropped before = none :=
    firstDropped_eq_none_iff.2 fun d' hd' => by simpa using hbefore d' hd'
  rw [firstDropped] at hfirst ⊢
  rw [List.findSome?_append, hfirst, List.findSome?_cons_of_isSome (by simp [hoperand]), hoperand]
  rfl

theorem firstDropped_append (l r : List Diagnostic) :
    firstDropped (l ++ r) = (firstDropped l).or (firstDropped r) := List.findSome?_append

theorem firstDropped_castReports (position : Nat) (columns : List ColumnRead) :
    firstDropped (castReports position columns) = none := by
  rw [firstDropped_eq_none_iff]
  intro d hd
  obtain ⟨c, -, hc⟩ := List.mem_filterMap.1 hd
  obtain ⟨types, -, rfl⟩ := Option.map_eq_some_iff.1 hc
  simp [Diagnostic.code]

theorem firstDropped_emulationReports (backend : BackendName) (steps : List StepRecord) :
    firstDropped (emulationReports backend steps) = none := by
  rw [firstDropped_eq_none_iff]
  intro d hd
  obtain ⟨s, -, hs⟩ := List.mem_filterMap.1 hd
  split at hs
  · cases hs
  · cases hs
    simp [Diagnostic.code]

/-! ## Where the policies part -/

/-- What the strict policy makes of a computation of the dropping one, whose results tell the first
operand that lost its ordering. Only a backend that rejects orderings makes a difference. -/
inductive Tightens (c : Capabilities) {α : Type} (dropped : α → Option Nat) :
    Except PlanError α → Except PlanError α → Prop
  | same {a : α} : dropped a = none → Tightens c dropped (.ok a) (.ok a)
  | refused {a : α} {operand : Nat} : c.subqueryOrder = false → dropped a = some operand →
      Tightens c dropped (.ok a) (.error (.unsupportedSubqueryOrder c.name operand))
  | failed {err err' : PlanError} : (c.subqueryOrder = true → err' = err) →
      Tightens c dropped (.error err) (.error err')

namespace Tightens

variable {c : Capabilities} {α β γ : Type} {first : α → Option Nat} {second : β → Option Nat}
  {both : γ → Option Nat}

theorem map {x x' : Except PlanError α} (h : Tightens c first x x') {f : α → β}
    (hf : ∀ a, second (f a) = first a) : Tightens c second (x.map f) (x'.map f) := by
  cases h with
  | same ha => exact .same ((hf _).trans ha)
  | refused hc ha => exact .refused hc ((hf _).trans ha)
  | failed herr => exact .failed herr

/-- What does not depend on the policy may come first. -/
theorem bind (x : Except PlanError α) {f f' : α → Except PlanError β}
    (h : ∀ a, Tightens c second (f a) (f' a)) : Tightens c second (x >>= f) (x >>= f') := by
  cases x with
  | error err => exact .failed fun _ => rfl
  | ok a => exact h a

/-- One computation after another: what the first one drops is met first. -/
theorem seq {x x' : Except PlanError α} {y y' : Except PlanError β} (hx : Tightens c first x x')
    (hy : Tightens c second y y') {f : α → β → γ}
    (hf : ∀ a b, both (f a b) = (first a).or (second b)) :
    Tightens c both (do let a ← x; let b ← y; return f a b)
      (do let a ← x'; let b ← y'; return f a b) := by
  cases hx with
  | failed herr => exact .failed herr
  | @same a ha =>
    cases hy with
    | failed herr => exact .failed herr
    | same hb => exact .same (by rw [hf, ha, hb]; rfl)
    | refused hc hb => exact .refused hc (by rw [hf, ha, hb]; rfl)
  | @refused a operand hc ha =>
    -- whatever follows, the strict policy has stopped here
    cases hy with
    | failed herr => exact .failed fun h => by rw [hc] at h; cases h
    | same hb => exact .refused hc (by rw [hf, ha]; rfl)
    | refused _ hb => exact .refused hc (by rw [hf, ha]; rfl)

theorem of_ok {a : α} {x' : Except PlanError α} (h : Tightens c first (.ok a) x') :
    (first a = none ∧ x' = .ok a) ∨ ∃ operand, c.subqueryOrder = false ∧
      first a = some operand ∧ x' = .error (.unsupportedSubqueryOrder c.name operand) := by
  cases h with
  | same ha => exact .inl ⟨ha, rfl⟩
  | refused hc ha => exact .inr ⟨_, hc, ha, rfl⟩

theorem of_error {err : PlanError} {x' : Except PlanError α}
    (h : Tightens c first (.error err) x') :
    ∃ err', x' = .error err' ∧ (c.subqueryOrder = true → err' = err) := by
  cases h with
  | failed herr => exact ⟨_, rfl, herr⟩

end Tightens

namespace Expr

variable {c : Capabilities} {canonical : Schema}

/-- The first operand of a resolved expression that lost its ordering. -/
def dropped (c : Capabilities) (r : Resolved) : Option Nat := firstDropped (r.diagnostics c.name)

theorem tightens_resolveOperand {e : Expr}
    (he : Tightens c (dropped c) (e.resolve c .drop) (e.resolve c .strict)) (position : Nat) :
    Tightens c (fun o => firstDropped (Resolved.operandDiagnostics c.name position o))
      (resolveOperand c .drop canonical position e)
      (resolveOperand c .strict canonical position e) := by
  cases operandCase c e with
  | table name schema =>
    rw [resolveOperand_table, resolveOperand_table]
    exact .same (firstDropped_castReports ..)
  | ordered hordered hsub =>
    rw [resolveOperand_drop _ _ hordered hsub, resolveOperand_strict _ _ hordered hsub]
    cases e.withoutSorts.resolve c .drop with
    | error err => exact .failed fun h => by rw [hsub] at h; cases h
    | ok r => exact .refused hsub rfl
  | kept hne hkept =>
    rw [resolveOperand_kept _ _ _ hne hkept, resolveOperand_kept _ _ _ hne hkept]
    refine he.map fun r => ?_
    simp [Resolved.operandDiagnostics, firstDropped_append, firstDropped_castReports, dropped]

theorem tightens_resolveSteps {steps : List (Step Expr)} {methods : List Method}
    (h : ∀ step ∈ steps, Tightens c (dropped c) (step.operand.resolve c .drop)
      (step.operand.resolve c .strict)) (position : Nat) :
    Tightens c (fun rest => firstDropped (Resolved.restDiagnostics c.name position rest))
      (resolveSteps c .drop canonical position steps methods)
      (resolveSteps c .strict canonical position steps methods) := by
  induction steps generalizing position methods with
  | nil =>
    rw [resolveSteps_nil, resolveSteps_nil]
    exact .same rfl
  | cons step steps ih =>
    obtain ⟨hoperand, hsteps⟩ := List.forall_mem_cons.1 h
    cases methods with
    | nil =>
      rw [resolveSteps_without_methods, resolveSteps_without_methods]
      exact .same rfl
    | cons method methods =>
      rw [resolveSteps_cons, resolveSteps_cons]
      exact (tightens_resolveOperand hoperand position).seq (ih hsteps (position + 1))
        fun o rest => firstDropped_append ..

/-- **The strict policy refuses the first ordering that the other one drops.** -/
theorem tightens_resolve (c : Capabilities) (e : Expr) :
    Tightens c (dropped c) (e.resolve c .drop) (e.resolve c .strict) := by
  induction e using operand_induction with
  | source origin schema => cases origin <;> · rw [resolve, resolve]; exact .same rfl
  | page e input keys most skipped hp ih =>
    rw [hp.resolve_eq, hp.resolve_eq]
    exact ih.map fun r => rfl
  | chain base steps schema ih =>
    rw [resolve_chain rfl, resolve_chain rfl]
    refine .bind _ fun alignment => .bind _ fun methods => ?_
    refine .seq (tightens_resolveOperand (ih _ List.mem_cons_self).1 0)
      (tightens_resolveSteps (fun step hstep => (ih _ (operand_mem_operands hstep)).1) 1) ?_
    intro first rest
    simp [dropped, Resolved.diagnostics, firstDropped_append, firstDropped_emulationReports]

theorem tightens_compileFor (c : Capabilities) (e : Expr) :
    Tightens c (fun compiled => firstDropped compiled.diagnostics) (e.compileFor c .drop)
      (e.compileFor c .strict) :=
  (tightens_resolve c e).map fun _ => rfl

/-! ## What the policies have in common -/

/-- Where orderings are allowed, the policy does not matter and nothing is dropped. -/
theorem compileFor_of_subqueryOrder {c : Capabilities} (hc : c.subqueryOrder = true) (e : Expr)
    (policy : OrderPolicy) : e.compileFor c policy = e.compileFor c .drop ∧
      ∀ compiled, e.compileFor c policy = .ok compiled →
        firstDropped compiled.diagnostics = none := by
  have htightens := tightens_compileFor c e
  have hsame : e.compileFor c .strict = e.compileFor c .drop ∧
      ∀ compiled, e.compileFor c .drop = .ok compiled →
        firstDropped compiled.diagnostics = none := by
    cases hdrop : e.compileFor c .drop with
    | error err =>
      rw [hdrop] at htightens
      obtain ⟨err', hstrict, herr⟩ := htightens.of_error
      refine ⟨by rw [hstrict, herr hc], fun compiled hok => ?_⟩
      cases hok
    | ok compiled =>
      rw [hdrop] at htightens
      rcases htightens.of_ok with ⟨hnone, hstrict⟩ | ⟨operand, hsub, -, -⟩
      · refine ⟨hstrict, fun compiled' hok => ?_⟩
        cases hok
        exact hnone
      · rw [hc] at hsub
        cases hsub
  cases policy with
  | drop => exact ⟨rfl, hsame.2⟩
  | strict => exact ⟨hsame.1, fun compiled hok => hsame.2 compiled (hsame.1 ▸ hok)⟩

/-- **The policies agree except on dropped orderings.** -/
theorem Built.policies_agree {e : Expr} (h : Built e) (c : Capabilities) :
    (c.subqueryOrder = true → e.compileFor c .strict = e.compileFor c .drop ∧ ∀ policy,
      (∀ compiled, e.compileFor c policy = .ok compiled →
        ∀ d ∈ compiled.diagnostics, d.code ≠ "L001") ∧
      ∀ backend operand, e.compileFor c policy ≠
        .error (.unsupportedSubqueryOrder backend operand)) ∧
    (c.subqueryOrder = false →
      (∀ compiled, e.compileFor c .drop = .ok compiled →
        ((∀ d ∈ compiled.diagnostics, d.code ≠ "L001") → e.compileFor c .strict = .ok compiled) ∧
        ∀ d, compiled.diagnostics.find? (·.code = "L001") = some d →
          ∃ operand, d.operand? = some operand ∧
            e.compileFor c .strict = .error (.unsupportedSubqueryOrder c.name operand)) ∧
      ∀ err, e.compileFor c .drop = .error err → ∃ err', e.compileFor c .strict = .error err') := by
  have htightens := tightens_compileFor c e
  refine ⟨fun hc => ⟨(compileFor_of_subqueryOrder hc e .strict).1, fun policy => ⟨?_, ?_⟩⟩,
    fun _ => ⟨fun compiled hok => ?_, fun err herr => ?_⟩⟩
  · intro compiled hok
    exact firstDropped_eq_none_iff.1 ((compileFor_of_subqueryOrder hc e policy).2 compiled hok)
  · intro backend operand herr
    obtain ⟨op, -, hop⟩ := h.valid.exists_of_resolve_eq_error (.inl hc)
      (Except.map_eq_error_iff.1 herr)
    cases Capabilities.eq_of_resolve_eq_error hop
  · rw [hok] at htightens
    rcases htightens.of_ok with ⟨hnone, hstrict⟩ | ⟨operand, -, hsome, hstrict⟩
    · refine ⟨fun _ => hstrict, fun d hd => ?_⟩
      obtain ⟨operand, -, hsome⟩ := firstDropped_of_find? hd
      rw [hnone] at hsome
      cases hsome
    · refine ⟨fun hall => ?_, fun d hd => ?_⟩
      · rw [firstDropped_eq_none_iff.2 hall] at hsome
        cases hsome
      · obtain ⟨operand', hoperand, hfirst⟩ := firstDropped_of_find? hd
        rw [hsome] at hfirst
        cases hfirst
        exact ⟨operand, hoperand, hstrict⟩
  · rw [herr] at htightens
    obtain ⟨err', hstrict, -⟩ := htightens.of_error
    exact ⟨err', hstrict⟩

/-- A union with a table that is ordered. -/
def orderedRight : Expr :=
  .chain (counter "a" .i16) [⟨⟨.union, .all⟩, .sort (counter "b" .i32) [⟨"_sw_rn", true⟩]⟩]
    (counterSchema .i32)

theorem built_orderedRight : Built orderedRight := by
  have hsort : orderBy (counter "b" .i32) [⟨"_sw_rn", true⟩] =
      .ok (.sort (counter "b" .i32) [⟨"_sw_rn", true⟩]) := rfl
  have hunion : combineTwo ⟨.union, .all⟩ (counter "a" .i16)
      (.sort (counter "b" .i32) [⟨"_sw_rn", true⟩]) = .ok orderedRight := rfl
  exact .combineTwo (.table ..) (.orderBy _ (.table ..) hsort) hunion

/-- The dropping policy reports a cast and then the ordering of the second operand; the strict one
refuses that operand. -/
theorem orderedRight_refused :
    let c := { Capabilities.native ⟨"mssql"⟩ .msSql with subqueryOrder := false }
    (∃ compiled, orderedRight.compileFor c .drop = .ok compiled ∧
      compiled.diagnostics.map (·.code) = ["L003", "L001"]) ∧
    orderedRight.compileFor c .strict = .error (.unsupportedSubqueryOrder ⟨"mssql"⟩ 1) := by
  intro c
  have hreports : (orderedRight.compileFor c .drop).map (·.diagnostics) =
      .ok [.widened 0 "_sw_rn" (.integer .i16) (.integer .i32), .orderDropped ⟨"mssql"⟩ 1] := by
    decide +kernel
  obtain ⟨compiled, hok, hdiagnostics⟩ := Except.map_eq_ok_iff.1 hreports
  obtain ⟨operand, hoperand, hstrict⟩ :=
    (((Built.policies_agree built_orderedRight c).2 rfl).1 compiled hok).2
      (.orderDropped ⟨"mssql"⟩ 1) (by rw [hdiagnostics]; rfl)
  cases hoperand
  exact ⟨⟨compiled, hok, by rw [hdiagnostics]; rfl⟩, hstrict⟩

end Expr

end SetQuery
