import SetQuery.Proofs.Capability.Standard
import SetQuery.Proofs.Meaning.Emitted

/-!
# Which emulations are approved

A table is changed by overrides and by setting single entries. An override asks for an emulation and
gets the one that is made for the operation; an entry may be set to any emulation, and resolving an
operation looks only at whether the backend has the operator that the emulation needs.

**Theorem (`Capabilities.approval_of_changes`).** After any changes of an initial table, an
operation is native or refused or its emulation is approved. An approved emulation has its operator,
and it computes the operation exactly when it is made for it; otherwise the entry was set to it, and
no later change has touched the entry.
-/

namespace SetQuery

open Sql

/-! ## The step that is written -/

/-- A table with its own columns. -/
theorem Carries.ofTable {V : Type} [DecidableEq V] {E : Engine V} {db : Database V}
    {columns : List String} {name : String} (h : (db.table name).columns = columns)
    (hne : columns ≠ []) (hnodup : columns.Nodup) :
    Carries E db columns (.ofTable (.columns columns) name none) {db.table name} where
  isOperand := rfl
  answers := by
    ext out
    rw [Query.answers, Set.mem_singleton_iff]
    refine (Head.mem_answers_columns hne hnodup h).trans ?_
    rw [Relation.ext_iff, h]
    rfl
  columns := by
    rintro a rfl
    exact h

namespace Emulation

/-- What is written for a step with the emulation answers as the operation does, whatever the
queries on its sides answer with. -/
def Faithful (emulation : Emulation) (op : SetOp) : Prop :=
  ∀ (V : Type) [DecidableEq V] (E : Engine V) (db : Database V) (reserved columns : List String)
    (p : Progress) (right : Query) (A B : Set (Relation V)),
    columns ≠ [] → columns.Nodup → columns ⊆ reserved →
    Carries E db columns p.query A → Carries E db columns right B →
    (p.step reserved columns ⟨op, .emulated emulation, right⟩).query.answers E db =
      Relation.combine op A B

/-- So many copies of one row. -/
def copiesOfNull (n : Nat) : Relation (Option Int) where
  columns := ["x"]
  rows := Multiset.replicate n [none]
  width row hrow := by rw [Multiset.eq_of_mem_replicate hrow]; rfl

/-- A step that answers as the operation does is one whose emulation computes it. -/
theorem Faithful.right {emulation : Emulation} {op : SetOp} (h : emulation.Faithful op) :
    emulation.Right op := by
  refine right_iff_copies.2 fun m n => ?_
  let db : Database (Option Int) :=
    ⟨fun name => if name = "l" then copiesOfNull m else copiesOfNull n, fun _ => copiesOfNull n⟩
  have hne : ["x"] ≠ [] := by decide
  have hl : Carries Engine.integers db ["x"] (.ofTable (.columns ["x"]) "l" none)
      {copiesOfNull m} := .ofTable rfl hne (by decide)
  have hr : Carries Engine.integers db ["x"] (.ofTable (.columns ["x"]) "r" none)
      {copiesOfNull n} := .ofTable rfl hne (by decide)
  have hanswers := h (Option Int) Engine.integers db ["x"] ["x"] ⟨_, false, 0⟩ _ _ _ hne
    (by decide) (List.Subset.refl _) hl hr
  have hstep := hl.step (s := ⟨op, .emulated emulation, _⟩) (p := ⟨_, false, 0⟩) hr hne
    (by decide) (List.Subset.refl ["x"])
  obtain ⟨out, hout, -, hrows⟩ := Relation.exists_mem_combine op
    (Set.mem_singleton (copiesOfNull m)) (Set.mem_singleton (copiesOfNull n)) rfl
  rw [← hanswers, hstep.answers] at hout
  obtain ⟨_, rfl, _, rfl, -, -, hrewritten⟩ := hout
  have hcount := congrArg (Multiset.count [none]) (hrewritten.symm.trans hrows)
  rw [Method.combine, count_combine, SetOp.count_combine] at hcount
  simpa only [copiesOfNull, Multiset.count_replicate_self] using hcount

/-- **A step answers as its operation does exactly when its emulation is made for it.** -/
theorem faithful_iff {emulation : Emulation} {op : SetOp} :
    emulation.Faithful op ↔ ofOp? op = some emulation := by
  constructor
  · intro h
    exact right_iff.1 h.right
  · intro h V _ E db reserved columns p right A B hne hnodup hsubset hp hr
    refine (hp.step_of_made_for hr hne hnodup hsubset ?_).answers
    rintro _ ⟨⟩
    exact h

end Emulation

/-! ## Changes of a table -/

/-- A change of a table. -/
inductive Change
  /-- One entry is set. -/
  | entry (op : SetOp) (support : Support)
  | override (o : Override)

/-- What a change writes to the entry of an operation, if it touches it. -/
def Change.writes : Change → SetOp → Option Support
  | .entry op' support, op => if op = op' then some support else none
  | .override o, op => (o.settings.get op).map (Support.ofSetting op)

namespace Capabilities

/-- The table after a change. -/
def change (c : Capabilities) : Change → Capabilities
  | .entry op support => c.setSupport op support
  | .override o => c.apply o

/-- The tables from which changes start. -/
def Initial (c : Capabilities) : Prop :=
  c ∈ Registry.builtinTables ∨ ∃ name dialect, c = native name dialect

theorem Initial.standard {c : Capabilities} (h : c.Initial) : c.Standard := by
  rcases h with h | ⟨name, dialect, rfl⟩
  · exact Registry.standard_of_mem_builtinTables h
  · exact standard_native name dialect

theorem get_change (c : Capabilities) (change : Change) (op : SetOp) :
    (c.change change).support.get op = (change.writes op).getD (c.support.get op) := by
  cases change with
  | entry op' support =>
    rw [Capabilities.change, setSupport, PerOp.get_set, Change.writes]
    split <;> rfl
  | override o => rw [Capabilities.change, apply, PerOp.get_ofFn, Change.writes]

theorem name_foldl_change (c : Capabilities) (changes : List Change) :
    (changes.foldl change c).name = c.name := by
  induction changes generalizing c with
  | nil => rfl
  | cons change changes ih => cases change <;> exact ih _

/-- An emulation that is not made for its operation was set, and nothing has touched the entry
since. -/
theorem exists_set_of_foldl_change {c : Capabilities} (hc : c.Standard) {changes : List Change}
    {op : SetOp} {emulation : Emulation}
    (h : (changes.foldl change c).support.get op = .emulated emulation)
    (hop : Emulation.ofOp? op ≠ some emulation) :
    ∃ before after, changes = before ++ .entry op (.emulated emulation) :: after ∧
      ∀ change ∈ after, change.writes op = none := by
  induction changes using List.reverseRecOn with
  | nil => exact absurd (hc op emulation h) hop
  | append_singleton changes last ih =>
    rw [List.foldl_concat, get_change] at h
    cases hlast : last.writes op with
    | none =>
      rw [hlast] at h
      obtain ⟨before, after, rfl, hafter⟩ := ih h
      refine ⟨before, after ++ [last], by simp, ?_⟩
      exact List.forall_mem_append.2 ⟨hafter, List.forall_mem_singleton.2 hlast⟩
    | some written =>
      rw [hlast] at h
      obtain rfl : written = Support.emulated emulation := h
      cases last with
      | entry op' support =>
        rw [Change.writes] at hlast
        split at hlast
        · next heq =>
          cases hlast
          subst heq
          exact ⟨changes, [], rfl, fun _ h => nomatch h⟩
        · cases hlast
      | override o =>
        obtain ⟨setting, -, hsetting⟩ := Option.map_eq_some_iff.1 hlast
        exact absurd (Support.ofOp?_of_ofSetting hsetting) hop

/-! ## The gate -/

/-- What resolving an operation looks at. -/
theorem resolve_cases (c : Capabilities) (op : SetOp) :
    c.resolve op = .ok .native ∨ c.resolve op = .error (.unsupportedOperation c.name op) ∨
      ∃ emulation, c.resolve op = .ok (.emulated emulation) ∧
        c.support.get op = .emulated emulation ∧
        c.support.get (emulation.operation op.kind) = .native := by
  unfold resolve
  cases hop : c.support.get op with
  | native => exact .inl rfl
  | unsupported => exact .inr (.inl rfl)
  | emulated emulation =>
    by_cases hneeds : c.support.get (emulation.operation op.kind) = .native
    · exact .inr (.inr ⟨emulation, if_pos hneeds, rfl, hneeds⟩)
    · exact .inr (.inl (if_neg hneeds))

/-- **Which emulations are approved** after any changes of an initial table. -/
theorem approval_of_changes {start : Capabilities} (h : start.Initial) (changes : List Change)
    (op : SetOp) :
    let c := changes.foldl change start
    c.resolve op = .ok .native ∨ c.resolve op = .error (.unsupportedOperation start.name op) ∨
      ∃ emulation, c.resolve op = .ok (.emulated emulation) ∧
        c.support.get (emulation.operation op.kind) = .native ∧
        (emulation.Right op ↔ Emulation.ofOp? op = some emulation) ∧
        (emulation.Faithful op ↔ Emulation.ofOp? op = some emulation) ∧
        (emulation.Right op ∨
          ∃ before after, changes = before ++ .entry op (.emulated emulation) :: after ∧
            ∀ change ∈ after, change.writes op = none) := by
  intro c
  rcases resolve_cases c op with hnative | hrefused | ⟨emulation, hok, hop, hneeds⟩
  · exact .inl hnative
  · rw [name_foldl_change] at hrefused
    exact .inr (.inl hrefused)
  · refine .inr (.inr ⟨emulation, hok, hneeds, Emulation.right_iff, Emulation.faithful_iff, ?_⟩)
    by_cases hmade : Emulation.ofOp? op = some emulation
    · exact .inl (Emulation.right_iff.2 hmade)
    · exact .inr (exists_set_of_foldl_change h.standard hop hmade)

/-- Numbered rows of a union are not all of its rows, and yet they are approved. -/
theorem approval_of_numbered_union :
    let c := [Change.entry ⟨.union, .all⟩ (.emulated .rowNumber)].foldl change
      (native ⟨"duckdb"⟩ .duckDb)
    c.resolve ⟨.union, .all⟩ = .ok (.emulated .rowNumber) ∧
      ¬ Emulation.rowNumber.Right ⟨.union, .all⟩ := by
  intro c
  have hresolve : c.resolve ⟨.union, .all⟩ = .ok (.emulated .rowNumber) := rfl
  rcases approval_of_changes (.inr ⟨⟨"duckdb"⟩, .duckDb, rfl⟩)
      [.entry ⟨.union, .all⟩ (.emulated .rowNumber)] ⟨.union, .all⟩ with
    hnative | hrefused | ⟨emulation, hok, -, hright, -⟩
  · cases hresolve.symm.trans hnative
  · cases hresolve.symm.trans hrefused
  · cases hresolve.symm.trans hok
    exact ⟨hresolve, fun h => absurd (hright.1 h) (by decide)⟩

/-- So a wrong emulation may be approved. -/
theorem exists_wrong_approval : ¬ ∀ (start : Capabilities) (changes : List Change) (op : SetOp)
    (emulation : Emulation), start.Initial →
      (changes.foldl change start).resolve op = .ok (.emulated emulation) →
        emulation.Right op := by
  intro h
  have hright := h (native ⟨"duckdb"⟩ .duckDb) [.entry ⟨.union, .all⟩ (.emulated .rowNumber)]
    ⟨.union, .all⟩ .rowNumber (.inr ⟨⟨"duckdb"⟩, .duckDb, rfl⟩) rfl
  exact absurd (Emulation.right_iff.1 hright) (by decide)

end Capabilities

end SetQuery
