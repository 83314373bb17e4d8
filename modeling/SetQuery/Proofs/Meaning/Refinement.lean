import SetQuery.Proofs.Capability.Standard
import SetQuery.Proofs.Expr.Resolution
import SetQuery.Proofs.Meaning.Emitted
import SetQuery.Proofs.Meaning.Outcome

/-!
# Compiling keeps the meaning

**Theorem (`Built.results_of_native`).** On a backend that has all operations, the statement for an
expression answers, as it is read, with exactly the outcomes of the expression as it was built,
under the columns of its schema. What is read has the text of the statement.

The statement and the expression meet in the resolved expression: `Resolved.results_toQuery` leads
there from the statement, and `Valid.results_of_resolve` from the expression.
-/

namespace SetQuery

open Sql

variable {V : Type} {E : Engine V} {db : Database V}

/-! ## Resolved expressions are well formed -/

theorem names_columnReads (u s : Schema) : (columnReads u s).map (·.name) = u.names := by
  rw [columnReads, List.map_map, Schema.names]
  refine List.map_congr_left fun c _ => ?_
  rw [Function.comp_apply]
  split
  · split <;> rfl
  · rfl

theorem Schema.names_ne_nil {s : Schema} (h : s.isEmpty = false) : s.names ≠ [] := by
  rw [Schema.isEmpty, List.isEmpty_eq_false_iff] at h
  exact fun hnil => h (List.map_eq_nil_iff.1 hnil)

theorem Resolved.restWellFormed_of_forall {reserved columns : List String} :
    ∀ {rest : List (ResolvedStep Resolved)}, (∀ s ∈ rest,
      (∀ emulation, s.method = .emulated emulation → Emulation.ofOp? s.op = some emulation) ∧
        OperandWellFormed reserved columns s.operand) → RestWellFormed reserved columns rest
  | [], _ => by rw [RestWellFormed]; trivial
  | ⟨op, method, operand⟩ :: rest, h => by
    obtain ⟨⟨hmethod, hoperand⟩, hrest⟩ := List.forall_mem_cons.1 h
    rw [RestWellFormed]
    exact ⟨hmethod, hoperand, restWellFormed_of_forall hrest⟩

theorem Expr.operandWellFormed_of_resolves {c : Capabilities} {policy : OrderPolicy}
    {reserved : List String} {canonical : Schema} {e : Expr} {o : Operand Resolved}
    (h : ResolvesOperand c policy canonical e o)
    (hwell : ∀ r, e.resolve c policy = .ok r ∨ e.withoutSorts.resolve c policy = .ok r →
      r.WellFormed reserved) : Resolved.OperandWellFormed reserved canonical.names o := by
  cases h with
  | table name s =>
    rw [Resolved.OperandWellFormed]
    exact names_columnReads ..
  | dropped _ _ _ hr =>
    rw [Resolved.OperandWellFormed]
    exact ⟨hwell _ (.inr hr), names_columnReads ..⟩
  | kept _ _ hr =>
    rw [Resolved.OperandWellFormed]
    exact ⟨hwell _ (.inl hr), names_columnReads ..⟩

/-- What an expression is resolved to is well formed, if the names of its columns are reserved. -/
theorem Expr.wellFormed_of_resolve {c : Capabilities} (hc : c.Standard) {policy : OrderPolicy}
    {reserved : List String} {e : Expr} {r : Resolved} (h : e.resolve c policy = .ok r)
    (hnames : e.columnNames ⊆ reserved) : r.WellFormed reserved := by
  induction e using operand_induction generalizing r with
  | source origin schema =>
    cases origin <;>
    · rw [resolve] at h
      cases h
      rw [Resolved.WellFormed]
      trivial
  | page e input keys most skipped hp ih =>
    obtain ⟨page, hpage, rfl⟩ := hp.resolve_eq_ok_iff.1 h
    rw [Resolved.WellFormed]
    exact ih hpage fun x hx => hnames (columnNames_subset hp.nodes_subset hx)
  | chain base steps schema ih =>
    obtain ⟨canonical, first, rest, ha, hfirst, hrest, rfl⟩ := (resolve_chain_eq_ok_iff rfl).1 h
    have hwithin : ∀ operand ∈ (chain base steps schema).operands,
        operand.columnNames ⊆ reserved := fun operand hmem x hx =>
      hnames (columnNames_subset (nodes_operand_subset hmem) hx)
    have hoperand : ∀ operand ∈ (chain base steps schema).operands, ∀ o,
        ResolvesOperand c policy canonical operand o →
          Resolved.OperandWellFormed reserved canonical.names o := by
      intro operand hmem o ho
      refine operandWellFormed_of_resolves ho fun r hr => ?_
      rcases hr with hr | hr
      · exact (ih operand hmem).1 hr (hwithin operand hmem)
      · exact (ih operand hmem).2 hr fun x hx =>
          hwithin operand hmem (columnNames_subset (nodes_withoutSorts_subset operand) hx)
    rw [Resolved.WellFormed]
    refine ⟨Schema.names_ne_nil ha.isEmpty_eq_false, canonical.names_nodup, ?_,
      hoperand _ List.mem_cons_self _ hfirst, Resolved.restWellFormed_of_forall fun s hs => ?_⟩
    · rw [ha.names_eq]
      exact fun x hx => hwithin _ List.mem_cons_self (names_subset_columnNames _ hx)
    · obtain ⟨step, hstep, hresolves⟩ := exists_of_mem_forall₂ hrest hs
      refine ⟨fun emulation hmethod => ?_,
        hoperand _ (operand_mem_operands hstep) _ hresolves.operand⟩
      rw [hresolves.op]
      exact hc _ _ (Capabilities.get_of_resolve_eq_ok (hmethod ▸ hresolves.method))

/-! ## Reading the operands of a chain -/

variable [DecidableEq V]

/-- Reading the columns of a schema casts the rows to it. -/
theorem answers_columnReads {s u : Schema} (hsu : s.Widens u) (hu : u.isEmpty = false)
    {R : Relation V} (hcount : ∀ name ∈ s.names, R.columns.count name = 1)
    (hfits : ∀ r ∈ R.named E s.names, E.Conforms s r) :
    (readingHead (columnReads u s)).answers E R =
      {Relation.ofRows u.names ((R.named E s.names).map (E.conform u))} := by
  have happlies : columnReads u s ≠ [] ∧ ∀ c ∈ columnReads u s, R.columns.count c.name = 1 := by
    refine ⟨fun h => Schema.names_ne_nil hu ?_, fun c hc => hcount _ ((hsu.names _).2 ?_)⟩
    · rw [← names_columnReads u s, h, List.map_nil]
    · rw [← names_columnReads u s]
      exact List.mem_map_of_mem hc
  have hrows : (R.rows.map fun row => (columnReads u s).map fun c =>
      c.value E (E.value R.columns row)) =
        (Relation.ofRows u.names ((R.named E s.names).map (E.conform u))).rows := by
    rw [Relation.rows_ofRows, Relation.named, Multiset.map_map, Multiset.map_map]
    refine Multiset.map_congr rfl fun row hrow => ?_
    have hr := hfits _ (Multiset.mem_map_of_mem _ hrow)
    change (u.columns.map _).map _ = (u.columns.map _).map _
    rw [List.map_map, List.map_map]
    refine List.map_congr_left fun d hd => ?_
    obtain ⟨declared, hdeclared, hname, -⟩ := hsu.exists_column hd
    have hmem : d.name ∈ s.names := Schema.mem_names.2 ⟨declared, hdeclared, hname⟩
    rw [Function.comp_apply, Function.comp_apply, Engine.conform_of_mem hd,
      Schema.find?_eq_some_iff.2 ⟨hdeclared, hname⟩]
    change _ = E.cast d.type (if d.name ∈ s.names then _ else _)
    rw [if_pos hmem]
    by_cases htype : declared.type = d.type
    · have hfit := hr.fits declared hdeclared
      rw [htype, hname, if_pos hmem] at hfit
      simp only [htype, if_true, ColumnRead.value]
      exact (E.cast_of_fits hfit).symm
    · simp only [htype, if_false, ColumnRead.value]
  ext out
  rw [Head.mem_answers_readingHead, names_columnReads, hrows, Set.mem_singleton_iff,
    Relation.ext_iff, Relation.columns_ofRows]
  exact ⟨fun h => h.2, fun h => ⟨happlies, h⟩⟩

theorem Relation.combine_image_ofRows {names : List String} {A B : Set (Multiset (Row V))}
    (hA : ∀ rows ∈ A, ∀ r ∈ rows, E.Within names r) (hB : ∀ rows ∈ B, ∀ r ∈ rows, E.Within names r)
    (op : SetOp) : combine op (ofRows names '' A) (ofRows names '' B) =
      ofRows names '' Set.image2 op.combine A B := by
  have hinj : ∀ r r' : Row V, E.Within names r → E.Within names r' →
      names.map r = names.map r' → r = r' := by
    intro r r' hr hr' heq
    funext name
    by_cases h : name ∈ names
    · exact List.map_inj_left.1 heq name h
    · rw [hr name h, hr' name h]
  ext out
  constructor
  · rintro ⟨_, ⟨a, ha, rfl⟩, _, ⟨b, hb, rfl⟩, -, hcolumns, hrows⟩
    refine ⟨op.combine a b, ⟨a, ha, b, hb, rfl⟩, Relation.ext hcolumns.symm ?_⟩
    rw [hrows, rows_ofRows, rows_ofRows, rows_ofRows]
    exact SetOp.map_combine hinj op (hA a ha) (hB b hb)
  · rintro ⟨_, ⟨a, ha, b, hb, rfl⟩, rfl⟩
    refine ⟨_, ⟨a, ha, rfl⟩, _, ⟨b, hb, rfl⟩, rfl, rfl, ?_⟩
    exact SetOp.map_combine hinj op (hA a ha) (hB b hb)

namespace Expr

variable {c : Capabilities} {policy : OrderPolicy} {canonical : Schema}

/-- An operand stands for its outcomes, cast to the schema of the chain. -/
theorem operandResults_of_resolves {e : Expr} {o : Operand Resolved}
    (h : ResolvesOperand c policy canonical e o) (hw : e.schema.Widens canonical)
    (hcanonical : canonical.isEmpty = false) (hconform : E.AllConform e.schema (e.outcomes E db))
    (hdb : db.Serves E e)
    (hresults : ∀ r, e.resolve c policy = .ok r ∨ e.withoutSorts.resolve c policy = .ok r →
      r.results E db = Relation.ofRows e.schema.names '' e.outcomes E db) :
    Resolved.operandResults E db o = Relation.ofRows canonical.names ''
      (Multiset.map (E.conform canonical) '' e.outcomes E db) := by
  have hrelation : ∀ {r dropped}, r.results E db =
      Relation.ofRows e.schema.names '' e.outcomes E db →
      Resolved.operandResults E db (.relation r dropped (columnReads canonical e.schema)) =
        Relation.ofRows canonical.names ''
          (Multiset.map (E.conform canonical) '' e.outcomes E db) := by
    intro r dropped hr
    have hread : ∀ rows ∈ e.outcomes E db, (readingHead (columnReads canonical e.schema)).answers E
        (Relation.ofRows e.schema.names rows) =
          {Relation.ofRows canonical.names (rows.map (E.conform canonical))} := by
      intro rows hrows
      have hnamed : (Relation.ofRows e.schema.names rows).named E e.schema.names = rows :=
        Relation.named_ofRows fun r hr => (hconform rows hrows r hr).within
      have hanswers := answers_columnReads (E := E) hw hcanonical
        (R := Relation.ofRows e.schema.names rows)
        (fun name hname => List.count_eq_one_of_mem e.schema.names_nodup hname)
        (hnamed.symm ▸ hconform rows hrows)
      rwa [hnamed] at hanswers
    rw [Resolved.operandResults, hr]
    ext out
    constructor
    · rintro ⟨_, ⟨rows, hrows, rfl⟩, hout⟩
      rw [hread rows hrows] at hout
      exact ⟨_, ⟨rows, hrows, rfl⟩, hout.symm⟩
    · rintro ⟨_, ⟨rows, hrows, rfl⟩, rfl⟩
      exact ⟨_, ⟨rows, hrows, rfl⟩, by rw [hread rows hrows]; rfl⟩
  cases h with
  | table name s =>
    obtain ⟨hcount, hfits⟩ := hdb _ _ (self_mem_nodes _)
    have hread := answers_columnReads (s := s) hw hcanonical hcount hfits
    rw [Resolved.operandResults, outcomes, Set.image_singleton, Set.image_singleton]
    exact hread
  | dropped _ _ _ hr => exact hrelation (hresults _ (.inr hr))
  | kept _ _ hr => exact hrelation (hresults _ (.inl hr))

/-- The steps of a chain stand for the steps of its outcomes. -/
theorem restResults_of_resolves {steps : List (Step Expr)} {rest : List (ResolvedStep Resolved)}
    (h : List.Forall₂ (ResolvesStep c policy canonical) steps rest)
    (hw : ∀ step ∈ steps, step.operand.schema.Widens canonical)
    (hconform : ∀ step ∈ steps, E.AllConform step.operand.schema (step.operand.outcomes E db))
    (hoperand : ∀ step ∈ steps, ∀ o, ResolvesOperand c policy canonical step.operand o →
      Resolved.operandResults E db o = Relation.ofRows canonical.names ''
        (Multiset.map (E.conform canonical) '' step.operand.outcomes E db))
    {A : Set (Multiset (Row V))} (hA : E.AllConform canonical A) :
    Resolved.restResults E db rest (Relation.ofRows canonical.names '' A) =
      Relation.ofRows canonical.names '' stepOutcomes E db canonical steps A := by
  induction h generalizing A with
  | nil => rw [Resolved.restResults, stepOutcomes]
  | @cons step s steps rest hstep _ ih =>
    obtain ⟨hw, hws⟩ := List.forall_mem_cons.1 hw
    obtain ⟨hc, hcs⟩ := List.forall_mem_cons.1 hconform
    obtain ⟨ho, hos⟩ := List.forall_mem_cons.1 hoperand
    have hright := hc.image_conform hw
    obtain ⟨op, operand⟩ := step
    obtain ⟨op', method, o⟩ := s
    obtain ⟨rfl, -, hresolves⟩ := hstep
    rw [Resolved.restResults, stepOutcomes, ho o hresolves,
      Relation.combine_image_ofRows (fun rows hrows r hr => (hA rows hrows r hr).within)
        (fun rows hrows r hr => (hright rows hrows r hr).within)]
    exact ih hws hcs hos (hA.image2_combine hright op')

/-- A chain stands for its outcomes if its operands do. -/
theorem Valid.results_chain {e : Expr} {first : Operand Resolved}
    {rest : List (ResolvedStep Resolved)} (hv : e.Valid) (hdb : db.Serves E e)
    (hwidens : ∀ operand ∈ e.operands, operand.schema.Widens e.schema)
    (hoperand : ∀ operand ∈ e.operands, ∀ o, ResolvesOperand c policy e.schema operand o →
      Resolved.operandResults E db o = Relation.ofRows e.schema.names ''
        (Multiset.map (E.conform e.schema) '' operand.outcomes E db))
    (hfirst : ResolvesOperand c policy e.schema e.leftmost first)
    (hrest : List.Forall₂ (ResolvesStep c policy e.schema) e.flatSteps rest) :
    Resolved.restResults E db rest (Resolved.operandResults E db first) =
      Relation.ofRows e.schema.names '' e.outcomes E db := by
  have hconform : ∀ operand ∈ e.operands,
      E.AllConform operand.schema (operand.outcomes E db) := fun operand hmem =>
    (hv.operand operand hmem).allConform (hdb.mono (nodes_operand_subset hmem))
  have hleftmost : e.leftmost ∈ e.operands := List.mem_cons_self
  have hflat := hv.outcomes_flat hdb (.refl e.schema)
  rw [(hv.allConform hdb).image_conform_self] at hflat
  rw [hoperand _ hleftmost first hfirst, hflat]
  exact restResults_of_resolves hrest
    (fun step hstep => hwidens _ (operand_mem_operands hstep))
    (fun step hstep => hconform _ (operand_mem_operands hstep))
    (fun step hstep => hoperand _ (operand_mem_operands hstep))
    ((hconform _ hleftmost).image_conform (hwidens _ hleftmost))

/-! ## Sources and pages -/

omit [DecidableEq V] in
theorem columnReads_self (s : Schema) :
    columnReads s s = s.names.map fun name => ⟨name, none⟩ := by
  rw [columnReads, Schema.names, List.map_map]
  refine List.map_congr_left fun c hc => ?_
  rw [Schema.find?_eq_some_iff.2 ⟨hc, rfl⟩]
  simp

/-- A page of a resolved expression stands for pages of its outcomes. -/
theorem results_page {schema : Schema} {A : Set (Multiset (Row V))} (hA : E.AllConform schema A)
    {r : Resolved} (hr : r.results E db = Relation.ofRows schema.names '' A) {keys : List SortKey}
    (hkeys : ∀ key ∈ keys, key.column ∈ schema.names) (most skipped : Option Nat) :
    (Resolved.page r keys most skipped).results E db = Relation.ofRows schema.names ''
      {kept | ∃ rows ∈ A, E.Takes keys most skipped rows kept} := by
  have hpage : ∀ rows ∈ A, (Head.paging keys most skipped).answers E
      (Relation.ofRows schema.names rows) =
        Relation.ofRows schema.names '' {kept | E.Takes keys most skipped rows kept} :=
    fun rows hrows => Head.answers_paging schema.names_nodup hkeys most skipped fun r hr =>
      (hA rows hrows r hr).within
  rw [Resolved.results, hr]
  ext out
  constructor
  · rintro ⟨_, ⟨rows, hrows, rfl⟩, hout⟩
    rw [hpage rows hrows] at hout
    obtain ⟨kept, hkept, rfl⟩ := hout
    exact ⟨kept, ⟨rows, hrows, hkept⟩, rfl⟩
  · rintro ⟨kept, ⟨rows, hrows, hkept⟩, rfl⟩
    exact ⟨_, ⟨rows, hrows, rfl⟩, by rw [hpage rows hrows]; exact ⟨kept, hkept, rfl⟩⟩

/-! ## Whole expressions -/

/-- **A resolved expression stands for the outcomes of the expression.** -/
theorem Valid.results_of_resolve {e : Expr} {r : Resolved} (hv : e.Valid)
    (hne : e.schema.isEmpty = false) (hdb : db.Serves E e) (h : e.resolve c policy = .ok r) :
    r.results E db = Relation.ofRows e.schema.names '' e.outcomes E db := by
  induction e using operand_induction generalizing r with
  | source origin s =>
    have hholds := hdb origin s (self_mem_nodes _)
    cases origin with
    | table name =>
      obtain ⟨hcount, hfits⟩ := hholds
      rw [resolve] at h
      cases h
      rw [Resolved.results, Head.columns_eq_readingHead, ← columnReads_self,
        answers_columnReads (.refl s) hne hcount hfits, outcomes, Set.image_singleton]
      congr 2
      exact (Multiset.map_congr rfl fun r hr => (hfits r hr).conform_self).trans
        (Multiset.map_id _)
    | query sql =>
      obtain ⟨hcolumns, htext, -⟩ := hholds
      rw [resolve] at h
      cases h
      have hnodup : (db.answer sql).columns.Nodup := hcolumns ▸ s.names_nodup
      rw [Resolved.results, htext, outcomes, Set.image_singleton, schema, ← hcolumns,
        Relation.ofRows_named hnodup]
  | page e input keys most skipped hp ih =>
    obtain ⟨page, hpage, rfl⟩ := hp.resolve_eq_ok_iff.1 h
    have hserves := hdb.mono hp.nodes_subset
    have hinput := ih (hp.valid hv) (by rwa [hp.schema_eq]) hserves hpage
    have hconform := (hp.valid hv).allConform hserves
    rw [hp.schema_eq] at hinput hconform
    rw [results_page hconform hinput (hp.keys_mem_names hv), hp.outcomes_eq]
  | chain base steps s ih =>
    obtain ⟨canonical, first, rest, ha, hfirst, hrest, rfl⟩ := (resolve_chain_eq_ok_iff rfl).1 h
    obtain rfl : s = canonical := (hv.alignsTo hne).unique ha
    have hwidens : ∀ operand ∈ (Expr.chain base steps s).operands, operand.schema.Widens s :=
      fun operand hmem => ha.widens _ (List.mem_map_of_mem hmem)
    refine hv.results_chain hdb hwidens (fun operand hmem o ho => ?_) hfirst hrest
    have hvo := hv.operand operand hmem
    have hserves : db.Serves E operand := hdb.mono (nodes_operand_subset hmem)
    have hneo : operand.schema.isEmpty = false :=
      (alignsTo_cons_iff.1 ha).1 _ (List.mem_map_of_mem hmem)
    refine operandResults_of_resolves ho (hwidens operand hmem) hne (hvo.allConform hserves)
      hserves fun r hr => ?_
    rcases hr with hr | hr
    · exact (ih operand hmem).1 hvo hneo hserves hr
    · have hdropped := (ih operand hmem).2 hvo.withoutSorts (by rwa [schema_withoutSorts])
        (hserves.mono (nodes_withoutSorts_subset operand)) hr
      rwa [schema_withoutSorts, outcomes_withoutSorts] at hdropped

/-- **Compiling keeps the meaning.** -/
theorem Built.results_of_native {e : Expr} (h : Built e) (hne : e.schema.isEmpty = false)
    (hnative : ∀ op, c.support.get op = .native) {compiled : Compiled}
    (hok : e.compileFor c policy = .ok compiled) (hdb : db.Serves E e) :
    compiled.query.results E db = Relation.ofRows e.schema.names '' e.outcomes E db ∧
      (e.outcomes E db).Nonempty ∧
      (∀ d, compiled.query.asRead.parts d = compiled.query.parts d) ∧
      compiled.sql = compiled.query.asRead.text compiled.dialect := by
  have hparts := fun d => compiled.query.parts_asRead d
  have htext : compiled.sql = compiled.query.asRead.text compiled.dialect := by
    rw [Compiled.sql, Query.text, Query.text, hparts]
  refine ⟨?_, outcomes_nonempty E db e, hparts, htext⟩
  obtain ⟨r, hr, rfl⟩ := Except.map_eq_ok_iff.1 hok
  have hwell := wellFormed_of_resolve (Capabilities.standard_of_native hnative) hr
    (List.Subset.refl e.columnNames)
  rw [Resolved.results_toQuery hwell, h.valid.results_of_resolve hne hdb hr]

/-- With numbers that casts leave as they are, and with words that casts make wider. -/
theorem nested_results : ∃ compiled,
    nested.compileFor (.native ⟨"duckdb"⟩ .duckDb) .strict = .ok compiled ∧
      compiled.query.results Engine.integers .counters =
        Relation.ofRows ["_sw_rn"] '' nested.outcomes Engine.integers .counters ∧
      (nested.outcomes Engine.integers .counters).Nonempty ∧
      compiled.query.results Engine.words .words =
        Relation.ofRows ["_sw_rn"] '' nested.outcomes Engine.words .words ∧
      (nested.outcomes Engine.words .words).Nonempty ∧
      compiled.sql = compiled.query.asRead.text compiled.dialect := by
  obtain ⟨r, hr⟩ : ∃ r, nested.resolve (.native ⟨"duckdb"⟩ .duckDb) .strict = .ok r :=
    exists_resolve_nested rfl rfl
  have hok : nested.compileFor (.native ⟨"duckdb"⟩ .duckDb) .strict = .ok _ :=
    Except.map_eq_ok_iff.2 ⟨r, hr, rfl⟩
  obtain ⟨hintegers, hsome, -, htext⟩ :=
    Built.results_of_native built_nested rfl (PerOp.get_const _) hok Database.counters_serves
  obtain ⟨hwords, hsome', -⟩ :=
    Built.results_of_native built_nested rfl (PerOp.get_const _) hok Database.words_serves
  exact ⟨_, hok, hintegers, hsome, hwords, hsome', htext⟩

end Expr

end SetQuery
