import Mathlib.Data.Set.NAry
import SetQuery.Proofs.Expr.Construction
import SetQuery.Proofs.Meaning.Answers

/-!
# The meaning of an expression

`Expr.outcomes` evaluates an expression by recursion on the tree as it was built. Rows are matched
by column name, and each chain casts its operands to its own schema and combines them step by step,
nested chains one build at a time. An ordering changes no bag; a limit directly on an ordering keeps
what its keys put first, and any other limit keeps any rows. Since keys may not tell rows apart, an
expression has a set of outcomes.

**Theorem (`Valid.outcomes_flat`).** Casting the outcomes of a nested chain to a wider schema is
evaluating its whole left spine under the wider schema. Casting loses nothing, so it makes no
difference whether rows are compared before or after it.
-/

namespace SetQuery

variable {V : Type}

namespace Expr

/-- The keys of an ordering. -/
def sortKeys : Expr → List SortKey
  | .sort _ keys => keys
  | _ => []

mutual

/-- The bags of rows that the expression may stand for. -/
noncomputable def outcomes (E : Engine V) (db : Database V) : Expr → Set (Multiset (Row V))
  | .source (.table name) schema => {(db.table name).named E schema.names}
  | .source (.query sql) schema => {(db.answer sql).named E schema.names}
  | .chain base steps schema =>
    stepOutcomes E db schema steps (Multiset.map (E.conform schema) '' base.outcomes E db)
  | .sort input _ => input.outcomes E db
  | .limit input most skipped =>
    {kept | ∃ rows ∈ input.outcomes E db, E.Takes input.sortKeys most skipped rows kept}

/-- The bags of rows after some steps from others, under a schema. -/
noncomputable def stepOutcomes (E : Engine V) (db : Database V) (schema : Schema) :
    List (Step Expr) → Set (Multiset (Row V)) → Set (Multiset (Row V))
  | [], A => A
  | ⟨op, operand⟩ :: rest, A =>
    stepOutcomes E db schema rest (Set.image2 op.combine A
      (Multiset.map (E.conform schema) '' operand.outcomes E db))

end

theorem outcomes_withoutSort (E : Engine V) (db : Database V) (e : Expr) :
    e.withoutSort.outcomes E db = e.outcomes E db := by
  cases e with
  | sort input keys => rw [withoutSort, outcomes]
  | _ => rfl

theorem outcomes_withoutSorts (E : Engine V) (db : Database V) :
    ∀ e : Expr, e.withoutSorts.outcomes E db = e.outcomes E db
  | .sort input _ => by rw [withoutSorts, outcomes, outcomes_withoutSorts E db input]
  | .source _ _ => rfl
  | .chain _ _ _ => rfl
  | .limit _ _ _ => rfl

/-- A page takes rows of its input. -/
theorem PageOf.outcomes_eq (E : Engine V) (db : Database V) {e input : Expr} {keys : List SortKey}
    {most skipped : Option Nat} (h : PageOf e input keys most skipped) : e.outcomes E db =
      {kept | ∃ rows ∈ input.outcomes E db, E.Takes keys most skipped rows kept} := by
  cases h with
  | sort input keys =>
    rw [outcomes, outcomes_withoutSort]
    simp only [Engine.takes_all_iff, exists_eq_right', Set.ofPred_mem_eq]
  | limitSort input keys most skipped =>
    rw [outcomes, outcomes_withoutSort, outcomes]
    rfl
  | limit most skipped hinput =>
    have hkeys : input.sortKeys = [] := by cases input <;> first | rfl | cases hinput
    rw [outcomes, hkeys]

theorem stepOutcomes_append (E : Engine V) (db : Database V) (schema : Schema)
    (l r : List (Step Expr)) (A : Set (Multiset (Row V))) :
    stepOutcomes E db schema (l ++ r) A =
      stepOutcomes E db schema r (stepOutcomes E db schema l A) := by
  induction l generalizing A with
  | nil => rw [List.nil_append, stepOutcomes.eq_1]
  | cons step l ih =>
    obtain ⟨op, operand⟩ := step
    rw [List.cons_append, stepOutcomes, stepOutcomes, ih]

/-! ## There is an outcome -/

mutual

theorem outcomes_nonempty (E : Engine V) (db : Database V) :
    ∀ e : Expr, (e.outcomes E db).Nonempty
  | .source (.table _) _ => by rw [outcomes]; exact Set.singleton_nonempty _
  | .source (.query _) _ => by rw [outcomes]; exact Set.singleton_nonempty _
  | .chain base steps _ => by
    rw [outcomes]
    exact stepOutcomes_nonempty E db steps ((outcomes_nonempty E db base).image _)
  | .sort input _ => by rw [outcomes]; exact outcomes_nonempty E db input
  | .limit input most skipped => by
    rw [outcomes]
    obtain ⟨rows, hrows⟩ := outcomes_nonempty E db input
    obtain ⟨kept, hkept⟩ := E.exists_takes input.sortKeys most skipped rows
    exact ⟨kept, rows, hrows, hkept⟩

theorem stepOutcomes_nonempty (E : Engine V) (db : Database V) {schema : Schema} :
    ∀ (steps : List (Step Expr)) {A : Set (Multiset (Row V))} (_ : A.Nonempty),
      (stepOutcomes E db schema steps A).Nonempty
  | [], _, h => by rw [stepOutcomes]; exact h
  | ⟨_, operand⟩ :: rest, _, h => by
    rw [stepOutcomes]
    exact stepOutcomes_nonempty E db rest
      (h.image2 ((outcomes_nonempty E db operand).image _))

end

/-! ## What holds of all rows -/

section

variable {E : Engine V} {db : Database V}

/-- What holds of the rows before some steps and of the cast rows of their operands holds of the
rows after the steps. -/
theorem forall_stepOutcomes {P : Row V → Prop} {schema : Schema} {steps : List (Step Expr)}
    {A : Set (Multiset (Row V))} (hA : ∀ rows ∈ A, ∀ r ∈ rows, P r)
    (hsteps : ∀ step ∈ steps, ∀ rows ∈ step.operand.outcomes E db, ∀ r ∈ rows,
      P (E.conform schema r)) :
    ∀ rows ∈ stepOutcomes E db schema steps A, ∀ r ∈ rows, P r := by
  induction steps generalizing A with
  | nil => rw [stepOutcomes]; exact hA
  | cons step steps ih =>
    obtain ⟨op, operand⟩ := step
    obtain ⟨hfirst, hrest⟩ := List.forall_mem_cons.1 hsteps
    rw [stepOutcomes]
    refine ih ?_ hrest
    rintro _ ⟨a, ha, _, ⟨b, hb, rfl⟩, rfl⟩ r hr
    rcases SetOp.mem_of_mem_combine hr with hr | hr
    · exact hA a ha r hr
    · obtain ⟨r', hr', rfl⟩ := Multiset.mem_map.1 hr
      exact hfirst b hb r' hr'

/-- What holds of the rows of the sources, and is kept when a row is cast to a schema that promises
no more, holds of the rows of the whole expression. -/
theorem Valid.forall_outcomes {P : Schema → Row V → Prop}
    (hconform : ∀ {s t : Schema} {r : Row V}, s.RelaxesTo t → P s r → P t (E.conform t r))
    {e : Expr} (h : e.Valid)
    (hsource : ∀ origin schema, Expr.source origin schema ∈ e.nodes →
      ∀ rows ∈ (Expr.source origin schema).outcomes E db, ∀ r ∈ rows, P schema r) :
    ∀ rows ∈ e.outcomes E db, ∀ r ∈ rows, P e.schema r := by
  induction h with
  | source origin schema => exact hsource origin schema (self_mem_nodes _)
  | @chain base steps schema _ _ _ ha ihb ihs =>
    rw [outcomes]
    refine forall_stepOutcomes ?_ fun step hstep rows hrows r hr => ?_
    · rintro _ ⟨rows, hrows, rfl⟩ _ hmem
      obtain ⟨r, hr, rfl⟩ := Multiset.mem_map.1 hmem
      refine hconform (ha.relaxesTo _ List.mem_cons_self) (ihb ?_ rows hrows r hr)
      exact fun origin s hmem => hsource origin s (nodes_base_subset base steps schema hmem)
    · refine hconform (ha.relaxesTo _ ?_) (ihs step hstep ?_ rows hrows r hr)
      · exact List.mem_cons_of_mem _ (List.mem_map_of_mem hstep)
      · exact fun origin s hmem => hsource origin s (nodes_step_subset hstep base schema hmem)
  | sort _ _ _ ih =>
    rw [outcomes]
    exact ih fun origin s hmem => hsource origin s (List.mem_cons_of_mem _ hmem)
  | limit _ _ ih =>
    rw [outcomes]
    rintro kept ⟨rows, hrows, hkept⟩ r hr
    refine ih (fun origin s hmem => hsource origin s (List.mem_cons_of_mem _ hmem)) rows hrows r ?_
    exact E.mem_of_takes hkept hr

end

end Expr

/-! ## Databases that hold what is declared -/

/-- The database holds what a source declares. A table has each declared column once and may have
others. A query has exactly the declared columns, and its terminator means nothing. -/
def Database.Holds (E : Engine V) (db : Database V) : Source → Schema → Prop
  | .table name, schema =>
    (∀ column ∈ schema.names, (db.table name).columns.count column = 1) ∧
      ∀ r ∈ (db.table name).named E schema.names, E.Conforms schema r
  | .query sql, schema =>
    (db.answer sql).columns = schema.names ∧ db.answer (Sql.queryText sql) = db.answer sql ∧
      ∀ r ∈ (db.answer sql).named E schema.names, E.Conforms schema r

/-- The database holds what the sources of the expression declare. -/
def Database.Serves (E : Engine V) (db : Database V) (e : Expr) : Prop :=
  ∀ origin schema, Expr.source origin schema ∈ e.nodes → db.Holds E origin schema

theorem Database.Serves.mono {E : Engine V} {db : Database V} {e e' : Expr} (h : db.Serves E e)
    (hsubset : e'.nodes ⊆ e.nodes) : db.Serves E e' :=
  fun origin schema hmem => h origin schema (hsubset hmem)

/-! ## Casting bags -/

/-- All rows conform to the schema. -/
def Engine.AllConform (E : Engine V) (s : Schema) (A : Set (Multiset (Row V))) : Prop :=
  ∀ rows ∈ A, ∀ r ∈ rows, E.Conforms s r

theorem SetOp.image_map_image2 {α β : Type} [DecidableEq α] [DecidableEq β] {f : α → β}
    {p : α → Prop} (hf : ∀ x y, p x → p y → f x = f y → x = y) (op : SetOp)
    {A B : Set (Multiset α)} (hA : ∀ a ∈ A, ∀ x ∈ a, p x) (hB : ∀ b ∈ B, ∀ x ∈ b, p x) :
    Multiset.map f '' Set.image2 op.combine A B =
      Set.image2 op.combine (Multiset.map f '' A) (Multiset.map f '' B) := by
  rw [Set.image_image2, Set.image2_image_left, Set.image2_image_right]
  exact Set.image2_congr fun a ha b hb => map_combine hf op (hA a ha) (hB b hb)

namespace Engine.AllConform

variable {E : Engine V} {db : Database V} {s t u : Schema} {A B : Set (Multiset (Row V))}

theorem image_conform (h : E.AllConform s A) (hst : s.Widens t) :
    E.AllConform t (Multiset.map (E.conform t) '' A) := by
  rintro _ ⟨rows, hrows, rfl⟩ _ hmem
  obtain ⟨r, hr, rfl⟩ := Multiset.mem_map.1 hmem
  exact (h rows hrows r hr).conform hst

theorem image2_combine (hA : E.AllConform s A) (hB : E.AllConform s B) (op : SetOp) :
    E.AllConform s (Set.image2 op.combine A B) := by
  rintro _ ⟨a, ha, b, hb, rfl⟩ r hr
  exact (SetOp.mem_of_mem_combine hr).elim (hA a ha r) (hB b hb r)

theorem image_image_conform (h : E.AllConform s A) (hst : s.Widens t) (htu : t.Widens u) :
    Multiset.map (E.conform u) '' (Multiset.map (E.conform t) '' A) =
      Multiset.map (E.conform u) '' A := by
  rw [Set.image_image]
  refine Set.image_congr fun rows hrows => ?_
  rw [Multiset.map_map]
  exact Multiset.map_congr rfl fun r hr => (h rows hrows r hr).conform_conform hst htu

theorem image_conform_self (h : E.AllConform s A) : Multiset.map (E.conform s) '' A = A := by
  refine (Set.image_congr fun rows hrows => ?_).trans (Set.image_id A)
  exact (Multiset.map_congr rfl fun r hr => (h rows hrows r hr).conform_self).trans
    (Multiset.map_id rows)

theorem stepOutcomes (hA : E.AllConform s A) {steps : List (Step Expr)}
    (hsteps : ∀ step ∈ steps, step.operand.schema.Widens s ∧
      E.AllConform step.operand.schema (step.operand.outcomes E db)) :
    E.AllConform s (Expr.stepOutcomes E db s steps A) := by
  refine Expr.forall_stepOutcomes hA fun step hstep rows hrows r hr => ?_
  obtain ⟨hw, hoperand⟩ := hsteps step hstep
  exact (hoperand rows hrows r hr).conform hw

/-- Casting after the steps is casting before them. -/
theorem image_conform_stepOutcomes (hA : E.AllConform s A) (hsu : s.Widens u)
    {steps : List (Step Expr)} (hsteps : ∀ step ∈ steps, step.operand.schema.Widens s ∧
      E.AllConform step.operand.schema (step.operand.outcomes E db)) :
    Multiset.map (E.conform u) '' Expr.stepOutcomes E db s steps A =
      Expr.stepOutcomes E db u steps (Multiset.map (E.conform u) '' A) := by
  induction steps generalizing A with
  | nil => rw [Expr.stepOutcomes, Expr.stepOutcomes]
  | cons step steps ih =>
    obtain ⟨op, operand⟩ := step
    obtain ⟨⟨hw, hoperand⟩, hsteps⟩ := List.forall_mem_cons.1 hsteps
    have hright := hoperand.image_conform hw
    rw [Expr.stepOutcomes, Expr.stepOutcomes, ih (hA.image2_combine hright op) hsteps,
      SetOp.image_map_image2 (fun r r' hr hr' => hr.conform_injective hr' hsu) op hA hright,
      hoperand.image_image_conform hw hsu]

end Engine.AllConform

namespace Expr.Valid

variable {E : Engine V} {db : Database V}

theorem widens_of_alignsTo {base : Expr} {steps : List (Step Expr)} {schema : Schema}
    (ha : AlignsTo (chainSchemas base steps) schema) :
    base.schema.Widens schema ∧ ∀ step ∈ steps, step.operand.schema.Widens schema :=
  ⟨ha.widens _ List.mem_cons_self, fun _ hstep =>
    ha.widens _ (List.mem_cons_of_mem _ (List.mem_map_of_mem hstep))⟩

/-- All rows of an expression have the types of its schema. -/
theorem allConform {e : Expr} (h : e.Valid) (hdb : db.Serves E e) :
    E.AllConform e.schema (e.outcomes E db) := by
  refine h.forall_outcomes (fun hst hr => hr.conform hst.widens) fun origin schema hmem => ?_
  have hholds := hdb origin schema hmem
  cases origin <;>
  · rw [outcomes]
    rintro _ rfl
    first | exact hholds.2 | exact hholds.2.2

/-- **Flattening.** Casting the outcomes of a chain to a wider schema is evaluating its left spine
under that schema. -/
theorem outcomes_flat {e : Expr} (h : e.Valid) (hdb : db.Serves E e) {u : Schema}
    (hu : e.schema.Widens u) : Multiset.map (E.conform u) '' e.outcomes E db =
      stepOutcomes E db u e.flatSteps
        (Multiset.map (E.conform u) '' e.leftmost.outcomes E db) := by
  induction h with
  | @chain base steps schema hvb hvs _ ha ih _ =>
    obtain ⟨hbase, hsteps⟩ := widens_of_alignsTo ha
    have hserves := hdb.mono (nodes_base_subset base steps schema)
    have hconform := hvb.allConform hserves
    have hoperands : ∀ step ∈ steps, step.operand.schema.Widens schema ∧
        E.AllConform step.operand.schema (step.operand.outcomes E db) := fun step hstep =>
      ⟨hsteps step hstep, (hvs step hstep).allConform
        (hdb.mono (nodes_step_subset hstep base schema))⟩
    rw [outcomes, flatSteps, Expr.leftmost, stepOutcomes_append,
      (hconform.image_conform hbase).image_conform_stepOutcomes hu hoperands,
      hconform.image_image_conform hbase hu, ih hserves (hbase.trans hu)]
  | source => exact (stepOutcomes.eq_1 ..).symm
  | sort => exact (stepOutcomes.eq_1 ..).symm
  | limit => exact (stepOutcomes.eq_1 ..).symm

end Expr.Valid

/-! ## Examples -/

namespace Database

/-- A table whose only column is that of the schema holds it, if its values have the type. -/
theorem holds_counterSchema {E : Engine V} {db : Database V} {name : String} {width : IntWidth}
    (hcolumns : (db.table name).columns = ["_sw_rn"])
    (hrows : ∀ row ∈ (db.table name).rows, ∃ v, row = [v] ∧ E.fits (.integer width) v) :
    db.Holds E (.table name) (Expr.counterSchema width) := by
  refine ⟨fun column hcolumn => ?_, fun r hr => ?_⟩
  · rw [hcolumns, List.mem_singleton.1 hcolumn]
    rfl
  · obtain ⟨row, hrow, rfl⟩ := Multiset.mem_map.1 hr
    obtain ⟨v, rfl, hv⟩ := hrows row hrow
    have hvalue : E.value (db.table name).columns [v] "_sw_rn" = v := by
      rw [hcolumns, E.value_cons_self]
    refine ⟨fun c hc => ?_, fun name hname => if_neg hname⟩
    cases List.mem_singleton.1 hc
    exact ((if_pos (Schema.mem_names.2 ⟨_, hc, rfl⟩)).trans hvalue).symm ▸ hv

theorem serves_nested {E : Engine V} {db : Database V}
    (ha : db.Holds E (.table "a") (Expr.counterSchema .i16))
    (hb : db.Holds E (.table "b") (Expr.counterSchema .i32))
    (hc : db.Holds E (.table "c") (Expr.counterSchema .i64)) : db.Serves E Expr.nested := by
  intro origin schema hmem
  have hmem : Expr.source origin schema = Expr.counter "a" .i16 ∨
      Expr.source origin schema = Expr.counter "b" .i32 ∨
      Expr.source origin schema = Expr.counter "c" .i64 := by
    simpa [Expr.nested, Expr.nodes, Expr.stepNodes, Expr.counter, Expr.table] using hmem
  rcases hmem with h | h | h
  · cases h; exact ha
  · cases h; exact hb
  · cases h; exact hc

/-- Every table and every query holds the integers 1, 1 and 2. -/
def counters : Database (Option Int) :=
  let relation : Relation (Option Int) :=
    { columns := ["_sw_rn"], rows := {[some 1], [some 1], [some 2]}, width := by decide }
  ⟨fun _ => relation, fun _ => relation⟩

theorem counters_holds (name : String) (width : IntWidth) :
    counters.Holds Engine.integers (.table name) (Expr.counterSchema width) := by
  refine holds_counterSchema rfl fun row hrow => ?_
  have hrow : row = [some 1] ∨ row = [some 1] ∨ row = [some 2] := by
    simpa [counters] using hrow
  rcases hrow with rfl | rfl | rfl <;> cases width <;> exact ⟨_, rfl, by decide, by decide⟩

theorem counters_serves : counters.Serves Engine.integers Expr.nested :=
  serves_nested (counters_holds _ _) (counters_holds _ _) (counters_holds _ _)

/-- Every table and every query holds the integers -1, -1 and 2, in words of a size of its own. -/
def words : Database Engine.Word :=
  let relation (size : Nat) : Relation Engine.Word :=
    { columns := ["_sw_rn"],
      rows := {[.bits size (.ofInt size (-1))], [.bits size (.ofInt size (-1))], [.bits size 2]},
      width := by simp }
  ⟨fun
    | "a" => relation 16
    | "b" => relation 32
    | _ => relation 64, fun _ => relation 64⟩

theorem words_serves : words.Serves Engine.words Expr.nested := by
  have hholds : ∀ name (width : IntWidth), (words.table name).columns = ["_sw_rn"] →
      (∀ row ∈ (words.table name).rows, ∃ value, row = [.bits width.bits value]) →
      words.Holds Engine.words (.table name) (Expr.counterSchema width) := by
    intro name width hcolumns hrows
    refine holds_counterSchema hcolumns fun row hrow => ?_
    obtain ⟨value, rfl⟩ := hrows row hrow
    exact ⟨_, rfl, .bits value rfl⟩
  refine serves_nested (hholds _ _ rfl ?_) (hholds _ _ rfl ?_) (hholds _ _ rfl ?_)
  all_goals simp [words, IntWidth.bits]

end Database

end SetQuery
