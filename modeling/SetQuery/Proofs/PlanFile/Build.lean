import SetQuery.Proofs.Expr.Pieces
import SetQuery.Proofs.PlanFile.Table
import SetQuery.Proofs.SortedMap

/-!
# A plan builds the query that it spells out

**Theorem (`PlanFile.build_exact`).** A plan has an expression exactly when it is sound: all its
tables are, whether they are used or not, its query names only tables of the plan and gives every
step an input, the schemas of everything it combines align, and its sort keys are columns of the
result. The expression then is what the plan spells out: the limit around the ordering around the
relation that the query starts from, or around a chain that starts from it and is flat as the plan
is, with one operation for each input of each step.

A step is one chain around the result of the steps before it, so the steps are pieces of one chain
(`buildSteps_eq_ok_iff`), and `Expr.Extends` says what such a tower has in common with the flat
chain.
-/

namespace SetQuery

/-! ## What a plan spells out -/

/-- The operation of a step. -/
def StepDef.op (s : StepDef) : SetOp := ⟨s.kind, .ofDistinct s.distinct⟩

/-- The operations of the query from left to right, one for each input of each step. -/
def QueryDef.flatSteps (q : QueryDef) : List (Step String) :=
  q.steps.flatMap fun s => s.inputs.map fun name => ⟨s.op, name⟩

/-- The expression with a limit around it if there is a limit or if rows are to be skipped. -/
inductive Expr.LimitedTo (input : Expr) : Option Nat → Nat → Expr → Prop
  | whole : LimitedTo input none 0 input
  | part {most : Option Nat} {skipped : Nat} (h : most.isSome ∨ 0 < skipped) :
      LimitedTo input most skipped
        (.limit input most (if skipped = 0 then none else some skipped))

theorem Expr.LimitedTo.schema_eq {input e : Expr} {most : Option Nat} {skipped : Nat}
    (h : input.LimitedTo most skipped e) : e.schema = input.schema := by
  cases h <;> rfl

namespace PlanFile

/-- The name is that of a table which spells out the expression. -/
def Denotes (p : PlanFile) (name : String) (e : Expr) : Prop :=
  ∃ t, p.tables.get? name = some t ∧ t.Denotes e

/-- The name is that of a table which spells out the schema. -/
def Declares (p : PlanFile) (name : String) (schema : Schema) : Prop :=
  ∃ t, p.tables.get? name = some t ∧ t.Declares schema

/-- What the steps of the plan spell out: the relation to start from, or a chain with one step for
each input of each step. -/
inductive DenotesCore (p : PlanFile) (core : Expr) : Prop
  | source (hsteps : p.query.steps = []) (hsource : p.Denotes p.query.source core)
  | chain (hsteps : p.query.steps ≠ []) (hchain : core.isChain = true)
      (hsource : p.Denotes p.query.source core.leftmost)
      (hflat : List.Forall₂ (fun planned step =>
        step.op = planned.op ∧ p.Denotes planned.operand step.operand)
        p.query.flatSteps core.flatSteps)

/-- What a plan needs to have an expression. The result has the names of the relation that it starts
from. -/
structure Sound (p : PlanFile) : Prop where
  tables : ∀ entry ∈ p.tables.entries, entry.2.Sound
  source : p.query.source ∈ p.tables.names
  inputs : ∀ s ∈ p.query.steps, s.inputs ≠ [] ∧ ∀ name ∈ s.inputs, name ∈ p.tables.names
  aligned : p.query.steps ≠ [] → ∃ schemas canonical, List.Forall₂ p.Declares
    (p.query.source :: p.query.flatSteps.map (·.operand)) schemas ∧ AlignsTo schemas canonical
  keys : ∃ schema, p.Declares p.query.source schema ∧
    ∀ entry ∈ p.query.orderBy, ∃ key, SortKey.Reads entry key ∧ key.column ∈ schema.names

end PlanFile

/-! ## Tables -/

/-- The table of a plan is built. -/
def TableDef.BuiltAs (entry : String × TableDef) (table : String × Expr) : Prop :=
  table.1 = entry.1 ∧ entry.2.Denotes table.2

theorem buildTables_eq_ok_iff {entries : List (String × TableDef)} {tables : List (String × Expr)} :
    PlanFile.buildTables entries = .ok tables ↔ List.Forall₂ TableDef.BuiltAs entries tables := by
  induction entries generalizing tables with
  | nil =>
    constructor
    · intro h
      obtain rfl := Except.ok.inj h
      exact .nil
    · rintro ⟨⟩
      rfl
  | cons entry entries ih =>
    obtain ⟨name, t⟩ := entry
    simp only [PlanFile.buildTables, Except.bind_eq_ok_iff, Except.mapError_eq_ok_iff,
      TableDef.build_eq_ok_iff, ih]
    constructor
    · rintro ⟨e, he, others, hothers, h⟩
      obtain rfl := Except.ok.inj h
      exact .cons ⟨rfl, he⟩ hothers
    · rintro (_ | ⟨⟨hname, he⟩, hothers⟩)
      exact ⟨_, he, _, hothers, congrArg (fun key => Except.ok ((key, _) :: _)) hname.symm⟩

theorem findTable_eq_ok_iff {tables : List (String × Expr)} {name : String} {e : Expr} :
    findTable tables name = .ok e ↔ tables.lookup name = some e := by
  unfold findTable
  cases tables.lookup name <;> simp

/-- What is found under a name is what its table spells out. -/
theorem lookup_cases {entries : List (String × TableDef)} {tables : List (String × Expr)}
    (h : List.Forall₂ TableDef.BuiltAs entries tables) (name : String) :
    (entries.lookup name = none ∧ tables.lookup name = none) ∨
      ∃ t e, entries.lookup name = some t ∧ tables.lookup name = some e ∧ t.Denotes e := by
  induction h with
  | nil => exact .inl ⟨rfl, rfl⟩
  | @cons entry table entries tables htable _ ih =>
    obtain ⟨key, t⟩ := entry
    obtain ⟨key', e⟩ := table
    obtain ⟨rfl : key' = key, he⟩ := htable
    rw [List.lookup_cons, List.lookup_cons]
    split
    · exact .inr ⟨t, e, rfl, rfl, he⟩
    · exact ih

/-! ## Steps -/

/-- The step of a plan with the expressions of its inputs. -/
def Supplies (tables : List (String × Expr)) (s : StepDef) (piece : Expr.Piece) : Prop :=
  s.inputs ≠ [] ∧ ∃ operands, List.Forall₂ (fun name e => findTable tables name = .ok e)
    s.inputs operands ∧ piece = .variadic s.op operands

/-- **The steps of a plan are pieces of one chain.** -/
theorem buildSteps_eq_ok_iff {tables : List (String × Expr)} {number : Nat} {base e : Expr}
    {steps : List StepDef} : buildSteps tables number base steps = .ok e ↔
      ∃ pieces, List.Forall₂ (Supplies tables) steps pieces ∧
        Expr.buildPieces base pieces = .ok e := by
  induction steps generalizing number base with
  | nil =>
    simp [buildSteps, Expr.buildPieces, pure, Except.pure]
  | cons s steps ih =>
    simp only [buildSteps, List.isEmpty_iff]
    split
    · next hempty =>
      constructor
      · intro h; cases h
      · rintro ⟨_, _ | ⟨hs, -⟩, -⟩
        exact absurd hempty hs.1
    · next hne =>
      simp only [Except.bind_eq_ok_iff, Except.mapM_eq_ok_iff, Except.mapError_eq_ok_iff, ih]
      constructor
      · rintro ⟨operands, hoperands, next, hnext, pieces, hpieces, h⟩
        exact ⟨_, .cons ⟨hne, operands, hoperands, rfl⟩ hpieces,
          Except.bind_eq_ok_iff.2 ⟨next, hnext, h⟩⟩
      · rintro ⟨_, _ | ⟨⟨-, operands, hoperands, rfl⟩, hpieces⟩, h⟩
        obtain ⟨next, hnext, h⟩ := Except.bind_eq_ok_iff.1 h
        exact ⟨operands, hoperands, next, hnext, _, hpieces, h⟩

/-- The operations of the pieces are those of the query. -/
theorem flatSteps_of_supplies {tables : List (String × Expr)} {steps : List StepDef}
    {pieces : List Expr.Piece} (h : List.Forall₂ (Supplies tables) steps pieces) :
    List.Forall₂ (fun (planned : Step String) (step : Step Expr) =>
        step.op = planned.op ∧ findTable tables planned.operand = .ok step.operand)
      (steps.flatMap fun s => s.inputs.map fun name => ⟨s.op, name⟩)
      (pieces.flatMap (·.steps)) := by
  refine List.rel_flatMap h ?_
  rintro s _ ⟨-, operands, hoperands, rfl⟩
  exact List.forall₂_map_left_iff.2 (List.forall₂_map_right_iff.2
    (hoperands.imp fun _ _ hfind => ⟨rfl, hfind⟩))

theorem flatSteps_ne_nil {tables : List (String × Expr)} {steps : List StepDef}
    {pieces : List Expr.Piece} (h : List.Forall₂ (Supplies tables) steps pieces)
    (hne : steps ≠ []) : pieces.flatMap (·.steps) ≠ [] := by
  cases h with
  | nil => exact absurd rfl hne
  | cons hs _ =>
    obtain ⟨hinputs, operands, hoperands, rfl⟩ := hs
    intro hflat
    have hempty : operands = [] := by
      simpa [Expr.Piece.steps] using (List.append_eq_nil_iff.1 hflat).1
    rw [hempty, List.forall₂_nil_right_iff] at hoperands
    exact hinputs hoperands

namespace PlanFile

variable {p : PlanFile} {tables : List (String × Expr)}

section Tables

variable (htables : List.Forall₂ TableDef.BuiltAs p.tables.entries tables)
include htables

theorem denotes_of_findTable {name : String} {e : Expr} (h : findTable tables name = .ok e) :
    p.Denotes name e := by
  rw [findTable_eq_ok_iff] at h
  rcases lookup_cases htables name with ⟨-, hnone⟩ | ⟨t, e', ht, he', hdenotes⟩
  · cases hnone.symm.trans h
  · obtain rfl := Option.some.inj (he'.symm.trans h)
    exact ⟨t, ht, hdenotes⟩

theorem exists_findTable_iff {name : String} :
    (∃ e, findTable tables name = .ok e) ↔ name ∈ p.tables.names := by
  simp only [findTable_eq_ok_iff, SortedMap.mem_names_iff, SortedMap.get?]
  rcases lookup_cases htables name with ⟨hnone, hnone'⟩ | ⟨t, e, ht, he, -⟩
  · simp [hnone, hnone']
  · simp [ht, he]

/-- The pieces are those of the plan, behind the relation that it starts from. -/
theorem denotes_flatSteps {pieces : List Expr.Piece}
    (hpieces : List.Forall₂ (Supplies tables) p.query.steps pieces) :
    List.Forall₂ (fun planned step => step.op = planned.op ∧ p.Denotes planned.operand step.operand)
      p.query.flatSteps (pieces.flatMap (·.steps)) :=
  (flatSteps_of_supplies hpieces).imp fun _ _ h => ⟨h.1, denotes_of_findTable htables h.2⟩

theorem declares_chainSchemas {start : Expr} {pieces : List Expr.Piece}
    (hstart : findTable tables p.query.source = .ok start)
    (hpieces : List.Forall₂ (Supplies tables) p.query.steps pieces) :
    List.Forall₂ p.Declares (p.query.source :: p.query.flatSteps.map (·.operand))
      (Expr.chainSchemas start (pieces.flatMap (·.steps))) := by
  have hdeclares {name : String} {e : Expr} (h : p.Denotes name e) : p.Declares name e.schema :=
    h.imp fun _ ht => ⟨ht.1, ht.2.declares⟩
  refine .cons (hdeclares (denotes_of_findTable htables hstart)) ?_
  exact List.forall₂_map_left_iff.2 (List.forall₂_map_right_iff.2
    ((denotes_flatSteps htables hpieces).imp fun _ _ h => hdeclares h.2))

/-- What the steps build is what they spell out. -/
theorem denotesCore_of_buildPieces {start core : Expr} {pieces : List Expr.Piece}
    (hstart : findTable tables p.query.source = .ok start)
    (hpieces : List.Forall₂ (Supplies tables) p.query.steps pieces)
    (h : Expr.buildPieces start pieces = .ok core) :
    p.DenotesCore core ∧ core.schema.names = start.schema.names := by
  have hsource := denotes_of_findTable htables hstart
  have hspine : start.leftmost = start ∧ start.flatSteps = [] := by
    obtain ⟨t, -, ht⟩ := hsource
    exact ht.spine
  have hextends := (Expr.Builds.foldlM Expr.Builds.piece pieces).result h
  generalize hflat : pieces.flatMap (·.steps) = flat at hextends
  cases hextends with
  | nil =>
    have hsteps : p.query.steps = [] := by
      by_contra hne
      exact flatSteps_ne_nil hpieces hne hflat
    exact ⟨.source hsteps hsource, rfl⟩
  | steps hne hchain hleft hsteps halign _ =>
    refine ⟨.chain ?_ hchain ?_ ?_, halign.names_eq⟩
    · intro hempty
      rw [hempty, List.forall₂_nil_left_iff] at hpieces
      exact hne (by rw [← hflat, hpieces]; rfl)
    · rwa [hleft, hspine.1]
    · rw [hsteps, hspine.2, List.nil_append, ← hflat]
      exact denotes_flatSteps htables hpieces

end Tables

theorem Declares.unique : Relator.RightUnique p.Declares := by
  rintro name schema schema' ⟨t, ht, h⟩ ⟨t', ht', h'⟩
  obtain rfl := Option.some.inj (ht.symm.trans ht')
  exact h.unique h'

/-! ## The whole plan -/

/-- How the expression of a plan comes about. -/
inductive Construction (p : PlanFile) (e : Expr) : Prop
  | of {tables : List (String × Expr)} {start core sorted : Expr} {pieces : List Expr.Piece}
      {keys : List SortKey}
      (htables : List.Forall₂ TableDef.BuiltAs p.tables.entries tables)
      (hstart : findTable tables p.query.source = .ok start)
      (hpieces : List.Forall₂ (Supplies tables) p.query.steps pieces)
      (hcore : Expr.buildPieces start pieces = .ok core)
      (hreads : List.Forall₂ SortKey.Reads p.query.orderBy keys)
      (hkeys : ∀ key ∈ keys, key.column ∈ core.schema.names) (hsorted : core.SortedBy keys sorted)
      (he : sorted.limitOffset p.query.limit p.query.offset = e)

theorem build_eq_ok_iff {e : Expr} : p.build = .ok e ↔ p.Construction e := by
  simp only [build, Except.bind_eq_ok_iff, Except.mapError_eq_ok_iff, buildTables_eq_ok_iff,
    buildSteps_eq_ok_iff, SortKey.ofEntries_eq_ok_iff, Expr.orderBy_eq_ok_iff_sortedBy]
  constructor
  · rintro ⟨tables, htables, start, hstart, core, ⟨pieces, hpieces, hcore⟩, keys, hreads, sorted,
      ⟨hkeys, hsorted⟩, h⟩
    exact .of htables hstart hpieces hcore hreads hkeys hsorted (Except.ok.inj h)
  · rintro ⟨htables, hstart, hpieces, hcore, hreads, hkeys, hsorted, rfl⟩
    exact ⟨_, htables, _, hstart, _, ⟨_, hpieces, hcore⟩, _, hreads, _, ⟨hkeys, hsorted⟩, rfl⟩

theorem Construction.sound {e : Expr} (h : p.Construction e) : p.Sound := by
  obtain ⟨htables, hstart, hpieces, hcore, hreads, hkeys, -, -⟩ := h
  obtain ⟨-, hnames⟩ := denotesCore_of_buildPieces htables hstart hpieces hcore
  have hschemas := declares_chainSchemas htables hstart hpieces
  refine ⟨fun entry hentry => ?_, ?_, fun s hs => ?_, fun hsteps => ?_, ?_⟩
  · obtain ⟨table, -, -, hdenotes⟩ := exists_of_mem_forall₂ htables.flip hentry
    exact TableDef.exists_denotes_iff.1 ⟨_, hdenotes⟩
  · exact (exists_findTable_iff htables).1 ⟨_, hstart⟩
  · obtain ⟨piece, -, hne, operands, hoperands, -⟩ := exists_of_mem_forall₂ hpieces.flip hs
    refine ⟨hne, fun name hname => ?_⟩
    obtain ⟨operand, -, hoperand⟩ := exists_of_mem_forall₂ hoperands.flip hname
    exact (exists_findTable_iff htables).1 ⟨operand, hoperand⟩
  · have hbuildable := ((Expr.Builds.foldlM Expr.Builds.piece _).succeeds _).1 ⟨_, hcore⟩
    obtain ⟨canonical, halign⟩ := hbuildable.resolve_left (flatSteps_ne_nil hpieces hsteps)
    exact ⟨_, canonical, hschemas, halign⟩
  · obtain ⟨⟩ | ⟨hdeclares, -⟩ := hschemas
    rw [hnames] at hkeys
    exact ⟨_, hdeclares, exists_forall₂_iff.1 ⟨_, hreads, hkeys⟩⟩

end PlanFile

end SetQuery
