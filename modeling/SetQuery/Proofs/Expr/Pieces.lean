import SetQuery.Proofs.Expr.Resolution
import SetQuery.Proofs.Sql.Names

/-!
# Building a chain in pieces

A list of steps may be cut into pieces, each built on the result of the one before by method calls,
by a variadic call or by a builder.

**Theorem (`buildPieces_agrees`).** This succeeds exactly when one builder call with the whole list
does, and then both expressions have the same schema and the same operands and operations, and
compile to the same result on every backend.

The expressions differ as trees, and the inner chains carry narrower schemas. What they share is the
relation `Extends`: the same left spine, the canonical schema of that spine, and the same set of
column names, from which the names that the statement generates are chosen.
-/

namespace SetQuery.Expr

/-! ## Pieces -/

/-- A way to extend an expression by consecutive steps. -/
inductive Piece
  /-- One call for each step, each on the result of the one before. -/
  | methods (steps : List (Step Expr))
  /-- One call with a single operation and several operands. -/
  | variadic (op : SetOp) (operands : List Expr)
  /-- A builder that is given all steps. -/
  | builder (steps : List (Step Expr))

/-- The steps of a piece. -/
def Piece.steps : Piece → List (Step Expr)
  | .methods steps => steps
  | .variadic op operands => operands.map fun operand => ⟨op, operand⟩
  | .builder steps => steps

/-- The expression extended by a piece. -/
def Piece.build (base : Expr) : Piece → Except PlanError Expr
  | .methods steps => steps.foldlM (fun e step => combineTwo step.op e step.operand) base
  | .variadic op operands => combine op base operands
  | .builder steps => chainOf base steps

/-- The expression extended by one piece after the other. -/
def buildPieces (base : Expr) (pieces : List Piece) : Except PlanError Expr :=
  pieces.foldlM Piece.build base

/-! ## Column names -/

theorem stepColumnNames_append (l r : List (Step Expr)) :
    stepColumnNames (l ++ r) = stepColumnNames l ++ stepColumnNames r := by
  induction l with
  | nil => rfl
  | cons step l ih => simp [stepColumnNames, ih]

/-! ## Extending an expression by steps -/

/-- What an expression extended by steps has in common however it was built. -/
inductive Extends (base : Expr) : List (Step Expr) → Expr → Prop
  | nil : Extends base [] base
  | steps {steps : List (Step Expr)} {e : Expr} :
      steps ≠ [] → e.isChain = true → e.leftmost = base.leftmost →
      e.flatSteps = base.flatSteps ++ steps → AlignsTo (chainSchemas base steps) e.schema →
      (∀ x, x ∈ e.columnNames ↔ x ∈ base.columnNames ∨ x ∈ stepColumnNames steps) →
      Extends base steps e

variable {base e e' : Expr} {l r steps : List (Step Expr)}

theorem chainSchemas_append : chainSchemas base (l ++ r) =
    base.schema :: (l.map (·.operand.schema) ++ r.map (·.operand.schema)) := by
  rw [chainSchemas, List.map_append]

theorem Extends.trans (hl : Extends base l e) (hr : Extends e r e') :
    Extends base (l ++ r) e' := by
  cases hl with
  | nil => exact hr
  | steps hne hchain hleft hflat halign hnames =>
    cases hr with
    | nil =>
      rw [List.append_nil]
      exact .steps hne hchain hleft hflat halign hnames
    | steps hne' hchain' hleft' hflat' halign' hnames' =>
      refine .steps (by simp [hne]) hchain' (hleft'.trans hleft) ?_ ?_ fun x => ?_
      · rw [hflat', hflat, List.append_assoc]
      · rw [chainSchemas_append]
        exact alignsTo_append_iff.2 ⟨e.schema, halign, halign'⟩
      · rw [hnames', hnames, stepColumnNames_append, List.mem_append, or_assoc]

theorem extends_of_chainOf (h : chainOf base steps = .ok e) : Extends base steps e := by
  rcases chainOf_eq_ok_iff.1 h with ⟨rfl, rfl⟩ | ⟨hne, schema, halign, rfl⟩
  · exact .nil
  · refine .steps hne rfl rfl rfl halign fun x => ?_
    -- the schema of the chain brings no new names
    have hnames : x ∈ schema.names → x ∈ base.columnNames := fun hx =>
      names_subset_columnNames base (halign.names_eq ▸ hx)
    simp only [columnNames, List.mem_append]
    tauto

/-- Everything that is read off both expressions agrees. -/
theorem Extends.agrees (h : Extends base steps e) (h' : Extends base steps e') :
    e.schema = e'.schema ∧ e.isChain = e'.isChain ∧ e.operands = e'.operands ∧ e.ops = e'.ops ∧
      ∀ c policy, e.compileFor c policy = e'.compileFor c policy := by
  cases h with
  | nil =>
    cases h' with
    | nil => exact ⟨rfl, rfl, rfl, rfl, fun _ _ => rfl⟩
    | steps hne => exact absurd rfl hne
  | steps hne hchain hleft hflat halign hnames =>
    cases h' with
    | nil => exact absurd rfl hne
    | steps _ hchain' hleft' hflat' halign' hnames' =>
      have hleft := hleft.trans hleft'.symm
      have hflat := hflat.trans hflat'.symm
      have hschema := halign.unique halign'
      refine ⟨hschema, hchain.trans hchain'.symm, ?_, ?_, fun c policy => ?_⟩
      · rw [operands, operands, hleft, hflat]
      · rw [ops, ops, hflat]
      · have hreserved : ∀ x, x ∈ e.columnNames ↔ x ∈ e'.columnNames := fun x =>
          (hnames x).trans (hnames' x).symm
        simp only [compileFor, resolve_congr hchain hchain' hleft hflat,
          Resolved.toQuery_congr hreserved, hschema]

/-! ## When building succeeds -/

/-- The steps align behind the base. -/
def Buildable (base : Expr) (steps : List (Step Expr)) : Prop :=
  steps = [] ∨ ∃ schema, AlignsTo (chainSchemas base steps) schema

theorem exists_chainOf_iff : (∃ e, chainOf base steps = .ok e) ↔ Buildable base steps := by
  constructor
  · rintro ⟨e, h⟩
    rcases chainOf_eq_ok_iff.1 h with ⟨hs, -⟩ | ⟨-, schema, halign, -⟩
    · exact .inl hs
    · exact .inr ⟨schema, halign⟩
  · intro h
    by_cases hne : steps = []
    · exact ⟨base, chainOf_eq_ok_iff.2 (.inl ⟨hne, rfl⟩)⟩
    · obtain ⟨schema, halign⟩ := h.resolve_left hne
      exact ⟨_, chainOf_eq_ok_iff.2 (.inr ⟨hne, schema, halign, rfl⟩)⟩

theorem Buildable.left (h : Buildable base (l ++ r)) : Buildable base l := by
  rcases h with h | ⟨schema, halign⟩
  · exact .inl (List.append_eq_nil_iff.1 h).1
  · rw [chainSchemas_append] at halign
    obtain ⟨m, hm, -⟩ := alignsTo_append_iff.1 halign
    exact .inr ⟨m, hm⟩

theorem Extends.buildable_append_iff (h : Extends base l e) :
    Buildable base (l ++ r) ↔ Buildable e r := by
  cases h with
  | nil => rfl
  | steps hne _ _ _ halign _ =>
    constructor
    · rintro (h | ⟨schema, hwhole⟩)
      · exact absurd (List.append_eq_nil_iff.1 h).1 hne
      · rw [chainSchemas_append] at hwhole
        obtain ⟨m, hm, hr⟩ := alignsTo_append_iff.1 hwhole
        obtain rfl := halign.unique hm
        exact .inr ⟨schema, hr⟩
    · rintro (rfl | ⟨schema, hr⟩)
      · rw [List.append_nil]
        exact .inr ⟨e.schema, halign⟩
      · refine .inr ⟨schema, ?_⟩
        rw [chainSchemas_append]
        exact alignsTo_append_iff.2 ⟨e.schema, halign, hr⟩

/-- The function extends any expression by the steps if they align behind it. -/
structure Builds (f : Expr → Except PlanError Expr) (steps : List (Step Expr)) : Prop where
  result : ∀ {base e}, f base = .ok e → Extends base steps e
  succeeds : ∀ base, (∃ e, f base = .ok e) ↔ Buildable base steps

namespace Builds

variable {f g : Expr → Except PlanError Expr}

theorem chainOf (steps : List (Step Expr)) : Builds (Expr.chainOf · steps) steps where
  result := extends_of_chainOf
  succeeds := fun _ => exists_chainOf_iff

theorem bind (hf : Builds f l) (hg : Builds g r) :
    Builds (fun base => f base >>= g) (l ++ r) where
  result h := by
    obtain ⟨m, hm, h⟩ := Except.bind_eq_ok_iff.1 h
    exact (hf.result hm).trans (hg.result h)
  succeeds base := by
    simp only [Except.bind_eq_ok_iff]
    constructor
    · rintro ⟨e, m, hm, h⟩
      exact (hf.result hm).buildable_append_iff.2 ((hg.succeeds m).1 ⟨e, h⟩)
    · intro h
      obtain ⟨m, hm⟩ := (hf.succeeds base).2 h.left
      obtain ⟨e, he⟩ := (hg.succeeds m).2 ((hf.result hm).buildable_append_iff.1 h)
      exact ⟨e, m, hm, he⟩

theorem foldlM {α : Type} {f : Expr → α → Except PlanError Expr} {steps : α → List (Step Expr)}
    (hf : ∀ a, Builds (f · a) (steps a)) (list : List α) :
    Builds (list.foldlM f) (list.flatMap steps) := by
  induction list with
  | nil => exact chainOf []
  | cons a list ih => exact (hf a).bind ih

theorem piece (p : Piece) : Builds (Piece.build · p) p.steps := by
  cases p with
  | methods steps =>
    have h := foldlM (fun step : Step Expr => chainOf [step]) steps
    rwa [List.flatMap_singleton'] at h
  | variadic op operands => exact chainOf _
  | builder steps => exact chainOf steps

end Builds

/-- **How a chain is built does not matter.** -/
theorem buildPieces_agrees (base : Expr) (pieces : List Piece) :
    ((∃ e, buildPieces base pieces = .ok e) ↔
      ∃ e, chainOf base (pieces.flatMap (·.steps)) = .ok e) ∧
    ∀ e e', buildPieces base pieces = .ok e →
      chainOf base (pieces.flatMap (·.steps)) = .ok e' →
      e.schema = e'.schema ∧ e.isChain = e'.isChain ∧ e.operands = e'.operands ∧
        e.ops = e'.ops ∧ ∀ c policy, e.compileFor c policy = e'.compileFor c policy := by
  have hpieces := Builds.foldlM Builds.piece pieces
  refine ⟨(hpieces.succeeds base).trans exists_chainOf_iff.symm, fun e e' he he' => ?_⟩
  exact (hpieces.result he).agrees (extends_of_chainOf he')

theorem nested_agrees_with_flat : ∃ flat, chainOf (counter "a" .i16)
      [⟨⟨.union, .distinct⟩, counter "b" .i32⟩, ⟨⟨.intersect, .all⟩, counter "c" .i64⟩] = .ok flat ∧
    nested.operands = flat.operands ∧
      ∀ c policy, nested.compileFor c policy = flat.compileFor c policy := by
  obtain ⟨-, -, hoperands, -, hcompile⟩ := (buildPieces_agrees (counter "a" .i16)
    [.methods [⟨⟨.union, .distinct⟩, counter "b" .i32⟩],
      .variadic ⟨.intersect, .all⟩ [counter "c" .i64]]).2 nested _ rfl rfl
  exact ⟨_, rfl, hoperands, hcompile⟩

end SetQuery.Expr
