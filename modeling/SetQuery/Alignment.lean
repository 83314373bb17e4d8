import SetQuery.PlanError

/-!
# Aligning schemas

The operands of a set operation are matched by column name. The first operand fixes the order of
the columns; the type of a column is the one to which its types in all operands widen, and its
nullability combines those of all operands. `align` gives this canonical schema and, for each
operand, how its columns map to the canonical ones.

Main statement: `names_merge` (merging changes types and nullabilities, never names or their
order), by which the result of a merge is a schema again.
-/

namespace SetQuery

namespace Schema

/-- The schema with other columns of the same names. -/
def withColumns (s : Schema) (columns : List Column)
    (h : columns.map (·.name) = s.columns.map (·.name)) : Schema where
  columns := columns
  nodup := h ▸ s.nodup
  named := fun c hc hname => by
    have hm : c.name ∈ s.columns.map (·.name) := h ▸ List.mem_map.2 ⟨c, hc, rfl⟩
    obtain ⟨d, hd, heq⟩ := List.mem_map.1 hm
    exact s.named d hd (heq.trans hname)

/-! ## Merging a schema into another -/

/-- The column that takes its values from both columns. -/
def mergeColumn (c found : Column) : Except MismatchReason Column :=
  match c.type.widen found.type with
  | some type => .ok ⟨c.name, type, c.nullability.combine found.nullability⟩
  | none => .error (.incompatible c.name c.type found.type)

/-- The columns merged with those of the same names in a schema. -/
def mergeColumns (s : Schema) : List Column → Except MismatchReason (List Column)
  | [] => .ok []
  | c :: rest =>
    match s.find? c.name with
    | none => .error (.missing [c.name])
    | some found =>
      match mergeColumn c found with
      | .error reason => .error reason
      | .ok merged => (mergeColumns s rest).map (merged :: ·)

theorem name_mergeColumn {c found merged : Column} (h : mergeColumn c found = .ok merged) :
    merged.name = c.name := by
  unfold mergeColumn at h
  split at h <;> cases h
  rfl

theorem names_mergeColumns {s : Schema} {columns merged : List Column}
    (h : mergeColumns s columns = .ok merged) :
    merged.map (·.name) = columns.map (·.name) := by
  induction columns generalizing merged with
  | nil => cases h; rfl
  | cons c rest ih =>
    rw [mergeColumns] at h
    split at h
    · cases h
    · split at h
      · cases h
      · next hm =>
        cases hr : mergeColumns s rest with
        | error reason => rw [hr] at h; cases h
        | ok tail =>
          rw [hr] at h
          cases h
          simp [name_mergeColumn hm, ih hr]

/-- The names of the first schema that the second lacks, in the first one's order. -/
def missingFrom (s t : Schema) : List String := s.names.filter (· ∉ t.names)

/-- The schema with the columns of another merged into its own. -/
def merge (s t : Schema) : Except MismatchReason Schema :=
  if s.missingFrom t ≠ [] then .error (.missing (s.missingFrom t))
  else if t.missingFrom s ≠ [] then .error (.extra (t.missingFrom s))
  else match h : mergeColumns t s.columns with
    | .error reason => .error reason
    | .ok columns => .ok (s.withColumns columns (names_mergeColumns h))

theorem names_merge {s t merged : Schema} (h : s.merge t = .ok merged) :
    merged.names = s.names := by
  unfold merge at h
  split at h
  · cases h
  · split at h
    · cases h
    · split at h
      · cases h
      · next hm => cases h; exact names_mergeColumns hm

/-- The schema with the columns of several others merged into it one after the other. The first
schema and the position of the next operand are there for the report of a mismatch. -/
def mergeAll (first : Schema) (merged : Schema) (position : Nat) :
    List Schema → Except Mismatch Schema
  | [] => .ok merged
  | s :: rest =>
    match merged.merge s with
    | .error reason => .error ⟨position, first, s, reason⟩
    | .ok merged => mergeAll first merged (position + 1) rest

end Schema

/-! ## Alignment -/

/-- How the columns of an operand map to the canonical ones. -/
structure OperandAlignment where
  /-- The canonical position of each column of the operand. -/
  permutation : List Nat
  /-- The operand's position of each canonical column. -/
  projection : List Nat
  /-- The operand's type of each canonical column. -/
  declared : List SqlType
deriving DecidableEq, Repr, Inhabited

/-- The canonical schema of some operands, and how each of them maps to it. -/
structure Alignment where
  canonical : Schema
  operands : List OperandAlignment
deriving DecidableEq, Repr, Inhabited

namespace OperandAlignment

/-- How a schema maps to the canonical one. -/
def ofSchema (canonical s : Schema) : OperandAlignment where
  permutation := s.names.filterMap canonical.position?
  projection := canonical.names.filterMap s.position?
  declared := canonical.names.filterMap fun name => (s.find? name).map (·.type)

/-- For each canonical column, whether the operand's type differs from the canonical one. -/
def casts (o : OperandAlignment) (canonical : Schema) : List Bool :=
  List.zipWith (fun type c => type != c.type) o.declared canonical.columns

/-- Whether the operand has the canonical columns with the canonical types in their order. -/
def isIdentity (o : OperandAlignment) (canonical : Schema) : Bool :=
  o.permutation == List.range o.permutation.length && !(o.casts canonical).any id

end OperandAlignment

/-- The first schema without columns, and its position. -/
def firstEmpty? (schemas : List Schema) : Option (Schema × Nat) :=
  schemas.zipIdx.find? (·.1.isEmpty)

/-- The alignment of a list of schemas. -/
def align : List Schema → Except Mismatch Alignment
  | [] => .ok ⟨.empty, []⟩
  | first :: rest =>
    match firstEmpty? (first :: rest) with
    | some (s, position) => .error ⟨position, first, s, .noColumns⟩
    | none =>
      (Schema.mergeAll first first 1 rest).map fun canonical =>
        ⟨canonical, (first :: rest).map (OperandAlignment.ofSchema canonical)⟩

end SetQuery
