import SetQuery.Resolved.Query

/-!
# How a statement is read

The operands of set operations are written one after the other without parentheses, and a backend
groups them again: an intersection binds tighter than a union or a difference, and otherwise
operators are taken from left to right. `Query.asRead` is the query that the backend sees, at every
depth of nesting.

**Theorem (`Query.parts_asRead`).** What a backend reads has the text that was written.
-/

namespace SetQuery

namespace Sql

/-! ## Grouping -/

/-- What has been read so far: the part that the last union or difference ends, with its operator,
and the intersections behind it. -/
structure Reading where
  before : Option (Query × SetOp)
  last : Query

namespace Reading

/-- The query if nothing follows. -/
def query : Reading → Query
  | ⟨none, last⟩ => last
  | ⟨some (left, op), last⟩ => .compound left op last

/-- What has been read after one more operator and its operand. -/
def push (r : Reading) (op : SetOp) (operand : Query) : Reading :=
  if op.kind = .intersect then ⟨r.before, .compound r.last op operand⟩
  else ⟨some (r.query, op), operand⟩

/-- An operand and several operators with their operands. -/
def ofSequence (first : Query) (rest : List (SetOp × Query)) : Reading :=
  rest.foldl (fun r next => r.push next.1 next.2) ⟨none, first⟩

theorem last_eq_query {r : Reading} (h : r.before = none) : r.last = r.query := by
  obtain ⟨before, last⟩ := r
  cases h
  rfl

theorem parts_push (d : Dialect) (r : Reading) (op : SetOp) (operand : Query) :
    (r.push op operand).query.parts d = r.query.parts d ++ .operator op :: operand.parts d := by
  unfold push
  split
  · obtain ⟨_ | ⟨left, op'⟩, last⟩ := r
    · rfl
    · simp only [query, Query.parts, List.append_assoc, List.cons_append]
  · rfl

/-- Grouping leaves the text as it is. -/
theorem parts_ofSequence (d : Dialect) (first : Query) (rest : List (SetOp × Query)) :
    (ofSequence first rest).query.parts d =
      first.parts d ++ rest.flatMap fun next => .operator next.1 :: next.2.parts d := by
  suffices h : ∀ r : Reading, (rest.foldl (fun r next => r.push next.1 next.2) r).query.parts d =
      r.query.parts d ++ rest.flatMap fun next => .operator next.1 :: next.2.parts d from h _
  intro r
  induction rest generalizing r with
  | nil => exact (List.append_nil _).symm
  | cons next rest ih =>
    rw [List.foldl_cons, ih, parts_push, List.flatMap_cons, List.append_assoc]

end Reading

namespace Query

/-- The operands of a query and the operators between them, as they are written. -/
def sequence : Query → Query × List (SetOp × Query)
  | .verbatim sql => (.verbatim sql, [])
  | .ofTable head table label? => (.ofTable head table label?, [])
  | .ofQuery head source label =>
    (.ofQuery head (Reading.ofSequence source.sequence.1 source.sequence.2).query label, [])
  | .compound left op right =>
    (left.sequence.1, left.sequence.2 ++ (op, right.sequence.1) :: right.sequence.2)

/-- The query after all of it has been read. -/
def reading (q : Query) : Reading := .ofSequence q.sequence.1 q.sequence.2

/-- The query as a backend reads it. -/
def asRead (q : Query) : Query := q.reading.query

theorem parts_sequence (d : Dialect) (q : Query) : q.sequence.1.parts d ++
    (q.sequence.2.flatMap fun next => .operator next.1 :: next.2.parts d) = q.parts d := by
  induction q with
  | verbatim sql => exact List.append_nil _
  | ofTable head table label? => exact List.append_nil _
  | ofQuery head source label ih =>
    simp only [sequence, List.flatMap_nil, List.append_nil, parts, Reading.parts_ofSequence, ih]
  | compound left op right ihl ihr =>
    simp only [sequence, List.flatMap_append, List.flatMap_cons, parts, ← ihl, ← ihr,
      List.append_assoc, List.cons_append]

/-- **What is read has the text that was written.** -/
theorem parts_asRead (d : Dialect) (q : Query) : q.asRead.parts d = q.parts d := by
  rw [asRead, reading, Reading.parts_ofSequence, parts_sequence]

end Query

end Sql

end SetQuery
