import SetQuery.Proofs.Renaming.Expr

/-!
# Renaming statements

Where a name that a user chose stands in a statement, it stands as a part of its own, so new names
replace these parts and nothing else (`Query.parts_rename`).

**Theorem (`Resolved.toQuery_rename`).** The query for a renamed expression is the renamed query, if
neither the old nor the new names look like generated ones. Aliases and helper columns are numbered
past the names of columns, so a name that looks like one of them would change the numbers.
-/

namespace SetQuery

namespace Sql

/-! ## New names in a statement -/

/-- The part with the new name if it is a column or a table. -/
def Part.rename (ρ : Renaming) : Part → Part
  | .column name => .column (ρ.column name)
  | .table name => .table (ρ.table name)
  | part => part

/-- The item with new names for its columns; generated names stay. -/
def SelectItem.rename (ρ : Renaming) : SelectItem → SelectItem
  | .every => .every
  | .column name => .column (ρ.column name)
  | .cast name type => .cast (ρ.column name) type
  | .rowNumber columns name => .rowNumber (columns.map ρ.column) name

/-- The head with new names for its columns. -/
def Head.rename (ρ : Renaming) (head : Head) : Head :=
  { head with items := head.items.map (·.rename ρ), orderBy := head.orderBy.map (·.rename ρ) }

/-- The query with new names for its tables and columns. -/
def Query.rename (ρ : Renaming) : Query → Query
  | .verbatim sql => .verbatim sql
  | .ofTable head table label? => .ofTable (head.rename ρ) (ρ.table table) label?
  | .ofQuery head source label => .ofQuery (head.rename ρ) (source.rename ρ) label
  | .compound left op right => .compound (left.rename ρ) op (right.rename ρ)

section

variable (ρ : Renaming)

theorem commaSeparated_rename (lists : List (List Part)) :
    (commaSeparated lists).map (·.rename ρ) =
      commaSeparated (lists.map (List.map (·.rename ρ))) := by
  induction lists with
  | nil => rfl
  | cons parts rest ih =>
    cases rest with
    | nil => rfl
    | cons next rest =>
      rw [commaSeparated, List.map_append, List.map_cons, ih]
      · rfl
      · exact List.cons_ne_nil next rest

theorem columnParts_rename (names : List String) :
    (columnParts names).map (·.rename ρ) = columnParts (names.map ρ.column) := by
  rw [columnParts, commaSeparated_rename, List.map_map, columnParts, List.map_map]
  rfl

theorem SelectItem.parts_rename (d : Dialect) (item : SelectItem) :
    (item.rename ρ).parts d = (item.parts d).map (·.rename ρ) := by
  cases item with
  | every => rfl
  | column name => rfl
  | cast name type => rfl
  | rowNumber columns name =>
    rw [SelectItem.rename, parts, parts]
    simp only [List.map_append, columnParts_rename]
    rfl

theorem orderByParts_rename (keys : List SortKey) :
    orderByParts (keys.map (·.rename ρ)) =
      (orderByParts keys).map (List.map (·.rename ρ)) := by
  cases keys with
  | nil => rfl
  | cons key keys =>
    have hparts : sortKeyParts ∘ SortKey.rename ρ = List.map (Part.rename ρ) ∘ sortKeyParts := rfl
    simp only [orderByParts, List.map_cons, List.isEmpty_cons, Bool.false_eq_true, if_false,
      Option.map_some, commaSeparated_rename, List.map_map, hparts]
    rfl

theorem orderParts_rename (keys : Option (List Part)) (needsOrder : Bool) :
    Select.orderParts (keys.map (List.map (·.rename ρ))) needsOrder =
      (Select.orderParts keys needsOrder).map (·.rename ρ) := by
  cases keys with
  | some keys => rfl
  | none => cases needsOrder <;> rfl

theorem leadParts_rename (distinct : Bool) (top : Option Nat) :
    (Select.leadParts distinct top).map (·.rename ρ) = Select.leadParts distinct top := by
  cases distinct <;> cases top <;> rfl

/-- A SELECT with new names is laid out as it was. -/
theorem Head.parts_select_rename (d : Dialect) (head : Head) (source : List Part) :
    ((head.rename ρ).select d (source.map (·.rename ρ))).parts d =
      ((head.select d source).parts d).map (·.rename ρ) := by
  have hitems : ((head.rename ρ).select d (source.map (·.rename ρ))).projection =
      (head.select d source).projection.map (·.rename ρ) := by
    rw [select, select, commaSeparated_rename, List.map_map, Head.rename, List.map_map]
    exact congrArg commaSeparated
      (List.map_congr_left fun item _ => SelectItem.parts_rename ρ d item)
  have horder : ((head.rename ρ).select d (source.map (·.rename ρ))).orderBy =
      (head.select d source).orderBy.map (List.map (·.rename ρ)) :=
    orderByParts_rename ρ head.orderBy
  rw [Select.parts, Select.parts, hitems, horder]
  simp only [List.map_append, List.map_cons, List.map_map, leadParts_rename, ← orderParts_rename]
  rfl

/-- **New names replace the parts that are names.** -/
theorem Query.parts_rename (d : Dialect) (q : Query) :
    (q.rename ρ).parts d = (q.parts d).map (·.rename ρ) := by
  induction q with
  | verbatim sql => rfl
  | ofTable head table label? =>
    rw [parts, ← Head.parts_select_rename]
    cases label? <;> rfl
  | ofQuery head source label ih =>
    rw [rename, parts, parts, ← Head.parts_select_rename, ih]
    simp [Part.rename, aliasParts]
  | compound left op right ihl ihr =>
    rw [rename, parts, parts, ihl, ihr, List.map_append]
    rfl

end

/-! ## Generated names -/

/-- The name may be the alias of a relation or a helper column. -/
def IsGenerated (name : String) : Prop := ∃ n, name = aliasName n ∨ name = helperName n

/-- None of the names looks like a generated one. -/
def NoneGenerated (names : List String) : Prop := ∀ name ∈ names, ¬ IsGenerated name

/-- Generated names begin in one way. -/
theorem IsGenerated.isPrefix {name : String} (h : IsGenerated name) :
    "_sw_".toList <+: name.toList := by
  obtain ⟨n, rfl | rfl⟩ := h
  · rw [aliasName, String.toList_append]
    exact List.prefix_append _ _
  · cases n with
    | zero => decide
    | succ n =>
      rw [helperName, String.toList_append]
      exact List.IsPrefix.trans (by decide) (List.prefix_append _ _)

variable {reserved reserved' : List String}

theorem freshAlias_of_noneGenerated (h : NoneGenerated reserved) (n : Nat) :
    freshAlias reserved n = (aliasName n, n + 1) := by
  have hfree : freeNumber aliasName reserved (reserved.length + 1) n = n := by
    rw [freeNumber, if_neg fun hmem => h _ hmem ⟨n, .inl rfl⟩]
  rw [freshAlias, hfree]

theorem helperColumn_of_noneGenerated (h : NoneGenerated reserved) :
    helperColumn reserved = helperName 0 := by
  rw [helperColumn, freeNumber, if_neg fun hmem => h _ hmem ⟨0, .inr rfl⟩]

theorem Query.wrap_of_noneGenerated (h : NoneGenerated reserved) (head : Head)
    (q : Query) (next : Nat) :
    q.wrap reserved head next = (.ofQuery head q (aliasName next), next + 1) := by
  rw [wrap, freshAlias_of_noneGenerated h]

end Sql

open Sql

/-! ## Steps -/

/-- The step with new names in its query. -/
def QueryStep.rename (ρ : Renaming) (s : QueryStep) : QueryStep :=
  { s with right := s.right.rename ρ }

/-- The progress with new names in its query. -/
def Progress.rename (ρ : Renaming) (p : Progress) : Progress :=
  { p with query := p.query.rename ρ }

variable (ρ : Renaming) {reserved reserved' : List String}

theorem Sql.Head.columns_rename (columns : List String) :
    Head.columns (columns.map ρ.column) = (Head.columns columns).rename ρ := by
  simp [Head.columns, Head.rename, SelectItem.rename]

theorem numberingHead_rename (h : NoneGenerated reserved)
    (h' : NoneGenerated reserved') (columns : List String) :
    numberingHead reserved' (columns.map ρ.column) =
      (numberingHead reserved columns).rename ρ := by
  simp [numberingHead, Head.rename, SelectItem.rename, helperColumn_of_noneGenerated h,
    helperColumn_of_noneGenerated h']

theorem readingHead_rename (columns : List ColumnRead) :
    readingHead (columns.map (·.rename ρ)) = (readingHead columns).rename ρ := by
  have hitem : ∀ c : ColumnRead, (c.rename ρ).item = c.item.rename ρ := by
    intro c
    unfold ColumnRead.item ColumnRead.rename
    cases c.cast <;> rfl
  simp [readingHead, Head.rename, hitem]

theorem Progress.step_rename (h : NoneGenerated reserved)
    (h' : NoneGenerated reserved') (columns : List String) (p : Progress)
    (s : QueryStep) : (p.rename ρ).step reserved' (columns.map ρ.column) (s.rename ρ) =
      (p.step reserved columns s).rename ρ := by
  have hcolumns := Head.columns_rename ρ columns
  have hnumbering := numberingHead_rename ρ h h' columns
  cases hm : s.method with
  | native =>
    simp only [step, QueryStep.rename, hm, native, Query.wrap_of_noneGenerated h,
      Query.wrap_of_noneGenerated h', hcolumns, Progress.rename]
    split <;> rfl
  | emulated emulation =>
    cases emulation with
    | rowNumber =>
      simp only [step, QueryStep.rename, hm, numbered, Query.wrap_of_noneGenerated h,
        Query.wrap_of_noneGenerated h', hcolumns, hnumbering, Progress.rename]
      rfl
    | distinctOverUnionAll =>
      simp only [step, QueryStep.rename, hm, deduplicated, Query.wrap_of_noneGenerated h,
        Query.wrap_of_noneGenerated h', hcolumns, Progress.rename]
      rfl

theorem Progress.foldl_rename (h : NoneGenerated reserved)
    (h' : NoneGenerated reserved') (columns : List String) (p : Progress)
    (steps : List QueryStep) :
    (steps.map (·.rename ρ)).foldl (Progress.step reserved' (columns.map ρ.column)) (p.rename ρ) =
      (steps.foldl (Progress.step reserved columns) p).rename ρ := by
  induction steps generalizing p with
  | nil => rfl
  | cons s steps ih => rw [List.map_cons, List.foldl_cons, step_rename ρ h h', ih, List.foldl_cons]

/-! ## Queries -/

namespace Resolved

variable {ρ}

mutual

/-- **The query for a renamed expression is the renamed query.** -/
theorem toQuery_rename (h : NoneGenerated reserved)
    (h' : NoneGenerated reserved') : ∀ (r : Resolved) (next : Nat),
      (r.rename ρ).toQuery reserved' next = (r.toQuery reserved next).map (·.rename ρ) id
  | .table columns name, next => by
    rw [rename, toQuery, Head.columns_rename]
    rfl
  | .query sql, next => rfl
  | .page input keys limit offset, next => by
    simp only [rename, toQuery, toQuery_rename h h' input, Prod.map_fst, Prod.map_snd, id,
      Query.wrap_of_noneGenerated h, Query.wrap_of_noneGenerated h']
    rfl
  | .chain columns first rest, next => by
    simp only [rename, toQuery, operandQuery_rename h h' first, restQueries_rename h h' rest,
      Prod.map_fst, Prod.map_snd, id]
    have hfold := Progress.foldl_rename ρ h h' columns
      ⟨(operandQuery reserved first next).1, false,
        (restQueries reserved rest (operandQuery reserved first next).2).2⟩
      (restQueries reserved rest (operandQuery reserved first next).2).1
    rw [Progress.rename] at hfold
    rw [hfold]
    rfl

theorem operandQuery_rename (h : NoneGenerated reserved)
    (h' : NoneGenerated reserved') : ∀ (operand : Operand Resolved) (next : Nat),
      operandQuery reserved' (renameOperand ρ operand) next =
        (operandQuery reserved operand next).map (·.rename ρ) id
  | .table name columns, next => by
    rw [renameOperand, operandQuery, operandQuery, freshAlias_of_noneGenerated h,
      freshAlias_of_noneGenerated h', readingHead_rename]
    rfl
  | .relation input dropped columns, next => by
    simp only [renameOperand, operandQuery, toQuery_rename h h' input, Prod.map_fst, Prod.map_snd,
      id, Query.wrap_of_noneGenerated h, Query.wrap_of_noneGenerated h', readingHead_rename]
    rfl

theorem restQueries_rename (h : NoneGenerated reserved)
    (h' : NoneGenerated reserved') :
    ∀ (rest : List (ResolvedStep Resolved)) (next : Nat),
      restQueries reserved' (renameRest ρ rest) next =
        (restQueries reserved rest next).map (List.map (·.rename ρ)) id
  | [], next => rfl
  | ⟨op, method, operand⟩ :: rest, next => by
    simp only [renameRest, restQueries, operandQuery_rename h h' operand,
      restQueries_rename h h' rest, Prod.map_fst, Prod.map_snd, id]
    rfl

end

end Resolved

end SetQuery
