import SetQuery.PlanFile.Build
import SetQuery.Proofs.Expr.Construction

/-!
# The tables of a plan

A sort key and a table of a plan are given by what they spell out (`SortKey.Reads`,
`TableDef.Denotes`), apart from the order in which faults are looked for.

**Theorem (`TableDef.build_eq_ok_iff`, `TableDef.exists_denotes_iff`).** Building a table gives the
expression that it spells out, and there is one exactly when the table is sound.
-/

namespace SetQuery

/-! ## Sort keys -/

/-- The words of a sort key: a column, and perhaps a direction in any case. -/
inductive SortKey.Written : List String → SortKey → Prop
  | bare (column : String) : Written [column] ⟨column, true⟩
  | directed (column : String) {direction : String} (ascending : Bool)
      (h : Text.asciiLower direction = if ascending then "asc" else "desc") :
      Written [column, direction] ⟨column, ascending⟩

/-- The entry spells out the sort key. -/
def SortKey.Reads (entry : String) (key : SortKey) : Prop :=
  Written ((Text.words entry.toList).map String.ofList) key

theorem ascending?_eq_some_iff {direction : String} {ascending : Bool} :
    ascending? direction = some ascending ↔ direction = if ascending then "asc" else "desc" := by
  unfold ascending?
  split
  · cases ascending <;> simp
  · cases ascending <;> simp
  · next hasc hdesc =>
    cases ascending with
    | false => simpa using hdesc
    | true => simpa using hasc

theorem SortKey.ofEntry_eq_ok_iff {entry : String} {key : SortKey} :
    ofEntry entry = .ok key ↔ Reads entry key := by
  unfold ofEntry Reads
  generalize (Text.words entry.toList).map String.ofList = words
  constructor
  · intro h
    split at h
    · cases h
    · obtain rfl := Except.ok.inj h
      exact .bare _
    · next column direction rest =>
      simp only at h
      split at h
      · cases h
      · next ascending hdirection =>
        split at h
        · next hrest =>
          obtain rfl := Except.ok.inj h
          obtain rfl := List.isEmpty_iff.1 hrest
          exact .directed _ _ (ascending?_eq_some_iff.1 hdirection)
        · cases h
  · rintro (_ | ⟨column, ascending, h⟩)
    · rfl
    · simp [ascending?_eq_some_iff.2 h]

theorem SortKey.ofEntries_eq_ok_iff {entries : List String} {keys : List SortKey} :
    ofEntries entries = .ok keys ↔ List.Forall₂ Reads entries keys := by
  simp only [ofEntries, Except.mapM_eq_ok_iff, ofEntry_eq_ok_iff]

/-- The expression with an ordering around it if there are keys. -/
inductive Expr.SortedBy (input : Expr) : List SortKey → Expr → Prop
  | unsorted : SortedBy input [] input
  | sorted {keys : List SortKey} (h : keys ≠ []) : SortedBy input keys (.sort input keys)

theorem Expr.orderBy_eq_ok_iff_sortedBy {input e : Expr} {keys : List SortKey} :
    input.orderBy keys = .ok e ↔
      (∀ key ∈ keys, key.column ∈ input.schema.names) ∧ input.SortedBy keys e := by
  rw [orderBy_eq_ok_iff]
  constructor
  · rintro (⟨rfl, rfl⟩ | ⟨hne, hkeys, rfl⟩)
    · exact ⟨fun _ hkey => absurd hkey List.not_mem_nil, .unsorted⟩
    · exact ⟨hkeys, .sorted hne⟩
  · rintro ⟨hkeys, _ | hne⟩
    · exact .inl ⟨rfl, rfl⟩
    · exact .inr ⟨hne, hkeys, rfl⟩

theorem Expr.exists_sortedBy (input : Expr) (keys : List SortKey) :
    ∃ e, input.SortedBy keys e := by
  by_cases h : keys = []
  · subst h
    exact ⟨_, .unsorted⟩
  · exact ⟨_, .sorted h⟩

theorem Expr.SortedBy.schema_eq {input e : Expr} {keys : List SortKey}
    (h : input.SortedBy keys e) : e.schema = input.schema := by
  cases h <;> rfl

/-! ## Tables -/

namespace TableDef

/-- What the table says it reads from. -/
inductive Origin (t : TableDef) : Source → Prop
  | table {name : String} (h : t.table = some name) (hsql : t.sql = none) : Origin t (.table name)
  | query {sql : String} (h : t.sql = some sql) (htable : t.table = none) : Origin t (.query sql)

/-- The table spells out the schema. -/
def Declares (t : TableDef) (schema : Schema) : Prop := schema.columns = t.columns.map (·.column)

/-- The table spells out the expression: its source with the declared columns, ordered as it
says. -/
inductive Denotes (t : TableDef) (e : Expr) : Prop
  | of {origin : Source} {schema : Schema} {keys : List SortKey} (horigin : t.Origin origin)
      (hschema : t.Declares schema) (hreads : List.Forall₂ SortKey.Reads t.orderBy keys)
      (hkeys : ∀ key ∈ keys, key.column ∈ schema.names)
      (hsorted : (Expr.source origin schema).SortedBy keys e)

/-- The names of the declared columns. -/
def columnNames (t : TableDef) : List String := t.columns.map (·.name)

/-- The table has one source, columns with distinct names that are not empty, and sort keys among
them. -/
structure Sound (t : TableDef) : Prop where
  source : (t.table.isSome ∧ t.sql = none) ∨ (t.table = none ∧ t.sql.isSome)
  nodup : t.columnNames.Nodup
  named : ∀ name ∈ t.columnNames, name ≠ ""
  keys : ∀ entry ∈ t.orderBy, ∃ key, SortKey.Reads entry key ∧ key.column ∈ t.columnNames

variable {t : TableDef} {e : Expr} {schema : Schema}

theorem source_eq_ok_iff {origin : Source} : t.source = .ok origin ↔ t.Origin origin := by
  unfold source
  constructor
  · intro h
    split at h
    · next htable hsql => cases h; exact .table htable hsql
    · next htable hsql => cases h; exact .query hsql htable
    · cases h
    · cases h
  · rintro (⟨h, hsql⟩ | ⟨h, htable⟩)
    · rw [h, hsql]
    · rw [h, htable]

theorem exists_origin_iff : (∃ origin, t.Origin origin) ↔
    (t.table.isSome ∧ t.sql = none) ∨ (t.table = none ∧ t.sql.isSome) := by
  simp only [Option.isSome_iff_exists]
  constructor
  · rintro ⟨_, ⟨h, hsql⟩ | ⟨h, htable⟩⟩
    · exact .inl ⟨⟨_, h⟩, hsql⟩
    · exact .inr ⟨htable, _, h⟩
  · rintro (⟨⟨_, h⟩, hsql⟩ | ⟨htable, _, h⟩)
    · exact ⟨_, .table h hsql⟩
    · exact ⟨_, .query h htable⟩

theorem declares_iff :
    t.Declares schema ↔ Schema.ofColumns (t.columns.map (·.column)) = .ok schema :=
  ⟨fun h => h ▸ Schema.ofColumns_columns schema, Schema.columns_of_ofColumns⟩

theorem Declares.unique {other : Schema} (h : t.Declares schema) (h' : t.Declares other) :
    schema = other := Schema.ext_columns (h.trans h'.symm)

theorem Declares.names_eq (h : t.Declares schema) : schema.names = t.columnNames := by
  rw [Schema.names, h, List.map_map]
  rfl

theorem exists_declares_iff : (∃ schema, t.Declares schema) ↔
    t.columnNames.Nodup ∧ ∀ name ∈ t.columnNames, name ≠ "" := by
  constructor
  · rintro ⟨schema, h⟩
    rw [← h.names_eq]
    exact ⟨schema.nodup, List.forall_mem_map.2 schema.named⟩
  · rintro ⟨hnodup, hnamed⟩
    have hcolumns : (t.columns.map ColumnDef.column).map (·.name) = t.columnNames := List.map_map
    refine ⟨⟨t.columns.map ColumnDef.column, hcolumns ▸ hnodup, fun c hc => ?_⟩, rfl⟩
    exact hnamed c.name (hcolumns ▸ List.mem_map_of_mem hc)

/-- **Building a table gives what it spells out.** -/
theorem build_eq_ok_iff : t.build = .ok e ↔ t.Denotes e := by
  simp only [build, Except.bind_eq_ok_iff, Except.mapError_eq_ok_iff, ← declares_iff,
    source_eq_ok_iff, SortKey.ofEntries_eq_ok_iff, Expr.orderBy_eq_ok_iff_sortedBy]
  constructor
  · rintro ⟨schema, hschema, origin, horigin, keys, hreads, hkeys, hsorted⟩
    exact .of horigin hschema hreads hkeys hsorted
  · rintro ⟨horigin, hschema, hreads, hkeys, hsorted⟩
    exact ⟨_, hschema, _, horigin, _, hreads, hkeys, hsorted⟩

theorem Denotes.declares (h : t.Denotes e) : t.Declares e.schema := by
  obtain ⟨-, hschema, -, -, hsorted⟩ := h
  rw [hsorted.schema_eq]
  exact hschema

/-- A table is no chain. -/
theorem Denotes.spine (h : t.Denotes e) : e.leftmost = e ∧ e.flatSteps = [] := by
  obtain ⟨-, -, -, -, _ | _⟩ := h
  · exact ⟨rfl, rfl⟩
  · exact ⟨rfl, rfl⟩

/-- **A table spells out an expression exactly when it is sound.** -/
theorem exists_denotes_iff : (∃ e, t.Denotes e) ↔ t.Sound := by
  constructor
  · rintro ⟨e, horigin, hschema, hreads, hkeys, hsorted⟩
    obtain ⟨hnodup, hnamed⟩ := exists_declares_iff.1 ⟨_, hschema⟩
    rw [hschema.names_eq] at hkeys
    exact ⟨exists_origin_iff.1 ⟨_, horigin⟩, hnodup, hnamed,
      exists_forall₂_iff.1 ⟨_, hreads, hkeys⟩⟩
  · rintro ⟨hsource, hnodup, hnamed, hkeys⟩
    obtain ⟨origin, horigin⟩ := exists_origin_iff.2 hsource
    obtain ⟨schema, hschema⟩ := exists_declares_iff.2 ⟨hnodup, hnamed⟩
    obtain ⟨keys, hreads, hkeys⟩ := exists_forall₂_iff.2 hkeys
    rw [← hschema.names_eq] at hkeys
    obtain ⟨e, he⟩ := (Expr.source origin schema).exists_sortedBy keys
    exact ⟨e, .of horigin hschema hreads hkeys he⟩

end TableDef

end SetQuery
