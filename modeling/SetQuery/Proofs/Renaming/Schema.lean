import SetQuery.Proofs.Schema.Alignment
import SetQuery.Resolved

/-!
# Renaming the columns of schemas

Columns of several schemas are matched by name, and names are only ever compared. So if different
columns get different names, schemas with the new names align as those with the old ones did.

Main statements: `Schema.find?_rename` (the column of a new name is the one of the old name) and
`AlignsTo.rename` (the canonical schema of renamed schemas is the renamed canonical schema).
-/

namespace SetQuery

/-- New names for columns and tables. -/
structure Renaming where
  column : String → String
  table : String → String

/-- Among the names, different ones are renamed to different ones, and none to an empty one. -/
structure Renaming.Separates (ρ : Renaming) (names : List String) : Prop where
  injective : ∀ x ∈ names, ∀ y ∈ names, ρ.column x = ρ.column y → x = y
  named : ∀ x ∈ names, ρ.column x ≠ ""

/-- Every name is kept. -/
def Renaming.same : Renaming := ⟨id, id⟩

theorem Renaming.Separates.mono {ρ : Renaming} {names names' : List String}
    (h : ρ.Separates names) (hsub : names' ⊆ names) : ρ.Separates names' where
  injective := fun x hx y hy => h.injective x (hsub hx) y (hsub hy)
  named := fun x hx => h.named x (hsub hx)

/-- The column under its new name. -/
def Column.rename (ρ : Renaming) (c : Column) : Column := { c with name := ρ.column c.name }

@[simp] theorem Column.name_rename (ρ : Renaming) (c : Column) :
    (c.rename ρ).name = ρ.column c.name := rfl

@[simp] theorem Column.type_rename (ρ : Renaming) (c : Column) : (c.rename ρ).type = c.type := rfl

/-- The way to read a column under its new name. -/
def ColumnRead.rename (ρ : Renaming) (c : ColumnRead) : ColumnRead :=
  { c with name := ρ.column c.name }

namespace Schema

/-- The schema with new names for its columns; it keeps the old ones if the new ones are no names
of columns of a schema. -/
def rename (ρ : Renaming) (s : Schema) : Schema :=
  match ofColumns (s.columns.map (·.rename ρ)) with
  | .ok renamed => renamed
  | .error _ => s

variable {ρ : Renaming} {s t m : Schema} {names : List String}

theorem columns_rename (h : ρ.Separates s.names) :
    (s.rename ρ).columns = s.columns.map (·.rename ρ) := by
  have hnames : (s.columns.map (·.rename ρ)).map (·.name) = s.names.map ρ.column := by
    simp [names]
  have hnamed : ∀ c ∈ s.columns.map (·.rename ρ), c.name ≠ "" := by
    rw [List.forall_mem_map]
    intro c hc
    exact h.named c.name (mem_names.2 ⟨c, hc, rfl⟩)
  have hcheck : ofColumns (s.columns.map (·.rename ρ)) = .ok ⟨_, _, hnamed⟩ :=
    ofColumns_columns ⟨_, hnames ▸ s.names_nodup.map_on h.injective, hnamed⟩
  rw [rename, hcheck]

theorem names_rename (h : ρ.Separates s.names) :
    (s.rename ρ).names = s.names.map ρ.column := by
  rw [names, columns_rename h, names, List.map_map, List.map_map]
  rfl

theorem isEmpty_rename (h : ρ.Separates s.names) : (s.rename ρ).isEmpty = s.isEmpty := by
  rw [isEmpty, columns_rename h, List.isEmpty_map, isEmpty]

/-- The column of a new name is the one of the old name. -/
theorem find?_rename (h : ρ.Separates names) (hs : s.names ⊆ names) {name : String}
    (hname : name ∈ names) :
    (s.rename ρ).find? (ρ.column name) = (s.find? name).map (·.rename ρ) := by
  have hcolumns := columns_rename (h.mono hs)
  cases hfind : s.find? name with
  | some c =>
    obtain ⟨hc, rfl⟩ := find?_eq_some_iff.1 hfind
    refine find?_eq_some_iff.2 ⟨?_, rfl⟩
    rw [hcolumns]
    exact List.mem_map_of_mem hc
  | none =>
    rw [Option.map_none, find?, List.find?_eq_none, hcolumns, List.forall_mem_map]
    intro c hc heq
    have hmem : c.name ∈ s.names := mem_names.2 ⟨c, hc, rfl⟩
    have hsame : c.name = name := h.injective _ (hs hmem) _ hname (of_decide_eq_true heq)
    exact List.find?_eq_none.1 hfind c hc (by simpa using hsame)

/-! ## Merging -/

theorem mergeColumn_rename (ρ : Renaming) {c found merged : Column}
    (h : mergeColumn c found = .ok merged) :
    mergeColumn (c.rename ρ) (found.rename ρ) = .ok (merged.rename ρ) := by
  unfold mergeColumn at h
  split at h <;> cases h
  next type hwiden => simp [mergeColumn, Column.rename, hwiden]

theorem mergeColumns_rename (h : ρ.Separates names) (ht : t.names ⊆ names)
    {columns merged : List Column} (hcolumns : columns.map (·.name) ⊆ names)
    (hm : mergeColumns t columns = .ok merged) :
    mergeColumns (t.rename ρ) (columns.map (·.rename ρ)) = .ok (merged.map (·.rename ρ)) := by
  induction columns generalizing merged with
  | nil => cases hm; rfl
  | cons c rest ih =>
    rw [List.map_cons, List.cons_subset] at hcolumns
    have hfind := find?_rename h ht hcolumns.1
    rw [mergeColumns] at hm
    split at hm
    · cases hm
    · next found hfound =>
      split at hm
      · cases hm
      · next first hfirst =>
        obtain ⟨tail, htail, rfl⟩ := Except.map_eq_ok_iff.1 hm
        rw [hfound, Option.map_some] at hfind
        rw [List.map_cons, mergeColumns, Column.name_rename, hfind]
        simp only [mergeColumn_rename ρ hfirst, ih hcolumns.2 htail]
        rfl

theorem merge_rename (h : ρ.Separates s.names) (hm : s.merge t = .ok m) :
    (s.rename ρ).merge (t.rename ρ) = .ok (m.rename ρ) := by
  obtain ⟨hst, hts, hcolumns⟩ := merge_eq_ok_iff.1 hm
  have ht : ρ.Separates t.names := h.mono hts
  have hmerged : ρ.Separates m.names := names_merge hm ▸ h
  refine merge_eq_ok_iff.2 ⟨?_, ?_, ?_⟩
  · rw [names_rename h, names_rename ht]
    exact List.map_subset _ hst
  · rw [names_rename h, names_rename ht]
    exact List.map_subset _ hts
  · rw [columns_rename h, columns_rename hmerged]
    exact mergeColumns_rename h hts (List.Subset.refl s.names) hcolumns

theorem Merges.rename {rest : List Schema} (h : ρ.Separates s.names) (hm : Merges s rest m) :
    Merges (s.rename ρ) (rest.map (·.rename ρ)) (m.rename ρ) := by
  induction hm with
  | nil s => exact .nil _
  | cons hmerge _ ih => exact .cons (merge_rename h hmerge) (ih (names_merge hmerge ▸ h))

/-- All schemas that merge have the names of the first one. -/
theorem Merges.names_subset {rest : List Schema} (hm : Merges s rest m) :
    ∀ t ∈ rest, t.names ⊆ s.names := by
  intro t ht name hname
  rw [← hm.names_eq]
  exact ((hm.relaxesTo.2 t ht).widens.names name).1 hname

end Schema

/-! ## Alignment -/

variable {ρ : Renaming}

/-- **Renamed schemas align as the schemas do.** -/
theorem AlignsTo.rename {first canonical : Schema} {rest : List Schema}
    (h : ρ.Separates first.names) (ha : AlignsTo (first :: rest) canonical) :
    AlignsTo ((first :: rest).map (·.rename ρ)) (canonical.rename ρ) := by
  obtain ⟨hempty, hmerges⟩ := alignsTo_cons_iff.1 ha
  rw [List.map_cons, alignsTo_cons_iff]
  refine ⟨?_, hmerges.rename h⟩
  rw [← List.map_cons, List.forall_mem_map]
  intro s hs
  have hnames : s.names ⊆ first.names := by
    rcases List.mem_cons.1 hs with rfl | hs
    · exact List.Subset.refl _
    · exact hmerges.names_subset s hs
  rw [Schema.isEmpty_rename (h.mono hnames)]
  exact hempty s hs

/-- An operand with new names is read like the operand, under the new names. -/
theorem columnReads_rename {canonical s : Schema} {names : List String} (h : ρ.Separates names)
    (hcanonical : canonical.names ⊆ names) (hs : s.names ⊆ names) :
    columnReads (canonical.rename ρ) (s.rename ρ) =
      (columnReads canonical s).map (·.rename ρ) := by
  rw [columnReads, columnReads, Schema.columns_rename (h.mono hcanonical), List.map_map,
    List.map_map]
  refine List.map_congr_left fun c hc => ?_
  have hname : c.name ∈ names := hcanonical (Schema.mem_names.2 ⟨c, hc, rfl⟩)
  simp only [Function.comp_apply, Column.name_rename, Schema.find?_rename h hs hname]
  cases s.find? c.name with
  | none => rfl
  | some declared =>
    by_cases htype : declared.type = c.type
    · simp [ColumnRead.rename, htype]
    · simp [ColumnRead.rename, htype]

end SetQuery
