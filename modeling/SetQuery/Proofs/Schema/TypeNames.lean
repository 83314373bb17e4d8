import SetQuery.Proofs.Schema.CastTarget

/-!
# Other names for unknown types

A type that is known by its name alone is only ever compared with another one. So schemas that align
still align when their unknown types get other names, and an operand is read as before: only types
that are no arrays of unknown ones are ever wider or narrower than others.

Main statements: `AlignsTo.retype` and `columnReads_retype`.
-/

namespace SetQuery

namespace SqlType

/-- The type under another name, if it is unknown, or an array of such a type. -/
def retype (f : String → String) : SqlType → SqlType
  | .array element => .array (element.retype f)
  | .unknown name => .unknown (f name)
  | t => t

variable {f : String → String} {a b c : SqlType}

/-- Types that differ and widen are no unknown ones. -/
theorem Widens.retype_eq (h : a.Widens b) (hne : a ≠ b) : a.retype f = a ∧ b.retype f = b := by
  induction h with
  | refl a => exact absurd rfl hne
  | array _ ih =>
    obtain ⟨ha, hb⟩ := ih fun heq => hne (congrArg SqlType.array heq)
    exact ⟨congrArg SqlType.array ha, congrArg SqlType.array hb⟩
  | _ => exact ⟨rfl, rfl⟩

/-- Other names do not change what types widen to. -/
theorem widen_retype (h : a.widen b = some c) :
    (a.retype f).widen (b.retype f) = some (c.retype f) := by
  by_cases hab : a = b
  · subst hab
    obtain rfl : a = c := by simpa using h
    exact widen_self _
  · obtain ⟨ha, hb⟩ := widens_of_widen_eq_some h
    by_cases hac : a = c
    · subst hac
      obtain ⟨hb', ha'⟩ := hb.retype_eq (f := f) (Ne.symm hab)
      rw [ha', hb', h]
    · obtain ⟨ha', hc'⟩ := ha.retype_eq (f := f) hac
      by_cases hbc : b = c
      · rw [ha', hbc, hc', ← hbc, h, hbc]
      · rw [ha', hc', (hb.retype_eq (f := f) hbc).1, h]

end SqlType

/-- The column with another name for its type. -/
def Column.retype (f : String → String) (c : Column) : Column := { c with type := c.type.retype f }

namespace Schema

variable {f : String → String} {s t m : Schema}

/-- The schema with other names for its unknown types. -/
def retype (f : String → String) (s : Schema) : Schema :=
  s.withColumns (s.columns.map (·.retype f)) (by rw [List.map_map]; rfl)

theorem names_retype : (s.retype f).names = s.names := by
  rw [names, names, retype, withColumns, List.map_map]
  rfl

theorem isEmpty_retype : (s.retype f).isEmpty = s.isEmpty := List.isEmpty_map

theorem find?_retype (name : String) :
    (s.retype f).find? name = (s.find? name).map (·.retype f) := by
  rw [find?, retype, withColumns, List.find?_map]
  rfl

/-! ## Merging -/

theorem mergeColumn_retype {c found merged : Column} (h : mergeColumn c found = .ok merged) :
    mergeColumn (c.retype f) (found.retype f) = .ok (merged.retype f) := by
  unfold mergeColumn at h
  split at h <;> cases h
  next type hwiden => simp [mergeColumn, Column.retype, SqlType.widen_retype hwiden]

theorem mergeColumns_retype {columns merged : List Column}
    (h : mergeColumns t columns = .ok merged) :
    mergeColumns (t.retype f) (columns.map (·.retype f)) = .ok (merged.map (·.retype f)) := by
  induction columns generalizing merged with
  | nil => cases h; rfl
  | cons c rest ih =>
    rw [mergeColumns] at h
    split at h
    · cases h
    · next found hfound =>
      split at h
      · cases h
      · next first hfirst =>
        obtain ⟨tail, htail, rfl⟩ := Except.map_eq_ok_iff.1 h
        have hfind : (t.retype f).find? (c.retype f).name = some (found.retype f) := by
          rw [find?_retype]
          exact congrArg (Option.map _) hfound
        rw [List.map_cons, mergeColumns, hfind]
        simp only [mergeColumn_retype hfirst, ih htail]
        rfl

theorem merge_retype (h : s.merge t = .ok m) :
    (s.retype f).merge (t.retype f) = .ok (m.retype f) := by
  obtain ⟨hst, hts, hcolumns⟩ := merge_eq_ok_iff.1 h
  refine merge_eq_ok_iff.2 ⟨?_, ?_, mergeColumns_retype hcolumns⟩
  · rwa [names_retype, names_retype]
  · rwa [names_retype, names_retype]

theorem Merges.retype {rest : List Schema} (h : Merges s rest m) :
    Merges (s.retype f) (rest.map (·.retype f)) (m.retype f) := by
  induction h with
  | nil s => exact .nil _
  | cons hmerge _ ih => exact .cons (merge_retype hmerge) ih

end Schema

/-! ## Alignment -/

variable {f : String → String}

/-- **Schemas align under other names of unknown types.** -/
theorem AlignsTo.retype {first canonical : Schema} {rest : List Schema}
    (h : AlignsTo (first :: rest) canonical) :
    AlignsTo ((first :: rest).map (·.retype f)) (canonical.retype f) := by
  obtain ⟨hempty, hmerges⟩ := alignsTo_cons_iff.1 h
  rw [List.map_cons, alignsTo_cons_iff]
  refine ⟨?_, hmerges.retype⟩
  rw [← List.map_cons, List.forall_mem_map]
  intro s hs
  rw [Schema.isEmpty_retype, hempty s hs]

/-- An operand is read as under the old names. -/
theorem columnReads_retype {canonical s : Schema} (h : s.Widens canonical) :
    columnReads (canonical.retype f) (s.retype f) = columnReads canonical s := by
  rw [columnReads, columnReads]
  change (canonical.columns.map (·.retype f)).map _ = _
  rw [List.map_map]
  refine List.map_congr_left fun c hc => ?_
  have hfind : (s.retype f).find? (c.retype f).name = (s.find? c.name).map (·.retype f) :=
    Schema.find?_retype c.name
  simp only [Function.comp_apply, hfind]
  cases hdeclared : s.find? c.name with
  | none => rfl
  | some x =>
    obtain ⟨hx, hname⟩ := Schema.find?_eq_some_iff.1 hdeclared
    by_cases htype : x.type = c.type
    · simp [Column.retype, htype]
    · obtain ⟨hx', hc'⟩ := (h.types x hx c hc hname).retype_eq (f := f) htype
      simp [Column.retype, hx', hc', htype]

end SetQuery
