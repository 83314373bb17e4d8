import SetQuery.Proofs.Schema.Compatible

/-!
# The order of the columns

Columns are matched by name, so the order in which an operand declares them decides where they are
read, and nothing else. `Moves s t p q` says that the column at position `p` of one order stands at
position `q` of the other.

**Theorem (`reorders_of_align`).** Schemas with their columns in other orders align as the schemas
do. The canonical columns move as those of the first operand, and at canonical positions of the same
column every operand reads the same column and casts it or not as before.
-/

namespace SetQuery

namespace Schema

/-! ## Schemas with the same columns -/

/-- The column at a position of the first schema stands at a position of the second. -/
def Moves (s t : Schema) (p q : Nat) : Prop :=
  ∃ c, s.columns[p]? = some c ∧ t.columns[q]? = some c

variable {s s' t t' u u' : Schema} {p p' : Nat}

theorem find?_eq_of_perm (h : s.columns.Perm t.columns) (name : String) :
    s.find? name = t.find? name := by
  ext c
  rw [find?_eq_some_iff, find?_eq_some_iff, h.mem_iff]

theorem compatible_of_perm (h : s.columns.Perm t.columns) : s.Compatible t where
  names name := by rw [← exists_find?_iff, ← exists_find?_iff, find?_eq_of_perm h]
  types c hc d hd := (equivalence_compatible.refl s).types c hc d (h.mem_iff.2 hd)

theorem exists_columnAt_of_getElem? {c : Column} (h : s.columns[p]? = some c) :
    ∃ q : Fin s.columns.length, (q : Nat) = p ∧ s.columnAt q = c := by
  obtain ⟨hp, hc⟩ := List.getElem?_eq_some_iff.1 h
  exact ⟨⟨p, hp⟩, rfl, hc⟩

theorem getElem?_eq_columnAt (s : Schema) (q : Fin s.columns.length) :
    s.columns[(q : Nat)]? = some (s.columnAt q) :=
  List.getElem?_eq_getElem q.isLt

/-- Where the same columns stand is known from the names alone. -/
theorem moves_iff (h : ∀ name, s.find? name = t.find? name) :
    s.Moves t p p' ↔ ∃ name, s.names[p]? = some name ∧ t.names[p']? = some name := by
  simp only [names, List.getElem?_map, Option.map_eq_some_iff]
  constructor
  · rintro ⟨c, hc, hc'⟩
    exact ⟨c.name, ⟨c, hc, rfl⟩, c, hc', rfl⟩
  · rintro ⟨_, ⟨c, hc, rfl⟩, d, hd, hname⟩
    have hfind := find?_eq_some_iff.2 ⟨List.mem_of_getElem? hc, rfl⟩
    have hfind' := find?_eq_some_iff.2 ⟨List.mem_of_getElem? hd, hname⟩
    rw [h, hfind'] at hfind
    cases hfind
    exact ⟨c, hc, hd⟩

/-- The columns that two orders of a schema match with the same canonical column are the same. -/
theorem columnAt_matching_symm (hs : s.columns.Perm s'.columns)
    (h : ∀ name, name ∈ s.names ↔ name ∈ u.names)
    (h' : ∀ name, name ∈ s'.names ↔ name ∈ u'.names) {q : Fin u.columns.length}
    {q' : Fin u'.columns.length} (hq : u.columnAt q = u'.columnAt q') :
    s.columnAt ((matching h).symm q) = s'.columnAt ((matching h').symm q') := by
  have hname := name_matching h ((matching h).symm q)
  have hname' := name_matching h' ((matching h').symm q')
  rw [Equiv.apply_symm_apply] at hname hname'
  refine eq_of_name_eq (s.columnAt_mem _) (hs.mem_iff.2 (s'.columnAt_mem _)) ?_
  rw [← hname, ← hname', hq]

end Schema

/-! ## Operands with their columns in another order -/

namespace OperandAlignment

/-- At canonical positions of the same column two operands read the same column, and both cast it
or neither does. -/
def ReadsAlike (o o' : OperandAlignment) (u u' s s' : Schema) : Prop :=
  ∀ p p', u.Moves u' p p' → ∃ cast q q', (o.casts u)[p]? = some cast ∧
    (o'.casts u')[p']? = some cast ∧ o.projection[p]? = some q ∧ o'.projection[p']? = some q' ∧
    s.Moves s' q q'

variable {s s' u u' : Schema}

theorem getElem?_casts_ofSchema (h : ∀ name, name ∈ s.names ↔ name ∈ u.names)
    (q : Fin u.columns.length) : ((ofSchema u s).casts u)[(q : Nat)]? =
      some ((s.columnAt ((Schema.matching h).symm q)).type != (u.columnAt q).type) := by
  simp [casts_ofSchema h]

theorem getElem?_projection_ofSchema (h : ∀ name, name ∈ s.names ↔ name ∈ u.names)
    (q : Fin u.columns.length) :
    (ofSchema u s).projection[(q : Nat)]? = some ((Schema.matching h).symm q : Nat) := by
  simp [projection_ofSchema h]

theorem casts_eq_of_perm (hs : s.columns.Perm s'.columns) (u : Schema) :
    (ofSchema u s).casts u = (ofSchema u s').casts u := by
  simp only [casts, ofSchema, Schema.find?_eq_of_perm hs]

theorem readsAlike_ofSchema (hs : s.columns.Perm s'.columns)
    (h : ∀ name, name ∈ s.names ↔ name ∈ u.names)
    (h' : ∀ name, name ∈ s'.names ↔ name ∈ u'.names) :
    (ofSchema u s).ReadsAlike (ofSchema u' s') u u' s s' := by
  rintro _ _ ⟨c, hc, hc'⟩
  obtain ⟨q, rfl, rfl⟩ := Schema.exists_columnAt_of_getElem? hc
  obtain ⟨q', rfl, hq⟩ := Schema.exists_columnAt_of_getElem? hc'
  have hcolumn := Schema.columnAt_matching_symm hs h h' hq.symm
  refine ⟨_, _, _, getElem?_casts_ofSchema h q, ?_, getElem?_projection_ofSchema h q,
    getElem?_projection_ofSchema h' q', _, s.getElem?_eq_columnAt _, ?_⟩
  · rw [hcolumn, ← hq]
    exact getElem?_casts_ofSchema h' q'
  · rw [hcolumn]
    exact s'.getElem?_eq_columnAt _

end OperandAlignment

/-- Two alignments of the same schemas, of which the second ones have their columns in other orders:
the canonical columns move as those of the first operand, and every operand is read alike. When the
first operand keeps its order, the canonical schema and the casts stay the same. -/
structure Alignment.Reorders (a a' : Alignment) (schemas schemas' : List Schema) : Prop where
  kept : schemas.head? = schemas'.head? → a.canonical = a'.canonical ∧
    a.operands.map (·.casts a.canonical) = a'.operands.map (·.casts a'.canonical)
  canonical : ∀ first ∈ schemas.head?, ∀ first' ∈ schemas'.head?, ∀ p p',
    first.Moves first' p p' ↔ a.canonical.Moves a'.canonical p p'
  operands : ∀ (i : Nat) s s', schemas[i]? = some s → schemas'[i]? = some s' →
    ∃ o o' : OperandAlignment, a.operands[i]? = some o ∧ a'.operands[i]? = some o' ∧
      o.ReadsAlike o' a.canonical a'.canonical s s'

/-! ## Aligning them -/

/-- The schemas of two lists have the same columns, each in its own order. -/
def SameColumns (schemas schemas' : List Schema) : Prop :=
  List.Forall₂ (fun s s' => s.columns.Perm s'.columns) schemas schemas'

namespace SameColumns

variable {schemas schemas' : List Schema} {u u' : Schema}

theorem symm (h : SameColumns schemas schemas') : SameColumns schemas' schemas :=
  h.flip.imp fun _ _ => List.Perm.symm

theorem perm (h : SameColumns schemas schemas') {i : Nat} {s s' : Schema}
    (hs : schemas[i]? = some s) (hs' : schemas'[i]? = some s') : s.columns.Perm s'.columns := by
  obtain ⟨hi, rfl⟩ := List.getElem?_eq_some_iff.1 hs
  obtain ⟨hi', rfl⟩ := List.getElem?_eq_some_iff.1 hs'
  exact List.Forall₂.get h hi hi'

theorem exists_align (h : SameColumns schemas schemas') (ha : ∃ a, align schemas = .ok a) :
    ∃ a, align schemas' = .ok a := by
  obtain ⟨hempty, hcompatible⟩ := exists_align_iff.1 ha
  refine exists_align_iff.2 ⟨fun s' hs' => ?_, fun s' hs' t' ht' => ?_⟩
  · obtain ⟨s, hs, hperm⟩ := exists_of_mem_forall₂ h hs'
    rw [Schema.isEmpty, ← hperm.isEmpty_eq]
    exact hempty s hs
  · obtain ⟨s, hs, hperm⟩ := exists_of_mem_forall₂ h hs'
    obtain ⟨t, ht, hperm'⟩ := exists_of_mem_forall₂ h ht'
    exact Schema.equivalence_compatible.trans (Schema.compatible_of_perm hperm.symm)
      (Schema.equivalence_compatible.trans (hcompatible s hs t ht)
        (Schema.compatible_of_perm hperm'))

theorem declarations_eq (h : SameColumns schemas schemas') (name : String) :
    declarations schemas name = declarations schemas' name := by
  induction h with
  | nil => rfl
  | cons hperm _ ih =>
    simp only [declarations, List.filterMap_cons, Schema.find?_eq_of_perm hperm name] at ih ⊢
    rw [ih]

theorem find?_eq (h : SameColumns schemas schemas') (ha : AlignsTo schemas u)
    (ha' : AlignsTo schemas' u') (name : String) : u.find? name = u'.find? name :=
  ha.find?_eq ha' fun _ => by rw [h.declarations_eq]

theorem eq_of_head? (h : SameColumns schemas schemas') (ha : AlignsTo schemas u)
    (ha' : AlignsTo schemas' u') (hhead : schemas.head? = schemas'.head?) : u = u' := by
  refine Schema.eq_of_find?_eq ?_ (h.find?_eq ha ha')
  rw [ha.names_eq_head?, ha'.names_eq_head?, hhead]

/-- The canonical schema stays the same when the first schema does. -/
theorem alignsTo (h : SameColumns schemas schemas') (hhead : schemas.head? = schemas'.head?)
    (ha : AlignsTo schemas u) : AlignsTo schemas' u := by
  obtain ⟨a', ha'⟩ := h.exists_align ha.exists_align
  have halign := AlignsTo.of_align ha'
  rwa [h.eq_of_head? ha halign hhead]

theorem map_casts_eq (h : SameColumns schemas schemas') (u : Schema) :
    schemas.map (fun s => (OperandAlignment.ofSchema u s).casts u) =
      schemas'.map fun s => (OperandAlignment.ofSchema u s).casts u :=
  map_eq_map_of_forall₂ (h.imp fun _ _ hperm => OperandAlignment.casts_eq_of_perm hperm u)

end SameColumns

theorem operands_of_align {schemas : List Schema} {a : Alignment} (h : align schemas = .ok a) :
    a.operands = schemas.map (.ofSchema a.canonical) ∧
      ∀ s ∈ schemas, ∀ name, name ∈ s.names ↔ name ∈ a.canonical.names := by
  cases schemas with
  | nil => cases h; exact ⟨rfl, fun _ h => nomatch h⟩
  | cons first rest =>
    obtain ⟨-, -, hoperands⟩ := align_cons_eq_ok_iff.1 h
    exact ⟨hoperands, fun s hs => ((AlignsTo.of_align h).widens s hs).names⟩

/-- **Alignments of schemas with their columns in other orders.** -/
theorem reorders_of_align {schemas schemas' : List Schema} {a a' : Alignment}
    (h : SameColumns schemas schemas') (ha : align schemas = .ok a)
    (ha' : align schemas' = .ok a') : a.Reorders a' schemas schemas' where
  kept hhead := by
    have hcanonical := h.eq_of_head? (.of_align ha) (.of_align ha') hhead
    refine ⟨hcanonical, ?_⟩
    rw [(operands_of_align ha).1, (operands_of_align ha').1, List.map_map, List.map_map, hcanonical]
    exact h.map_casts_eq a'.canonical
  canonical first hfirst first' hfirst' p p' := by
    have hperm : first.columns.Perm first'.columns :=
      h.perm (List.head?_eq_getElem? ▸ hfirst) (List.head?_eq_getElem? ▸ hfirst')
    rw [Schema.moves_iff (Schema.find?_eq_of_perm hperm),
      Schema.moves_iff (h.find?_eq (.of_align ha) (.of_align ha')),
      (AlignsTo.of_align ha).names_eq_head?, (AlignsTo.of_align ha').names_eq_head?, hfirst, hfirst']
    rfl
  operands i s s' hs hs' := by
    obtain ⟨hoperands, hnames⟩ := operands_of_align ha
    obtain ⟨hoperands', hnames'⟩ := operands_of_align ha'
    refine ⟨.ofSchema a.canonical s, .ofSchema a'.canonical s', ?_, ?_,
      OperandAlignment.readsAlike_ofSchema (h.perm hs hs') (hnames s (List.mem_of_getElem? hs))
        (hnames' s' (List.mem_of_getElem? hs'))⟩
    · rw [hoperands, List.getElem?_map, hs]; rfl
    · rw [hoperands', List.getElem?_map, hs']; rfl

end SetQuery
