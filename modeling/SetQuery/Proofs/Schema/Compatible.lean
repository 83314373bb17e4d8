import SetQuery.Proofs.Schema.Canonical
import SetQuery.Proofs.Schema.Join

/-!
# Compatible schemas

Two schemas are compatible when they have the same names and their columns of one name have a common
type. That is an equivalence (`equivalence_compatible`), and a list of schemas aligns exactly when
none is empty and any two are compatible (`exists_align_iff`). When it aligns, the canonical column
of a name is the least upper bound of all declarations of that name (`AlignsTo.joins`).

**Theorem (`align_perm`).** Neither condition speaks of an order. So the operands may come in any
order: all orders align or none does, and the canonical columns differ at most in their order, which
is that of the first operand.
-/

namespace SetQuery

namespace Schema

variable {s t u m : Schema} {rest : List Schema}

/-! ## Columns by name -/

theorem exists_find?_iff {name : String} : (∃ c, s.find? name = some c) ↔ name ∈ s.names := by
  simp only [find?_eq_some_iff, mem_names]

theorem filterMap_find?_names (s : Schema) : s.names.filterMap s.find? = s.columns := by
  rw [names, List.filterMap_map, List.filterMap_congr fun c hc => ?_, List.filterMap_some]
  exact find?_eq_some_iff.2 ⟨hc, rfl⟩

/-- A schema is known by its names and the column of each. -/
theorem eq_of_find?_eq (hnames : s.names = t.names) (h : ∀ name, s.find? name = t.find? name) :
    s = t := by
  apply ext_columns
  rw [← s.filterMap_find?_names, ← t.filterMap_find?_names, hnames, funext h]

/-! ## Compatibility -/

/-- The schemas have the same names, and any two columns of one name have a common type. -/
structure Compatible (s t : Schema) : Prop where
  names : ∀ name, name ∈ s.names ↔ name ∈ t.names
  types : ∀ c ∈ s.columns, ∀ d ∈ t.columns, c.name = d.name → (c.type.widen d.type).isSome

theorem equivalence_compatible : Equivalence Compatible where
  refl s := by
    refine ⟨fun _ => Iff.rfl, fun c hc d hd h => ?_⟩
    rw [eq_of_name_eq hc hd h]
    exact SqlType.equivalence_isSome_widen.refl _
  symm h := by
    refine ⟨fun name => (h.names name).symm, fun d hd c hc hname => ?_⟩
    exact SqlType.equivalence_isSome_widen.symm (h.types c hc d hd hname.symm)
  trans {s t u} hst htu := by
    refine ⟨fun name => (hst.names name).trans (htu.names name), fun c hc e he hname => ?_⟩
    obtain ⟨d, hd, hdc⟩ := mem_names.1 ((hst.names _).1 (mem_names.2 ⟨c, hc, rfl⟩))
    exact SqlType.equivalence_isSome_widen.trans (hst.types c hc d hd hdc.symm)
      (htu.types d hd e he (hdc.trans hname))

/-- Schemas that widen to the same one are compatible. -/
theorem compatible_of_widens (hs : s.Widens u) (ht : t.Widens u) : s.Compatible t where
  names name := (hs.names name).trans (ht.names name).symm
  types c hc d hd hname := by
    obtain ⟨e, he, hec⟩ := mem_names.1 ((hs.names _).1 (mem_names.2 ⟨c, hc, rfl⟩))
    exact SqlType.isSome_widen_of_le (hs.types c hc e he hec.symm)
      (ht.types d hd e he (hname.symm.trans hec.symm))

/-! ## When schemas merge -/

/-- The schema has a column of the same name, and the types of the two have a common type. -/
def Admits (t : Schema) (c : Column) : Prop :=
  ∃ d, t.find? c.name = some d ∧ (c.type.widen d.type).isSome

theorem exists_mergeColumns_iff {columns : List Column} :
    (∃ merged, mergeColumns t columns = .ok merged) ↔ ∀ c ∈ columns, t.Admits c := by
  induction columns with
  | nil => simp [mergeColumns]
  | cons c rest ih =>
    rw [List.forall_mem_cons, ← ih, mergeColumns, Admits]
    cases hfind : t.find? c.name with
    | none => simp
    | some d =>
      cases hwiden : c.type.widen d.type with
      | none => simp [mergeColumn, hwiden]
      | some type => simp [mergeColumn, hwiden, Except.map_eq_ok_iff]

theorem exists_merge_iff : (∃ m, s.merge t = .ok m) ↔ s.Compatible t := by
  constructor
  · rintro ⟨m, hm⟩
    obtain ⟨hs, ht⟩ := relaxesTo_of_merge hm
    exact compatible_of_widens hs.widens ht.widens
  · intro h
    obtain ⟨columns, hcolumns⟩ := exists_mergeColumns_iff.2 fun c hc => by
      obtain ⟨d, hd, hdc⟩ := mem_names.1 ((h.names _).1 (mem_names.2 ⟨c, hc, rfl⟩))
      exact ⟨d, find?_eq_some_iff.2 ⟨hd, hdc⟩, h.types c hc d hd hdc.symm⟩
    exact ⟨s.withColumns columns (names_mergeColumns hcolumns), merge_eq_ok_iff.2
      ⟨fun name => (h.names name).1, fun name => (h.names name).2, hcolumns⟩⟩

/-- Schemas merge into one that is compatible with all of them: merging some of them only widens
its types, and then it is still compatible with the others. -/
theorem exists_merges_iff : (∃ u, Merges s rest u) ↔ ∀ t ∈ rest, s.Compatible t := by
  constructor
  · rintro ⟨u, hu⟩ t ht
    exact compatible_of_widens hu.relaxesTo.1.widens (hu.relaxesTo.2 t ht).widens
  · intro h
    induction rest generalizing s with
    | nil => exact ⟨s, .nil s⟩
    | cons t rest ih =>
      obtain ⟨ht, hrest⟩ := List.forall_mem_cons.1 h
      obtain ⟨m, hm⟩ := exists_merge_iff.2 ht
      have hms : m.Compatible s :=
        compatible_of_widens (.refl m) (relaxesTo_of_merge hm).1.widens
      obtain ⟨u, hu⟩ := ih fun t' ht' => equivalence_compatible.trans hms (hrest t' ht')
      exact ⟨u, .cons hm hu⟩

end Schema

theorem exists_align_cons_iff {first : Schema} {rest : List Schema} :
    (∃ a, align (first :: rest) = .ok a) ↔
      (∀ s ∈ first :: rest, s.isEmpty = false) ∧ ∀ t ∈ rest, first.Compatible t := by
  rw [← Schema.exists_merges_iff]
  constructor
  · rintro ⟨a, ha⟩
    obtain ⟨he, hm, -⟩ := align_cons_eq_ok_iff.1 ha
    exact ⟨he, _, hm⟩
  · rintro ⟨he, u, hu⟩
    exact ⟨⟨u, (first :: rest).map (.ofSchema u)⟩, align_cons_eq_ok_iff.2 ⟨he, hu, rfl⟩⟩

/-- **Schemas align when none is empty and any two are compatible.** -/
theorem exists_align_iff {schemas : List Schema} : (∃ a, align schemas = .ok a) ↔
    (∀ s ∈ schemas, s.isEmpty = false) ∧ ∀ s ∈ schemas, ∀ t ∈ schemas, s.Compatible t := by
  cases schemas with
  | nil => simp [align]
  | cons first rest =>
    rw [exists_align_cons_iff]
    refine and_congr_right fun _ => ⟨fun h s hs t ht => ?_, fun h t ht => ?_⟩
    · have hfirst : ∀ t ∈ first :: rest, first.Compatible t :=
        List.forall_mem_cons.2 ⟨Schema.equivalence_compatible.refl first, h⟩
      exact Schema.equivalence_compatible.trans
        (Schema.equivalence_compatible.symm (hfirst s hs)) (hfirst t ht)
    · exact h first List.mem_cons_self t (List.mem_cons_of_mem _ ht)

/-- What aligns still aligns without some of the schemas. -/
theorem exists_align_of_subset {schemas schemas' : List Schema} (hsub : schemas' ⊆ schemas)
    (h : ∃ a, align schemas = .ok a) : ∃ a, align schemas' = .ok a := by
  obtain ⟨hempty, hcompatible⟩ := exists_align_iff.1 h
  exact exists_align_iff.2 ⟨fun s hs => hempty s (hsub hs),
    fun s hs t ht => hcompatible s (hsub hs) t (hsub ht)⟩

/-! ## The canonical column of a name -/

/-- The column has the least type above those of the declared columns, and of what they declare
about nulls the most permissive. -/
structure Column.Joins (d : Column) (declared : List Column) : Prop where
  type : IsLUB {t | ∃ c ∈ declared, c.type = t} d.type
  nullability : d.nullability = .ofAll (declared.map (·.nullability))

theorem Nullability.ofAll_congr {l l' : List Nullability} (h : ∀ n, n ∈ l ↔ n ∈ l') :
    ofAll l = ofAll l' := by
  simp only [ofAll, h]

/-- Only which columns are declared matters, not how often or in which order. -/
theorem Column.Joins.unique {d d' : Column} {l l' : List Column} (hd : d.Joins l)
    (hd' : d'.Joins l') (hname : d.name = d'.name) (h : ∀ c, c ∈ l ↔ c ∈ l') : d = d' := by
  have htype : d.type = d'.type := hd.type.unique (by simpa only [h] using hd'.type)
  have hnull : d.nullability = d'.nullability := by
    rw [hd.nullability, hd'.nullability]
    exact Nullability.ofAll_congr fun n => by simp only [List.mem_map, h]
  cases d; cases d'
  simp_all

theorem mem_declarations {schemas : List Schema} {name : String} {c : Column} :
    c ∈ declarations schemas name ↔ ∃ s ∈ schemas, s.find? name = some c :=
  List.mem_filterMap

namespace AlignsTo

variable {schemas schemas' : List Schema} {u u' : Schema} {name : String}

theorem exists_align (h : AlignsTo schemas u) : ∃ a, align schemas = .ok a := by
  obtain ⟨a, ha, -⟩ := Except.map_eq_ok_iff.1 h
  exact ⟨a, ha⟩

theorem of_align {a : Alignment} (h : align schemas = .ok a) : AlignsTo schemas a.canonical :=
  Except.map_eq_ok_iff.2 ⟨a, h, rfl⟩

theorem names_eq_head? (h : AlignsTo schemas u) :
    u.names = (schemas.head?.map (·.names)).getD [] := by
  cases schemas with
  | nil => cases h; rfl
  | cons first rest => exact h.names_eq

/-- A canonical column joins all declarations of its name. -/
theorem joins {d : Column} (h : AlignsTo schemas u) (hd : u.find? name = some d) :
    d.Joins (declarations schemas name) := by
  cases schemas with
  | nil => cases h; cases hd
  | cons first rest =>
    obtain ⟨hmem, rfl⟩ := Schema.find?_eq_some_iff.1 hd
    obtain ⟨c, hc, hfold⟩ := (alignsTo_cons_iff.1 h).2.foldlM_eq_ok hmem
    rw [declarations_cons hc]
    refine ⟨⟨?_, fun t ht => ?_⟩, nullability_of_foldlM hfold⟩
    · rintro _ ⟨x, hx, rfl⟩
      exact widens_of_foldlM hfold x hx
    · exact widens_of_foldlM_of_forall hfold fun x hx => ht ⟨x, hx, rfl⟩

/-- A name is canonical when some operand declares a column of it. -/
theorem mem_names_iff (h : AlignsTo schemas u) :
    name ∈ u.names ↔ ∃ c, c ∈ declarations schemas name := by
  cases schemas with
  | nil => cases h; simp [Schema.names, Schema.empty, declarations]
  | cons first rest =>
    simp only [mem_declarations]
    constructor
    · intro hname
      obtain ⟨c, hc⟩ := Schema.exists_find?_iff.2 (h.names_eq ▸ hname)
      exact ⟨c, first, List.mem_cons_self, hc⟩
    · rintro ⟨c, s, hs, hc⟩
      exact ((h.widens s hs).names name).1 (Schema.exists_find?_iff.1 ⟨c, hc⟩)

/-- The canonical column of a name depends only on what is declared for the name. -/
theorem find?_eq (h : AlignsTo schemas u) (h' : AlignsTo schemas' u')
    (hmem : ∀ c, c ∈ declarations schemas name ↔ c ∈ declarations schemas' name) :
    u.find? name = u'.find? name := by
  have hnames : name ∈ u.names ↔ name ∈ u'.names := by
    rw [h.mem_names_iff, h'.mem_names_iff]
    exact exists_congr hmem
  have hcolumn : ∀ {d d'}, u.find? name = some d → u'.find? name = some d' → d = d' := by
    intro d d' hd hd'
    have hname := (Schema.find?_eq_some_iff.1 hd).2.trans (Schema.find?_eq_some_iff.1 hd').2.symm
    exact (h.joins hd).unique (h'.joins hd') hname hmem
  ext d
  constructor
  · intro hd
    obtain ⟨d', hd'⟩ := Schema.exists_find?_iff.2 (hnames.1 (Schema.exists_find?_iff.1 ⟨d, hd⟩))
    rwa [hcolumn hd hd']
  · intro hd
    obtain ⟨d', hd'⟩ := Schema.exists_find?_iff.2 (hnames.2 (Schema.exists_find?_iff.1 ⟨d, hd⟩))
    rwa [← hcolumn hd' hd]

end AlignsTo

/-! ## The order of the operands -/

/-- **Operands may come in any order.** -/
theorem align_perm {schemas schemas' : List Schema} (h : schemas.Perm schemas') :
    ((∃ a, align schemas = .ok a) ↔ ∃ a, align schemas' = .ok a) ∧
    ∀ a a', align schemas = .ok a → align schemas' = .ok a' →
      (∀ name, a.canonical.find? name = a'.canonical.find? name) ∧
      (schemas.head? = schemas'.head? → a.canonical = a'.canonical) := by
  constructor
  · rw [exists_align_iff, exists_align_iff]
    simp only [h.mem_iff]
  · intro a a' ha ha'
    have halign := AlignsTo.of_align ha
    have halign' := AlignsTo.of_align ha'
    have hfind : ∀ name, a.canonical.find? name = a'.canonical.find? name := fun name =>
      halign.find?_eq halign' fun c => by simp only [mem_declarations, h.mem_iff]
    refine ⟨hfind, fun hhead => Schema.eq_of_find?_eq ?_ hfind⟩
    rw [halign.names_eq_head?, halign'.names_eq_head?, hhead]

/-- The names stand in the order of the first operand, which is `balances true` or `balances false`.
The other two may change places without any effect. -/
theorem balances_in_any_order :
    [balances true, balances false, balances false].Perm
      [balances false, balances true, balances false] ∧
    ∃ a a', align [balances true, balances false, balances false] = .ok a ∧
      align [balances false, balances true, balances false] = .ok a' ∧
      a.canonical.names = ["balance", "id"] ∧ a'.canonical.names = ["id", "balance"] ∧
      (∀ name, a.canonical.find? name = a'.canonical.find? name) ∧
      ∃ a'', align [balances false, balances false, balances true] = .ok a'' ∧
        a'.canonical = a''.canonical := by
  have hswap := List.Perm.swap (balances false) (balances true) [balances false]
  have hlast := (List.Perm.swap (balances false) (balances true) []).cons (balances false)
  exact ⟨hswap, _, _, rfl, rfl, rfl, rfl, ((align_perm hswap).2 _ _ rfl rfl).1, _, rfl,
    ((align_perm hlast).2 _ _ rfl rfl).2 rfl⟩

end SetQuery
