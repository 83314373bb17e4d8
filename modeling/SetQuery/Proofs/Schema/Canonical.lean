import Mathlib.Data.Fintype.EquivFin
import Mathlib.Data.List.Nodup
import SetQuery.Proofs.Schema.Alignment

/-!
# The canonical schema

The operands of a set operation declare columns of the same names in any order and with different
types. `declarations` collects what they declare for one name, and the canonical column of that name
is these declarations merged from left to right (`Merges.foldlM_eq_ok`).

**Theorem (`align_canonical_and_matches`).** The canonical schema has the names of the first operand
in its order, for each name the least type above all declared ones, and the most permissive
nullability. Each operand's columns are matched with the canonical ones one to one: its permutation
and its projection list one bijection and its inverse, which keep names. That bijection exists
because the names of a schema are distinct and all operands have the same ones.
-/

namespace SetQuery

/-! ## What the operands declare -/

/-- The columns of a name in some schemas. -/
def declarations (schemas : List Schema) (name : String) : List Column :=
  schemas.filterMap (·.find? name)

theorem declarations_cons {s : Schema} {name : String} {c : Column} (h : s.find? name = some c)
    (rest : List Schema) : declarations (s :: rest) name = c :: declarations rest name :=
  List.filterMap_cons_some h

namespace Schema

/-- A merged column is the merge of the columns of its name on both sides. -/
theorem exists_of_merge {s t m : Schema} (h : s.merge t = .ok m) {d : Column}
    (hd : d ∈ m.columns) : ∃ c e, s.find? d.name = some c ∧ t.find? d.name = some e ∧
      mergeColumn c e = .ok d := by
  obtain ⟨-, -, hcolumns⟩ := merge_eq_ok_iff.1 h
  obtain ⟨c, hc, e, he, hcd, hed, hmerge⟩ := of_mem_mergeColumns hcolumns hd
  exact ⟨c, e, find?_eq_some_iff.2 ⟨hc, hcd⟩, find?_eq_some_iff.2 ⟨he, hed⟩, hmerge⟩

/-- A canonical column is what is declared for its name, merged from left to right. -/
theorem Merges.foldlM_eq_ok {s u : Schema} {rest : List Schema} (h : Merges s rest u) {d : Column}
    (hd : d ∈ u.columns) : ∃ c, s.find? d.name = some c ∧
      (declarations rest d.name).foldlM mergeColumn c = .ok d := by
  induction h with
  | nil s => exact ⟨d, find?_eq_some_iff.2 ⟨hd, rfl⟩, rfl⟩
  | cons hm _ ih =>
    obtain ⟨m, hfind, hfold⟩ := ih hd
    obtain ⟨hmem, hname⟩ := find?_eq_some_iff.1 hfind
    obtain ⟨c, e, hc, he, hmerge⟩ := exists_of_merge hm hmem
    rw [hname] at hc he
    refine ⟨c, hc, ?_⟩
    rw [declarations_cons he, List.foldlM_cons]
    exact Except.bind_eq_ok_iff.2 ⟨m, hmerge, hfold⟩

end Schema

/-! ## Merging the declarations of a column -/

section Fold

variable {c d : Column} {declared : List Column}

/-- The type of a merged column is above all declared types. -/
theorem widens_of_foldlM (h : declared.foldlM Schema.mergeColumn c = .ok d) :
    ∀ x ∈ c :: declared, x.type.Widens d.type := by
  induction declared generalizing c with
  | nil =>
    obtain rfl : c = d := Except.ok.inj h
    exact List.forall_mem_singleton.2 (.refl _)
  | cons e declared ih =>
    obtain ⟨m, hm, h⟩ := Except.bind_eq_ok_iff.1 h
    obtain ⟨htype, -⟩ := Schema.mergeColumn_eq_ok hm
    obtain ⟨hfirst, hrest⟩ := List.forall_mem_cons.1 (ih h)
    refine List.forall_mem_cons.2 ⟨(SqlType.widens_left htype).trans hfirst, ?_⟩
    exact List.forall_mem_cons.2 ⟨(SqlType.widens_right htype).trans hfirst, hrest⟩

/-- And it is the least such type. -/
theorem widens_of_foldlM_of_forall (h : declared.foldlM Schema.mergeColumn c = .ok d)
    {t : SqlType} (ht : ∀ x ∈ c :: declared, x.type.Widens t) : d.type.Widens t := by
  induction declared generalizing c with
  | nil =>
    obtain rfl : c = d := Except.ok.inj h
    exact ht c List.mem_cons_self
  | cons e declared ih =>
    obtain ⟨m, hm, h⟩ := Except.bind_eq_ok_iff.1 h
    obtain ⟨htype, -⟩ := Schema.mergeColumn_eq_ok hm
    obtain ⟨hc, hrest⟩ := List.forall_mem_cons.1 ht
    obtain ⟨he, hrest⟩ := List.forall_mem_cons.1 hrest
    exact ih h (List.forall_mem_cons.2 ⟨SqlType.widens_of_widen_of_widens htype hc he, hrest⟩)

/-- Of what some columns declare about nulls, the most permissive. -/
def Nullability.ofAll (all : List Nullability) : Nullability :=
  if .nullable ∈ all then .nullable else if .unknown ∈ all then .unknown else .notNull

theorem Nullability.ofAll_combine (a b : Nullability) (all : List Nullability) :
    ofAll (a.combine b :: all) = ofAll (a :: b :: all) := by
  cases a <;> cases b <;> simp [ofAll, combine]

theorem nullability_of_foldlM (h : declared.foldlM Schema.mergeColumn c = .ok d) :
    d.nullability = .ofAll ((c :: declared).map (·.nullability)) := by
  induction declared generalizing c with
  | nil =>
    obtain rfl : c = d := Except.ok.inj h
    cases hc : c.nullability <;> simp [Nullability.ofAll, hc]
  | cons e declared ih =>
    obtain ⟨m, hm, h⟩ := Except.bind_eq_ok_iff.1 h
    obtain ⟨-, hnull⟩ := Schema.mergeColumn_eq_ok hm
    rw [ih h, List.map_cons, hnull, Nullability.ofAll_combine]
    rfl

end Fold

/-! ## Positions of names -/

namespace Schema

/-- The column at a position. -/
def columnAt (s : Schema) (p : Fin s.columns.length) : Column := s.columns.get p

theorem columnAt_mem (s : Schema) (p : Fin s.columns.length) : s.columnAt p ∈ s.columns :=
  List.get_mem s.columns p

/-- The position of the column of a name. -/
def indexOf (s : Schema) {name : String} (h : name ∈ s.names) : Fin s.columns.length :=
  ⟨s.columns.findIdx (·.name = name), List.findIdx_lt_length.2 (by simpa using mem_names.1 h)⟩

theorem name_indexOf (s : Schema) {name : String} (h : name ∈ s.names) :
    (s.columnAt (s.indexOf h)).name = name :=
  of_decide_eq_true (List.findIdx_getElem (w := (s.indexOf h).isLt))

theorem name_columnAt_mem (s : Schema) (p : Fin s.columns.length) :
    (s.columnAt p).name ∈ s.names :=
  mem_names.2 ⟨_, s.columnAt_mem p, rfl⟩

/-- A name stands at one position. -/
theorem position_unique {s : Schema} {p q : Fin s.columns.length}
    (h : (s.columnAt p).name = (s.columnAt q).name) : p = q :=
  s.nodup.of_map.injective_get (eq_of_name_eq (s.columnAt_mem p) (s.columnAt_mem q) h)

theorem position?_eq_indexOf (s : Schema) {name : String} (h : name ∈ s.names) :
    s.position? name = some (s.indexOf h : Nat) :=
  List.findIdx?_eq_some_iff_findIdx_eq.2 ⟨(s.indexOf h).isLt, rfl⟩

theorem find?_eq_columnAt (s : Schema) {name : String} (h : name ∈ s.names) :
    s.find? name = some (s.columnAt (s.indexOf h)) :=
  find?_eq_some_iff.2 ⟨s.columnAt_mem _, s.name_indexOf h⟩

/-- A partial function that is defined at each element of a list. -/
theorem filterMap_eq_ofFn {α β : Type} {l : List α} {f : α → Option β} {g : Fin l.length → β}
    (h : ∀ i, f (l.get i) = some (g i)) : l.filterMap f = List.ofFn g := by
  induction l with
  | nil => rfl
  | cons a l ih =>
    have hfirst : f a = some (g 0) := h 0
    rw [List.filterMap_cons_some hfirst, ih fun i => h i.succ, List.ofFn_succ]

/-- What is known for every name of a schema, in the order of the columns. -/
theorem filterMap_names {α : Type} {s : Schema} {f : String → Option α}
    {g : Fin s.columns.length → α} (h : ∀ p, f (s.columnAt p).name = some (g p)) :
    s.names.filterMap f = List.ofFn g := by
  rw [names, List.filterMap_map]
  exact filterMap_eq_ofFn h

/-- The positions of the columns of the same names in two schemas. -/
def matching {s t : Schema} (h : ∀ name, name ∈ s.names ↔ name ∈ t.names) :
    Fin s.columns.length ≃ Fin t.columns.length where
  toFun p := t.indexOf ((h _).1 (s.name_columnAt_mem p))
  invFun q := s.indexOf ((h _).2 (t.name_columnAt_mem q))
  left_inv p := position_unique (by rw [name_indexOf, name_indexOf])
  right_inv q := position_unique (by rw [name_indexOf, name_indexOf])

theorem name_matching {s t : Schema} (h : ∀ name, name ∈ s.names ↔ name ∈ t.names)
    (p : Fin s.columns.length) : (t.columnAt (matching h p)).name = (s.columnAt p).name :=
  t.name_indexOf ((h _).1 (s.name_columnAt_mem p))

end Schema

/-! ## How operands map to the canonical schema -/

/-- What a column declares beside its nullability. -/
def Column.typed (c : Column) : String × SqlType := (c.name, c.type)

/-- The columns of a schema are matched with those of the canonical schema: the alignment lists the
positions of the partners and the casts, and it is the identity where nothing differs. -/
structure OperandAlignment.Matches (o : OperandAlignment) (canonical s : Schema)
    (f : Fin s.columns.length ≃ Fin canonical.columns.length) : Prop where
  name : ∀ p, (canonical.columnAt (f p)).name = (s.columnAt p).name
  permutation : o.permutation = List.ofFn fun p => (f p : Nat)
  projection : o.projection = List.ofFn fun q => (f.symm q : Nat)
  casts : o.casts canonical =
    List.ofFn fun q => (s.columnAt (f.symm q)).type != (canonical.columnAt q).type
  identity : o.isIdentity canonical = true ↔
    s.columns.map Column.typed = canonical.columns.map Column.typed

namespace OperandAlignment

variable {canonical s : Schema} (h : ∀ name, name ∈ s.names ↔ name ∈ canonical.names)

theorem permutation_ofSchema :
    (ofSchema canonical s).permutation = List.ofFn fun p => (Schema.matching h p : Nat) :=
  Schema.filterMap_names fun p => canonical.position?_eq_indexOf ((h _).1 (s.name_columnAt_mem p))

theorem projection_ofSchema :
    (ofSchema canonical s).projection = List.ofFn fun q => ((Schema.matching h).symm q : Nat) :=
  Schema.filterMap_names fun q => s.position?_eq_indexOf ((h _).2 (canonical.name_columnAt_mem q))

theorem declared_ofSchema : (ofSchema canonical s).declared =
    List.ofFn fun q => (s.columnAt ((Schema.matching h).symm q)).type := by
  refine Schema.filterMap_names fun q => ?_
  rw [Schema.find?_eq_columnAt _ ((h _).2 (canonical.name_columnAt_mem q))]
  rfl

theorem casts_ofSchema : (ofSchema canonical s).casts canonical = List.ofFn fun q =>
    (s.columnAt ((Schema.matching h).symm q)).type != (canonical.columnAt q).type := by
  rw [casts, declared_ofSchema h]
  apply List.ext_getElem
  · simp
  · intro i _ _
    simp [Schema.columnAt]

/-- The alignment is the identity when partners stand at equal positions and have equal types. -/
theorem isIdentity_ofSchema_iff : (ofSchema canonical s).isIdentity canonical = true ↔
    (∀ p, (Schema.matching h p : Nat) = p) ∧
      ∀ p, (s.columnAt p).type = (canonical.columnAt (Schema.matching h p)).type := by
  rw [isIdentity, Bool.and_eq_true, casts_ofSchema h, permutation_ofSchema h]
  refine and_congr ?_ ?_
  · rw [beq_iff_eq, List.length_ofFn]
    constructor
    · intro hrange p
      have hentry := congrArg (·[(p : Nat)]?) hrange
      simpa using hentry
    · intro hp
      apply List.ext_getElem
      · simp
      · intro p _ _
        simp [hp]
  · simp only [Bool.not_eq_true', List.any_eq_false, List.forall_mem_ofFn_iff, id_eq, bne_iff_ne,
      not_not]
    exact (Schema.matching h).symm.forall_congr_left.trans (by simp)

/-- The columns are equal when partners stand at equal positions and have equal types. -/
theorem map_typed_eq_iff : s.columns.map Column.typed = canonical.columns.map Column.typed ↔
    (∀ p, (Schema.matching h p : Nat) = p) ∧
      ∀ p, (s.columnAt p).type = (canonical.columnAt (Schema.matching h p)).type := by
  have hlength : s.columns.length = canonical.columns.length :=
    Fin.equiv_iff_eq.1 ⟨Schema.matching h⟩
  constructor
  · intro heq
    have htyped : ∀ p, (s.columnAt p).typed = (canonical.columnAt (p.cast hlength)).typed := by
      intro p
      have hentry := List.getElem_of_eq heq (i := p) (by simp)
      simpa [Schema.columnAt] using hentry
    have hposition : ∀ p, Schema.matching h p = p.cast hlength := fun p =>
      Schema.position_unique ((Schema.name_matching h p).trans (congrArg Prod.fst (htyped p)))
    refine ⟨fun p => by rw [hposition]; rfl, fun p => ?_⟩
    rw [hposition]
    exact congrArg Prod.snd (htyped p)
  · rintro ⟨hposition, htype⟩
    refine List.ext_getElem (by simpa using hlength) fun p hleft hright => ?_
    have hp : p < s.columns.length := by simpa using hleft
    have hpartner : Schema.matching h ⟨p, hp⟩ = ⟨p, hlength ▸ hp⟩ := Fin.ext (hposition ⟨p, hp⟩)
    have hname := Schema.name_matching h ⟨p, hp⟩
    have htype := htype ⟨p, hp⟩
    rw [hpartner] at hname htype
    rw [List.getElem_map, List.getElem_map]
    exact Prod.ext hname.symm htype

theorem matches_ofSchema :
    (ofSchema canonical s).Matches canonical s (Schema.matching h) where
  name := Schema.name_matching h
  permutation := permutation_ofSchema h
  projection := projection_ofSchema h
  casts := casts_ofSchema h
  identity := (isIdentity_ofSchema_iff h).trans (map_typed_eq_iff h).symm

end OperandAlignment

/-- **The canonical schema and how the operands map to it.** -/
theorem align_canonical_and_matches {first : Schema} {rest : List Schema} {a : Alignment}
    (h : align (first :: rest) = .ok a) :
    a.canonical.names = first.names ∧
    (∀ c ∈ a.canonical.columns,
      (∀ x ∈ declarations (first :: rest) c.name, x.type.Widens c.type) ∧
      (∀ t, (∀ x ∈ declarations (first :: rest) c.name, x.type.Widens t) → c.type.Widens t) ∧
      c.nullability = .ofAll ((declarations (first :: rest) c.name).map (·.nullability))) ∧
    List.Forall₂ (fun s o => ∃ f, o.Matches a.canonical s f) (first :: rest) a.operands := by
  obtain ⟨hne, hmerges, hoperands⟩ := align_cons_eq_ok_iff.1 h
  refine ⟨hmerges.names_eq, fun c hc => ?_, ?_⟩
  · obtain ⟨d, hd, hfold⟩ := hmerges.foldlM_eq_ok hc
    rw [declarations_cons hd]
    exact ⟨widens_of_foldlM hfold, fun t => widens_of_foldlM_of_forall hfold,
      nullability_of_foldlM hfold⟩
  · rw [hoperands]
    refine List.forall₂_map_right_iff.2 (List.forall₂_same.2 fun s hs => ?_)
    have hnames := ((alignsTo_cons_iff.2 ⟨hne, hmerges⟩).widens s hs).names
    exact ⟨Schema.matching hnames, OperandAlignment.matches_ofSchema hnames⟩

/-! ## An example -/

/-- Two columns, in an order that depends on the flag; the second operand declares wider types. -/
def balances (archived : Bool) : Schema where
  columns :=
    if archived then
      [⟨"balance", .decimal (some 7) (some 2), .nullable⟩, ⟨"id", .integer .i64, .notNull⟩]
    else [⟨"id", .integer .i32, .notNull⟩, ⟨"balance", .decimal (some 5) (some 2), .unknown⟩]
  nodup := by cases archived <;> decide
  named := by cases archived <;> decide

theorem balances_matched : ∃ a, align [balances false, balances true] = .ok a ∧
    a.canonical.names = ["id", "balance"] ∧
    a.canonical.columns.map (·.nullability) = [.notNull, .nullable] ∧
    (∀ c ∈ a.canonical.columns, ∀ x ∈ declarations [balances false, balances true] c.name,
      x.type.Widens c.type) ∧
    a.operands.map (·.permutation) = [[0, 1], [1, 0]] ∧
    ∃ o f, a.operands[1]? = some o ∧ o.Matches a.canonical (balances true) f := by
  obtain ⟨a, ha⟩ : ∃ a, align [balances false, balances true] = .ok a := ⟨_, rfl⟩
  obtain ⟨hnames, hcolumns, hoperands⟩ := align_canonical_and_matches ha
  refine ⟨a, ha, hnames, by cases ha; rfl, fun c hc => (hcolumns c hc).1, by cases ha; rfl, ?_⟩
  obtain ⟨-, hmatches⟩ := List.forall₂_iff_get.1 hoperands
  have hlength : 1 < a.operands.length := by cases ha; decide
  obtain ⟨f, hf⟩ := hmatches 1 (by decide) hlength
  exact ⟨_, f, List.getElem?_eq_getElem hlength, hf⟩

end SetQuery
