import Mathlib.Data.List.Nodup
import SetQuery.Alignment
import SetQuery.Proofs.Except
import SetQuery.Proofs.Schema.Widening

/-!
# Aligning in pieces

Alignment folds the operands' schemas into the first one from left to right. Two consequences
carry the rest: the canonical schema has wider types than every operand and promises fewer columns
without nulls (`AlignsTo.relaxesTo`), and a list may be aligned in pieces, the canonical schema of a
front part standing for that part (`alignsTo_append_iff`).
-/

namespace SetQuery

/-- There are no nulls in a column that takes its values from two, if neither has any. -/
theorem Nullability.combine_eq_notNull_iff {a b : Nullability} :
    a.combine b = .notNull ↔ a = .notNull ∧ b = .notNull := by
  cases a <;> cases b <;> simp [combine]

namespace Schema

/-! ## Columns by name -/

theorem mem_names {s : Schema} {name : String} :
    name ∈ s.names ↔ ∃ c ∈ s.columns, c.name = name := List.mem_map

theorem names_nodup (s : Schema) : s.names.Nodup := s.nodup

/-- A name stands for one column. -/
theorem eq_of_name_eq {s : Schema} {c d : Column} (hc : c ∈ s.columns) (hd : d ∈ s.columns)
    (h : c.name = d.name) : c = d :=
  List.inj_on_of_nodup_map s.nodup hc hd h

theorem find?_eq_some_iff {s : Schema} {name : String} {c : Column} :
    s.find? name = some c ↔ c ∈ s.columns ∧ c.name = name := by
  constructor
  · intro h
    exact ⟨List.mem_of_find?_eq_some h, by simpa using List.find?_some h⟩
  · rintro ⟨hc, rfl⟩
    cases hf : s.columns.find? (·.name = c.name) with
    | none => exact absurd (List.find?_eq_none.1 hf c hc) (by simp)
    | some d =>
      have hd : d.name = c.name := by simpa using List.find?_some hf
      rw [find?, hf, eq_of_name_eq (List.mem_of_find?_eq_some hf) hc hd]

/-! ## Widening, column by column -/

/-- The second schema has the columns of the first, with types to which those of the first widen. -/
structure Widens (s t : Schema) : Prop where
  names : ∀ name, name ∈ s.names ↔ name ∈ t.names
  types : ∀ c ∈ s.columns, ∀ d ∈ t.columns, c.name = d.name → c.type.Widens d.type

theorem Widens.refl (s : Schema) : s.Widens s where
  names := fun _ => Iff.rfl
  types := fun c hc d hd h => by rw [eq_of_name_eq hc hd h]; exact .refl _

theorem Widens.trans {s t u : Schema} (hst : s.Widens t) (htu : t.Widens u) : s.Widens u where
  names := fun name => (hst.names name).trans (htu.names name)
  types := fun c hc e he h => by
    obtain ⟨d, hd, hname⟩ := mem_names.1 ((hst.names _).1 (mem_names.2 ⟨c, hc, rfl⟩))
    exact (hst.types c hc d hd hname.symm).trans (htu.types d hd e he (hname.trans h))

/-- The second schema promises no more than the first: it has the same names and wider types, and a
column without nulls has none in the first schema either. -/
structure RelaxesTo (s t : Schema) : Prop where
  widens : s.Widens t
  notNull : ∀ c ∈ s.columns, ∀ d ∈ t.columns, c.name = d.name →
    d.nullability = .notNull → c.nullability = .notNull

theorem RelaxesTo.of_columns {s t : Schema} (hnames : ∀ name, name ∈ s.names ↔ name ∈ t.names)
    (h : ∀ c ∈ s.columns, ∀ d ∈ t.columns, c.name = d.name →
      c.type.Widens d.type ∧ (d.nullability = .notNull → c.nullability = .notNull)) :
    s.RelaxesTo t where
  widens := ⟨hnames, fun c hc d hd hname => (h c hc d hd hname).1⟩
  notNull := fun c hc d hd hname => (h c hc d hd hname).2

theorem RelaxesTo.refl (s : Schema) : s.RelaxesTo s where
  widens := .refl s
  notNull := fun c hc d hd h hd' => by rwa [eq_of_name_eq hc hd h]

theorem RelaxesTo.trans {s t u : Schema} (hst : s.RelaxesTo t) (htu : t.RelaxesTo u) :
    s.RelaxesTo u where
  widens := hst.widens.trans htu.widens
  notNull := fun c hc e he h hnull => by
    obtain ⟨d, hd, hname⟩ := mem_names.1 ((hst.widens.names _).1 (mem_names.2 ⟨c, hc, rfl⟩))
    exact hst.notNull c hc d hd hname.symm (htu.notNull d hd e he (hname.trans h) hnull)

/-! ## Merging -/

theorem mergeColumn_eq_ok {c found merged : Column} (h : mergeColumn c found = .ok merged) :
    c.type.widen found.type = some merged.type ∧
      merged.nullability = c.nullability.combine found.nullability := by
  unfold mergeColumn at h
  split at h <;> cases h
  exact ⟨‹_›, rfl⟩

/-- A merged column comes from a column of either side. -/
theorem of_mem_mergeColumns {s : Schema} {columns merged : List Column}
    (h : mergeColumns s columns = .ok merged) {m : Column} (hm : m ∈ merged) :
    ∃ c ∈ columns, ∃ d ∈ s.columns, c.name = m.name ∧ d.name = m.name ∧
      mergeColumn c d = .ok m := by
  induction columns generalizing merged with
  | nil => cases h; cases hm
  | cons c rest ih =>
    rw [mergeColumns] at h
    split at h
    · cases h
    · next found hfound =>
      split at h
      · cases h
      · next first hfirst =>
        obtain ⟨tail, htail, rfl⟩ := Except.map_eq_ok_iff.1 h
        rcases List.mem_cons.1 hm with rfl | hm
        · have hd := find?_eq_some_iff.1 hfound
          have hname := name_mergeColumn hfirst
          exact ⟨c, List.mem_cons_self, found, hd.1, hname.symm, hd.2.trans hname.symm, hfirst⟩
        · obtain ⟨c', hc', rest⟩ := ih htail hm
          exact ⟨c', List.mem_cons_of_mem _ hc', rest⟩

theorem missingFrom_eq_nil_iff {s t : Schema} :
    s.missingFrom t = [] ↔ ∀ name ∈ s.names, name ∈ t.names := by
  simp [missingFrom, List.filter_eq_nil_iff]

/-- Schemas merge when they have the same names and their columns of the same names merge. -/
theorem merge_eq_ok_iff {s t m : Schema} :
    s.merge t = .ok m ↔ (∀ name ∈ s.names, name ∈ t.names) ∧ (∀ name ∈ t.names, name ∈ s.names) ∧
      mergeColumns t s.columns = .ok m.columns := by
  rw [← missingFrom_eq_nil_iff, ← missingFrom_eq_nil_iff, merge]
  by_cases hmissing : s.missingFrom t = []
  · by_cases hextra : t.missingFrom s = []
    · rw [if_neg (not_not.2 hmissing), if_neg (not_not.2 hextra)]
      simp only [hmissing, hextra, true_and]
      split
      · next h => simp [h]
      · next columns h =>
        constructor
        · intro hm; cases hm; exact h
        · intro hm
          cases h.symm.trans hm
          exact congrArg Except.ok (Schema.ext_columns rfl)
    · rw [if_neg (not_not.2 hmissing), if_pos hextra]
      simp [hextra]
  · rw [if_pos hmissing]
    simp [hmissing]

/-- The merged schema promises no more than either schema. -/
theorem relaxesTo_of_merge {s t m : Schema} (h : s.merge t = .ok m) :
    s.RelaxesTo m ∧ t.RelaxesTo m := by
  have hnames := names_merge h
  obtain ⟨hst, hts, hm⟩ := merge_eq_ok_iff.1 h
  constructor
  · refine .of_columns (fun name => by rw [hnames]) fun c hc d hd hname => ?_
    obtain ⟨c', hc', _, _, hc'd, -, hmerge⟩ := of_mem_mergeColumns hm hd
    rw [eq_of_name_eq hc hc' (hname.trans hc'd.symm)]
    obtain ⟨htype, hnull⟩ := mergeColumn_eq_ok hmerge
    refine ⟨SqlType.widens_left htype, fun hd => ?_⟩
    exact (Nullability.combine_eq_notNull_iff.1 (hnull.symm.trans hd)).1
  · refine .of_columns (fun name => ?_) fun c hc d hd hname => ?_
    · rw [hnames]
      exact ⟨hts name, hst name⟩
    · obtain ⟨_, _, c', hc', -, hc'd, hmerge⟩ := of_mem_mergeColumns hm hd
      rw [eq_of_name_eq hc hc' (hname.trans hc'd.symm)]
      obtain ⟨htype, hnull⟩ := mergeColumn_eq_ok hmerge
      refine ⟨SqlType.widens_right htype, fun hd => ?_⟩
      exact (Nullability.combine_eq_notNull_iff.1 (hnull.symm.trans hd)).2

/-- The schema with all schemas of a list merged into it one after the other. -/
inductive Merges : Schema → List Schema → Schema → Prop
  | nil (s : Schema) : Merges s [] s
  | cons {s t m u : Schema} {rest : List Schema} :
      s.merge t = .ok m → Merges m rest u → Merges s (t :: rest) u

theorem mergeAll_eq_ok_iff {first merged u : Schema} {position : Nat} {rest : List Schema} :
    mergeAll first merged position rest = .ok u ↔ Merges merged rest u := by
  induction rest generalizing merged position with
  | nil =>
    constructor
    · intro h; cases h; exact .nil _
    · rintro ⟨⟩; rfl
  | cons t rest ih =>
    rw [mergeAll]
    split
    · next hm =>
      constructor
      · intro h; cases h
      · rintro (_ | ⟨hm', -⟩); rw [hm] at hm'; cases hm'
    · next m hm =>
      rw [ih]
      constructor
      · exact .cons hm
      · rintro (_ | ⟨hm', h⟩); rw [hm] at hm'; cases hm'; exact h

theorem merges_append_iff {s u : Schema} {l r : List Schema} :
    Merges s (l ++ r) u ↔ ∃ m, Merges s l m ∧ Merges m r u := by
  induction l generalizing s with
  | nil =>
    constructor
    · intro h; exact ⟨s, .nil s, h⟩
    · rintro ⟨_, ⟨⟩, h⟩; exact h
  | cons t l ih =>
    constructor
    · rintro (_ | ⟨hm, h⟩)
      obtain ⟨m, hl, hr⟩ := ih.1 h
      exact ⟨m, .cons hm hl, hr⟩
    · rintro ⟨m, _ | ⟨hm, hl⟩, hr⟩
      exact .cons hm (ih.2 ⟨m, hl, hr⟩)

theorem Merges.names_eq {s u : Schema} {rest : List Schema} (h : Merges s rest u) :
    u.names = s.names := by
  induction h with
  | nil => rfl
  | cons hm _ ih => exact ih.trans (names_merge hm)

theorem Merges.relaxesTo {s u : Schema} {rest : List Schema} (h : Merges s rest u) :
    s.RelaxesTo u ∧ ∀ t ∈ rest, t.RelaxesTo u := by
  induction h with
  | nil s => exact ⟨.refl s, fun _ h => nomatch h⟩
  | cons hm _ ih =>
    obtain ⟨hs, ht⟩ := relaxesTo_of_merge hm
    refine ⟨hs.trans ih.1, fun t' ht' => ?_⟩
    rcases List.mem_cons.1 ht' with rfl | ht'
    · exact ht.trans ih.1
    · exact ih.2 t' ht'

end Schema

/-! ## Alignment -/

/-- The schema is the canonical one of the list. -/
def AlignsTo (schemas : List Schema) (canonical : Schema) : Prop :=
  (align schemas).map (·.canonical) = .ok canonical

theorem firstEmpty?_eq_none_iff {schemas : List Schema} :
    firstEmpty? schemas = none ↔ ∀ s ∈ schemas, s.isEmpty = false := by
  simp only [firstEmpty?, List.find?_eq_none, Bool.not_eq_true, Prod.forall]
  constructor
  · intro h s hs
    obtain ⟨i, hi⟩ := List.mem_iff_getElem?.1 hs
    exact h s i (List.mem_zipIdx_iff_getElem?.2 (by simpa using hi))
  · intro h s i hi
    exact h s (List.mem_iff_getElem?.2 ⟨i, by simpa using List.mem_zipIdx_iff_getElem?.1 hi⟩)

/-- How every operand maps to the canonical schema is read off that schema. -/
theorem align_cons_eq_ok_iff {first : Schema} {rest : List Schema} {a : Alignment} :
    align (first :: rest) = .ok a ↔
      (∀ s ∈ first :: rest, s.isEmpty = false) ∧ Schema.Merges first rest a.canonical ∧
        a.operands = (first :: rest).map (OperandAlignment.ofSchema a.canonical) := by
  rw [← firstEmpty?_eq_none_iff, align]
  split
  · next h => simp [h]
  · next h =>
    rw [Except.map_eq_ok_iff]
    simp only [Schema.mergeAll_eq_ok_iff, h, true_and]
    constructor
    · rintro ⟨u, hu, rfl⟩
      exact ⟨hu, rfl⟩
    · rintro ⟨hu, ho⟩
      exact ⟨a.canonical, hu, by rw [← ho]⟩

theorem alignsTo_cons_iff {first u : Schema} {rest : List Schema} :
    AlignsTo (first :: rest) u ↔
      (∀ s ∈ first :: rest, s.isEmpty = false) ∧ Schema.Merges first rest u := by
  rw [AlignsTo, Except.map_eq_ok_iff]
  constructor
  · rintro ⟨a, ha, rfl⟩
    obtain ⟨he, hm, -⟩ := align_cons_eq_ok_iff.1 ha
    exact ⟨he, hm⟩
  · rintro ⟨he, hm⟩
    exact ⟨⟨u, (first :: rest).map (OperandAlignment.ofSchema u)⟩,
      align_cons_eq_ok_iff.2 ⟨he, hm, rfl⟩, rfl⟩

namespace AlignsTo

theorem unique {schemas : List Schema} {s t : Schema} (hs : AlignsTo schemas s)
    (ht : AlignsTo schemas t) : s = t :=
  Except.ok.inj (hs.symm.trans ht)

theorem names_eq {first u : Schema} {rest : List Schema} (h : AlignsTo (first :: rest) u) :
    u.names = first.names :=
  (alignsTo_cons_iff.1 h).2.names_eq

theorem isEmpty_eq_false {first u : Schema} {rest : List Schema}
    (h : AlignsTo (first :: rest) u) : u.isEmpty = false := by
  have hlength := congrArg List.length h.names_eq
  have hfirst := (alignsTo_cons_iff.1 h).1 first List.mem_cons_self
  simp only [Schema.names, List.length_map] at hlength
  simp only [Schema.isEmpty, List.isEmpty_eq_false_iff, ← List.length_pos_iff] at hfirst ⊢
  omega

/-- The canonical schema promises no more than any operand. -/
theorem relaxesTo {first u : Schema} {rest : List Schema} (h : AlignsTo (first :: rest) u) :
    ∀ s ∈ first :: rest, s.RelaxesTo u := by
  obtain ⟨hfirst, hrest⟩ := (alignsTo_cons_iff.1 h).2.relaxesTo
  exact List.forall_mem_cons.2 ⟨hfirst, hrest⟩

/-- Every operand widens to the canonical schema. -/
theorem widens {first u : Schema} {rest : List Schema} (h : AlignsTo (first :: rest) u) :
    ∀ s ∈ first :: rest, s.Widens u := fun s hs => (h.relaxesTo s hs).widens

end AlignsTo

/-- **Alignment in pieces.** A front part of a list may be aligned first, and its canonical schema
then stands for it. -/
theorem alignsTo_append_iff {first u : Schema} {l r : List Schema} :
    AlignsTo (first :: (l ++ r)) u ↔ ∃ m, AlignsTo (first :: l) m ∧ AlignsTo (m :: r) u := by
  simp only [alignsTo_cons_iff, Schema.merges_append_iff]
  constructor
  · rintro ⟨he, m, hl, hr⟩
    have hfront : AlignsTo (first :: l) m :=
      alignsTo_cons_iff.2 ⟨fun s hs => he s (List.cons_append ▸ List.mem_append_left r hs), hl⟩
    refine ⟨m, ⟨(alignsTo_cons_iff.1 hfront).1, hl⟩, fun s hs => ?_, hr⟩
    rcases List.mem_cons.1 hs with rfl | hs
    · exact hfront.isEmpty_eq_false
    · exact he s (by simp [hs])
  · rintro ⟨m, ⟨hel, hl⟩, her, hr⟩
    refine ⟨fun s hs => ?_, m, hl, hr⟩
    rcases List.mem_append.1 (List.cons_append ▸ hs : s ∈ (first :: l) ++ r) with hs | hs
    · exact hel s hs
    · exact her s (List.mem_cons_of_mem _ hs)

end SetQuery
