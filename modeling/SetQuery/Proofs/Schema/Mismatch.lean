import SetQuery.Proofs.Schema.Compatible

/-!
# How alignment fails

Alignment looks for an empty schema first and then merges from left to right, so what it reports is
the first schema without columns or the first one that does not merge with those before it.
`Refuses` says why a schema does not merge: names are compared before types, and types column by
column in the order of the first schema.

**Theorem (`align_outcome`).** Schemas align exactly when none is empty, all have the names of the
first one, and all declared types of one name have a common type pairwise. Otherwise the report
names the first empty operand, or the last operand of the shortest front part that does not align,
with the missing names, else the extra names, else the first column whose type has no common type
with that of the operands before.
-/

namespace SetQuery

namespace Schema

/-! ## Why a schema does not merge -/

/-- Why a schema does not merge with the schemas before it, of which the first one and the canonical
schema are given. -/
inductive Refuses (first merged s : Schema) : MismatchReason → Prop
  | missing : first.missingFrom s ≠ [] → Refuses first merged s (.missing (first.missingFrom s))
  | extra : first.missingFrom s = [] → s.missingFrom first ≠ [] →
      Refuses first merged s (.extra (s.missingFrom first))
  | incompatible {front back : List Column} {c d : Column} : first.missingFrom s = [] →
      s.missingFrom first = [] → merged.columns = front ++ c :: back →
      (∀ b ∈ front, s.Admits b) → s.find? c.name = some d → c.type.widen d.type = none →
      Refuses first merged s (.incompatible c.name c.type d.type)

variable {first merged s t u : Schema} {reason : MismatchReason} {rest : List Schema}

/-- Columns fail to merge at the first one that the schema does not admit. -/
theorem exists_of_mergeColumns_eq_error {columns : List Column}
    (hnames : ∀ c ∈ columns, c.name ∈ t.names) (h : mergeColumns t columns = .error reason) :
    ∃ front c back d, columns = front ++ c :: back ∧ (∀ b ∈ front, t.Admits b) ∧
      t.find? c.name = some d ∧ c.type.widen d.type = none ∧
      reason = .incompatible c.name c.type d.type := by
  induction columns generalizing reason with
  | nil => cases h
  | cons c columns ih =>
    obtain ⟨hname, hnames⟩ := List.forall_mem_cons.1 hnames
    obtain ⟨d, hfind⟩ := exists_find?_iff.2 hname
    rw [mergeColumns, hfind] at h
    cases hwiden : c.type.widen d.type with
    | none =>
      simp only [mergeColumn, hwiden] at h
      cases h
      exact ⟨[], c, columns, d, rfl, by simp, hfind, hwiden, rfl⟩
    | some type =>
      simp only [mergeColumn, hwiden, Except.map_eq_error_iff] at h
      obtain ⟨front, c', back, d', rfl, hfront, hclash⟩ := ih hnames h
      have hadmits : t.Admits c := ⟨d, hfind, by rw [hwiden]; rfl⟩
      exact ⟨c :: front, c', back, d', rfl, List.forall_mem_cons.2 ⟨hadmits, hfront⟩, hclash⟩

theorem missingFrom_congr (h : s.names = t.names) :
    s.missingFrom u = t.missingFrom u ∧ u.missingFrom s = u.missingFrom t := by
  simp only [missingFrom, h, and_self]

theorem refuses_of_merge (hnames : merged.names = first.names)
    (h : merged.merge s = .error reason) : Refuses first merged s reason := by
  obtain ⟨hmissing, hextra⟩ := missingFrom_congr (u := s) hnames
  rw [merge, hmissing, hextra] at h
  split at h
  · next hne =>
    cases h
    exact .missing hne
  · next hnone =>
    split at h
    · next hne =>
      cases h
      exact .extra (not_not.1 hnone) hne
    · next hnone' =>
      split at h
      · next hcolumns =>
        cases h
        have hsub := missingFrom_eq_nil_iff.1 (hmissing.trans (not_not.1 hnone))
        obtain ⟨front, c, back, d, hc, hfront, hd, hwiden, rfl⟩ :=
          exists_of_mergeColumns_eq_error (fun c hc => hsub _ (mem_names.2 ⟨c, hc, rfl⟩)) hcolumns
        exact .incompatible (not_not.1 hnone) (not_not.1 hnone') hc hfront hd hwiden
      · cases h

/-- Merging stops at the first schema that does not merge with those before it. -/
theorem exists_of_mergeAll_eq_error {position : Nat} {m : Mismatch}
    (h : mergeAll first merged position rest = .error m) :
    ∃ front s back u, rest = front ++ s :: back ∧ Merges merged front u ∧
      u.merge s = .error m.reason ∧ m = ⟨position + front.length, first, s, m.reason⟩ := by
  induction rest generalizing merged position with
  | nil => cases h
  | cons s rest ih =>
    rw [mergeAll] at h
    split at h
    · next reason hmerge =>
      cases h
      exact ⟨[], s, rest, merged, rfl, .nil merged, hmerge, rfl⟩
    · next next hmerge =>
      obtain ⟨front, s', back, u, rfl, hfront, hu, hm⟩ := ih h
      refine ⟨s :: front, s', back, u, rfl, .cons hmerge hfront, hu, ?_⟩
      rw [hm, List.length_cons, Nat.add_right_comm, Nat.add_assoc]

end Schema

/-! ## What is reported -/

theorem exists_of_firstEmpty? {schemas : List Schema} {s : Schema} {position : Nat}
    (h : firstEmpty? schemas = some (s, position)) : ∃ front back,
      schemas = front ++ s :: back ∧ position = front.length ∧ s.isEmpty = true ∧
      ∀ t ∈ front, t.isEmpty = false := by
  obtain ⟨hempty, as, bs, hsplit, hbefore⟩ := List.find?_eq_some_iff_append.1 h
  obtain ⟨front, tail, rfl, rfl, htail⟩ := List.zipIdx_eq_append_iff.1 hsplit
  obtain ⟨s', back, rfl, hs, -⟩ := List.zipIdx_eq_cons_iff.1 htail.symm
  cases hs
  refine ⟨front, back, rfl, Nat.zero_add _, hempty, fun t ht => ?_⟩
  obtain ⟨i, hi⟩ := List.mem_iff_getElem?.1 ht
  have hfalse := hbefore (t, i) (List.mem_zipIdx_iff_getElem?.2 (by simpa using hi))
  simpa using hfalse

/-- The report is about the schema behind a front part: it is the first without columns, or all
have columns and it does not merge with the front part. -/
inductive Misaligned : List Schema → Mismatch → Prop
  | empty {first s : Schema} {front back : List Schema} :
      (front ++ s :: back).head? = some first → (∀ t ∈ front, t.isEmpty = false) →
      s.isEmpty = true → Misaligned (front ++ s :: back) ⟨front.length, first, s, .noColumns⟩
  | refused {first s u : Schema} {front back : List Schema} {reason : MismatchReason} :
      (∀ t ∈ first :: front ++ s :: back, t.isEmpty = false) → AlignsTo (first :: front) u →
      u.merge s = .error reason →
      Misaligned (first :: front ++ s :: back) ⟨front.length + 1, first, s, reason⟩

theorem misaligned_of_align {schemas : List Schema} {m : Mismatch}
    (h : align schemas = .error m) : Misaligned schemas m := by
  cases schemas with
  | nil => cases h
  | cons first rest =>
    rw [align] at h
    split at h
    · next s position hempty =>
      cases h
      obtain ⟨front, back, hsplit, rfl, hs, hfront⟩ := exists_of_firstEmpty? hempty
      have hhead := congrArg List.head? hsplit
      rw [hsplit]
      exact .empty hhead.symm hfront hs
    · next hnone =>
      have hall := firstEmpty?_eq_none_iff.1 hnone
      obtain ⟨front, s, back, u, rfl, hmerges, hs, hm⟩ :=
        Schema.exists_of_mergeAll_eq_error (Except.map_eq_error_iff.1 h)
      rw [hm, Nat.add_comm 1]
      rw [← List.cons_append] at hall ⊢
      have hu : AlignsTo (first :: front) u :=
        alignsTo_cons_iff.2 ⟨fun t ht => hall t (List.mem_append_left _ ht), hmerges⟩
      exact .refused hall hu hs

/-- A schema that does not merge with the schemas before it does not align with them. -/
theorem not_exists_align_of_merge {first s u : Schema} {front : List Schema}
    {reason : MismatchReason} (hu : AlignsTo (first :: front) u)
    (hs : u.merge s = .error reason) : ¬ ∃ a, align (first :: front ++ [s]) = .ok a := by
  rintro ⟨a, ha⟩
  obtain ⟨m, hm, hrest⟩ := alignsTo_append_iff.1 (AlignsTo.of_align ha)
  obtain rfl := hu.unique hm
  obtain ⟨-, _ | ⟨hmerge, -⟩⟩ := alignsTo_cons_iff.1 hrest
  cases hs.symm.trans hmerge

/-! ## When schemas align -/

/-- Schemas are compatible when they have the names of the first one and the declared types of each
name have a common type. -/
theorem forall_compatible_iff {schemas : List Schema} :
    (∀ s ∈ schemas, ∀ t ∈ schemas, s.Compatible t) ↔
      (∀ first ∈ schemas.head?, ∀ s ∈ schemas, ∀ name, name ∈ s.names ↔ name ∈ first.names) ∧
      ∀ name, ∀ c ∈ declarations schemas name, ∀ d ∈ declarations schemas name,
        (c.type.widen d.type).isSome := by
  constructor
  · intro h
    refine ⟨fun first hfirst s hs => (h s hs first (List.mem_of_mem_head? hfirst)).names,
      fun name c hc d hd => ?_⟩
    obtain ⟨s, hs, hfindc⟩ := mem_declarations.1 hc
    obtain ⟨t, ht, hfindd⟩ := mem_declarations.1 hd
    obtain ⟨hcs, hcname⟩ := Schema.find?_eq_some_iff.1 hfindc
    obtain ⟨hdt, hdname⟩ := Schema.find?_eq_some_iff.1 hfindd
    exact (h s hs t ht).types c hcs d hdt (hcname.trans hdname.symm)
  · rintro ⟨hnames, htypes⟩ s hs t ht
    obtain ⟨first, hfirst⟩ : ∃ first, schemas.head? = some first :=
      Option.isSome_iff_exists.1 (List.isSome_head?.2 (List.ne_nil_of_mem hs))
    refine ⟨fun name => (hnames first hfirst s hs name).trans (hnames first hfirst t ht name).symm,
      fun c hc d hd hname => htypes c.name c ?_ d ?_⟩
    · exact mem_declarations.2 ⟨s, hs, Schema.find?_eq_some_iff.2 ⟨hc, rfl⟩⟩
    · exact mem_declarations.2 ⟨t, ht, Schema.find?_eq_some_iff.2 ⟨hd, hname.symm⟩⟩

/-- **When schemas align, and what is reported when they do not.** -/
theorem align_outcome (schemas : List Schema) :
    ((∃ a, align schemas = .ok a) ↔ (∀ s ∈ schemas, s.isEmpty = false) ∧
      (∀ first ∈ schemas.head?, ∀ s ∈ schemas, ∀ name, name ∈ s.names ↔ name ∈ first.names) ∧
      ∀ name, ∀ c ∈ declarations schemas name, ∀ d ∈ declarations schemas name,
        (c.type.widen d.type).isSome) ∧
    (∀ a, align schemas = .ok a → Schema.ofColumns a.canonical.columns = .ok a.canonical) ∧
    ∀ m, align schemas = .error m →
      schemas.head? = some m.expected ∧ ∃ front back, schemas = front ++ m.found :: back ∧
        m.operand = front.length ∧
        ((∃ s ∈ schemas, s.isEmpty = true) → m.found.isEmpty = true ∧
          (∀ s ∈ front, s.isEmpty = false) ∧ m.reason = .noColumns) ∧
        ((∀ s ∈ schemas, s.isEmpty = false) →
          (∀ shorter, shorter <+: front → ∃ a, align shorter = .ok a) ∧
          (¬ ∃ a, align (front ++ [m.found]) = .ok a) ∧
          ∃ merged, AlignsTo front merged ∧
            Schema.Refuses m.expected merged m.found m.reason) := by
  refine ⟨?_, fun a _ => Schema.ofColumns_columns a.canonical, fun m hm => ?_⟩
  · rw [exists_align_iff, forall_compatible_iff]
  · cases misaligned_of_align hm with
    | @empty first s front back hhead hfront hs =>
      refine ⟨hhead, front, back, rfl, rfl, fun _ => ⟨hs, hfront, rfl⟩, fun hall => ?_⟩
      exact absurd hs (Bool.eq_false_iff.1 (hall s (by simp)))
    | @refused first s u front back reason hall hu hs =>
      refine ⟨rfl, first :: front, back, rfl, rfl, fun ⟨t, ht, hempty⟩ => ?_,
        fun _ => ⟨?_, not_exists_align_of_merge hu hs, u, hu, ?_⟩⟩
      · exact absurd hempty (Bool.eq_false_iff.1 (hall t ht))
      · exact fun shorter hshorter => exists_align_of_subset hshorter.subset hu.exists_align
      · exact Schema.refuses_of_merge hu.names_eq hs

/-! ## An example -/

/-- Its `balance` fits the two other schemas, its `id` does not. -/
def measures : Schema where
  columns := [⟨"balance", .decimal (some 9) (some 2), .unknown⟩, ⟨"id", .float .double, .notNull⟩]
  nodup := by decide
  named := by decide

/-- The type that is expected is the one of the second operand, to which the first was widened. An
empty operand is reported first, wherever it stands. -/
theorem measures_refused :
    (∃ m, align [balances false, balances true, measures] = .error m ∧
      m.reason = .incompatible "id" (.integer .i64) (.float .double) ∧
      ∃ front merged, m.operand = front.length ∧ AlignsTo front merged ∧
        (¬ ∃ a, align (front ++ [m.found]) = .ok a) ∧
        Schema.Refuses (balances false) merged measures m.reason) ∧
    ∃ m, align [balances false, measures, .empty] = .error m ∧ m.found = .empty ∧
      m.reason = .noColumns := by
  constructor
  · refine ⟨_, rfl, rfl, ?_⟩
    obtain ⟨-, front, _, -, hoperand, -, hlate⟩ :=
      (align_outcome [balances false, balances true, measures]).2.2 _ rfl
    obtain ⟨-, hfails, merged, hfront, hrefuses⟩ := hlate (by decide)
    exact ⟨front, merged, hoperand, hfront, hfails, hrefuses⟩
  · refine ⟨_, rfl, rfl, ?_⟩
    obtain ⟨-, _, _, -, -, hempty, -⟩ :=
      (align_outcome [balances false, measures, .empty]).2.2 _ rfl
    exact (hempty ⟨.empty, by simp, rfl⟩).2.2

end SetQuery
