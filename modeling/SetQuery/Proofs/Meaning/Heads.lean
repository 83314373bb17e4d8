import SetQuery.Proofs.Meaning.Answers

/-!
# What the emitted heads answer

An emitted query reads columns, numbers rows, or takes a page of its source. Each of these is
described by its rows alone: reading maps them (`mem_answers_readingHead`), numbering gives each
copy of a row its own number, in whatever order the rows are listed (`mem_answers_numberingHead`),
and a page takes some of them (`answers_page`).
-/

namespace SetQuery

open Sql

variable {V : Type}

/-! ## Heads without ordering and limit -/

/-- The value that is read of a row. -/
def ColumnRead.value (E : Engine V) (c : ColumnRead) (r : Row V) : V :=
  match c.cast with
  | some (_, type) => E.cast type (r c.name)
  | none => r c.name

namespace Sql.Head

variable [DecidableEq V] {E : Engine V} {head : Head} {s out : Relation V}

theorem mem_answers_of_isPlain (h : head.isPlain = true) :
    out ∈ head.answers E s ↔ head.Applies s.columns ∧ out.columns = head.columnsFrom s.columns ∧
      ∃ source : List (List V), (source : Multiset (List V)) = s.rows ∧
        out.rows = head.kept (mapEarlier (head.rowFrom E s.columns) [] source) := by
  obtain ⟨distinct, items, orderBy, limit, offset⟩ := head
  simp only [isPlain, Bool.and_eq_true, List.isEmpty_iff, Option.isNone_iff_eq_none] at h
  obtain ⟨⟨rfl, rfl⟩, rfl⟩ := h
  constructor
  · rintro ⟨happlies, hcolumns, source, listed, hsource, hlisted, -, hrows⟩
    exact ⟨happlies, hcolumns, source, hsource, hrows.trans hlisted⟩
  · rintro ⟨happlies, hcolumns, source, hsource, hrows⟩
    obtain ⟨listed, hlisted⟩ := Quotient.exists_rep out.rows
    refine ⟨happlies, hcolumns, source, listed, hsource, hlisted.trans hrows, ?_, hlisted.symm⟩
    exact List.pairwise_of_forall fun _ _ => trivial

theorem rowFrom_readingHead (reads : List ColumnRead) (distinct : Bool) (source : List String)
    (earlier : List (List V)) (row : List V) :
    rowFrom E { readingHead reads with distinct := distinct } source earlier row =
      reads.map fun c => c.value E (E.value source row) := by
  rw [rowFrom, readingHead, List.flatMap_map, List.map_eq_flatMap]
  refine List.flatMap_congr fun c _ => ?_
  obtain ⟨name, _ | ⟨_, _⟩⟩ := c <;> rfl

theorem columnsFrom_readingHead (reads : List ColumnRead) (distinct : Bool)
    (source : List String) :
    columnsFrom { readingHead reads with distinct := distinct } source = reads.map (·.name) := by
  rw [columnsFrom, readingHead, List.flatMap_map, List.map_eq_flatMap]
  refine List.flatMap_congr fun c _ => ?_
  obtain ⟨name, _ | ⟨_, _⟩⟩ := c <;> rfl

theorem applies_readingHead {reads : List ColumnRead} {distinct : Bool} {source : List String} :
    Applies { readingHead reads with distinct := distinct } source ↔
      reads ≠ [] ∧ ∀ c ∈ reads, source.count c.name = 1 := by
  have hreads : ∀ c : ColumnRead, c.item.reads = [c.name] := by
    rintro ⟨name, _ | ⟨_, _⟩⟩ <;> rfl
  simp [Applies, readingHead, hreads]

/-- Reading columns by name, with or without duplicates. -/
theorem mem_answers_distinct_readingHead {reads : List ColumnRead} (distinct : Bool) :
    out ∈ answers E { readingHead reads with distinct := distinct } s ↔
      (reads ≠ [] ∧ ∀ c ∈ reads, s.columns.count c.name = 1) ∧ out.columns = reads.map (·.name) ∧
        out.rows = kept { readingHead reads with distinct := distinct }
          (s.rows.map fun row => reads.map fun c => c.value E (E.value s.columns row)) := by
  rw [mem_answers_of_isPlain rfl, applies_readingHead, columnsFrom_readingHead]
  have hrow : rowFrom E { readingHead reads with distinct := distinct } s.columns =
      fun _ row => reads.map fun c => c.value E (E.value s.columns row) := by
    funext earlier row
    exact rowFrom_readingHead reads distinct s.columns earlier row
  simp only [hrow, mapEarlier_eq_map, ← Multiset.map_coe]
  constructor
  · rintro ⟨happlies, hcolumns, source, hsource, hrows⟩
    exact ⟨happlies, hcolumns, hsource ▸ hrows⟩
  · rintro ⟨happlies, hcolumns, hrows⟩
    obtain ⟨source, hsource⟩ := Quotient.exists_rep s.rows
    exact ⟨happlies, hcolumns, source, hsource, by rw [← hsource] at hrows; exact hrows⟩

theorem mem_answers_readingHead {reads : List ColumnRead} :
    out ∈ (readingHead reads).answers E s ↔
      (reads ≠ [] ∧ ∀ c ∈ reads, s.columns.count c.name = 1) ∧ out.columns = reads.map (·.name) ∧
        out.rows = s.rows.map fun row => reads.map fun c => c.value E (E.value s.columns row) :=
  mem_answers_distinct_readingHead false

theorem columns_eq_readingHead (names : List String) :
    columns names = readingHead (names.map fun name => ⟨name, none⟩) := by
  rw [columns, readingHead, List.map_map]
  rfl

/-- Reading columns by their names alone. -/
theorem mem_answers_columns_of_count {names : List String} {distinct : Bool} (hne : names ≠ [])
    (hcount : ∀ name ∈ names, s.columns.count name = 1) :
    out ∈ answers E { columns names with distinct := distinct } s ↔ out.columns = names ∧
      out.rows = kept { columns names with distinct := distinct }
        (s.rows.map fun row => names.map (E.value s.columns row)) := by
  rw [columns_eq_readingHead, mem_answers_distinct_readingHead]
  simp only [List.map_map]
  have hnames : names.map ((·.name) ∘ fun name => (⟨name, none⟩ : ColumnRead)) = names :=
    List.map_id names
  have happlies : (names.map fun name => (⟨name, none⟩ : ColumnRead)) ≠ [] ∧
      ∀ c ∈ names.map fun name => (⟨name, none⟩ : ColumnRead), s.columns.count c.name = 1 := by
    refine ⟨by simpa using hne, fun c hc => ?_⟩
    obtain ⟨name, hname, rfl⟩ := List.mem_map.1 hc
    exact hcount name hname
  rw [hnames]
  exact ⟨fun h => h.2, fun h => ⟨happlies, h⟩⟩

/-- Reading all columns of a relation in their order changes nothing but the duplicates. -/
theorem mem_answers_columns {names : List String} {distinct : Bool} (hne : names ≠ [])
    (hnodup : names.Nodup) (hs : s.columns = names) :
    out ∈ answers E { columns names with distinct := distinct } s ↔
      out.columns = names ∧ out.rows = kept { columns names with distinct := distinct } s.rows := by
  have hrows : (s.rows.map fun row => names.map (E.value s.columns row)) = s.rows := by
    refine (Multiset.map_congr rfl fun row hrow => ?_).trans (Multiset.map_id s.rows)
    rw [hs]
    exact E.map_value hnodup (hs ▸ s.width row hrow)
  rw [mem_answers_columns_of_count hne (fun name hname =>
    hs ▸ List.count_eq_one_of_mem hnodup hname), hrows]

/-! ## Numbering -/

theorem rowFrom_numberingHead {reserved names : List String} (hnodup : names.Nodup)
    {earlier : List (List V)} {row : List V}
    (hearlier : ∀ other ∈ earlier, other.length = names.length) (hrow : row.length = names.length) :
    rowFrom E (numberingHead reserved names) names earlier row =
      row ++ [E.number (Multiset.count row earlier + 1)] := by
  have hagree : (earlier.filter fun other =>
      names.map (E.value names other) = names.map (E.value names row)).length =
        Multiset.count row earlier := by
    rw [Multiset.count_eq_card_filter_eq, Multiset.filter_coe, Multiset.coe_card]
    congr 1
    refine List.filter_congr fun other hother => ?_
    rw [E.map_value hnodup (hearlier other hother), E.map_value hnodup hrow]
    exact decide_eq_decide.2 eq_comm
  have hread : (names.map SelectItem.column).flatMap (·.values E names earlier row) = row := by
    rw [List.flatMap_map]
    refine Eq.trans ?_ (E.map_value hnodup hrow)
    rw [List.map_eq_flatMap]
    rfl
  rw [rowFrom, numberingHead, List.flatMap_append, hread, List.flatMap_singleton,
    SelectItem.values, hagree]

/-- However the rows are listed, their copies are numbered from 1 on. -/
theorem mem_answers_numberingHead {reserved names : List String} (hnodup : names.Nodup)
    (hs : s.columns = names) :
    out ∈ (numberingHead reserved names).answers E s ↔
      out.columns = names ++ [helperColumn reserved] ∧
        out.rows = (SetOp.numbered s.rows).map fun x => x.1 ++ [E.number (x.2 + 1)] := by
  have happlies : (numberingHead reserved names).Applies names := by
    refine ⟨by simp [numberingHead], fun item hitem name hname => ?_, fun _ h => nomatch h⟩
    refine List.count_eq_one_of_mem hnodup ?_
    rcases List.mem_append.1 hitem with hitem | hitem
    · obtain ⟨_, hmem, rfl⟩ := List.mem_map.1 hitem
      rw [List.mem_singleton.1 hname]
      exact hmem
    · cases List.mem_singleton.1 hitem
      exact hname
  have hcolumns : (numberingHead reserved names).columnsFrom names =
      names ++ [helperColumn reserved] := by
    rw [columnsFrom, numberingHead, List.flatMap_append, List.flatMap_map, List.flatMap_singleton]
    congr 1
    exact (List.map_eq_flatMap ..).symm.trans (List.map_id names)
  have hrows : ∀ source : List (List V), (source : Multiset (List V)) = s.rows →
      (mapEarlier (rowFrom E (numberingHead reserved names) names) [] source :
        Multiset (List V)) =
        (SetOp.numbered s.rows).map fun x => x.1 ++ [E.number (x.2 + 1)] := by
    intro source hsource
    have hwidth : ∀ row ∈ source, row.length = names.length := fun row hrow =>
      hs ▸ s.width row (hsource ▸ hrow)
    rw [mapEarlier_congr (fun _ _ => rowFrom_numberingHead hnodup)
        (fun _ h => absurd h List.not_mem_nil) hwidth,
      ← map_mapEarlier (fun x : List V × Nat => x.1 ++ [E.number (x.2 + 1)])
        (fun earlier row => (row, Multiset.count row earlier)), ← Multiset.map_coe,
      coe_mapEarlier_count, hsource]
  rw [mem_answers_of_isPlain rfl, hs, hcolumns]
  constructor
  · rintro ⟨-, hcols, source, hsource, hout⟩
    exact ⟨hcols, hout.trans (hrows source hsource)⟩
  · rintro ⟨hcols, hout⟩
    obtain ⟨source, hsource⟩ := Quotient.exists_rep s.rows
    exact ⟨happlies, hcols, source, hsource, hout.trans (hrows source hsource).symm⟩

/-! ## Pages -/

/-- The head that takes a page of all columns. -/
def paging (keys : List SortKey) (most skipped : Option Nat) : Head :=
  { every with orderBy := keys, limit := most, offset := skipped }

theorem columnsFrom_paging (keys : List SortKey) (most skipped : Option Nat)
    (source : List String) : (paging keys most skipped).columnsFrom source = source :=
  List.flatMap_singleton ..

theorem mapEarlier_paging (keys : List SortKey) (most skipped : Option Nat) (columns : List String)
    (source : List (List V)) :
    mapEarlier (rowFrom E (paging keys most skipped) columns) [] source = source := by
  have hrow : rowFrom E (paging keys most skipped) columns = fun _ row => row := by
    funext earlier row
    exact List.flatMap_singleton ..
  rw [hrow, mapEarlier_eq_map]
  exact List.map_id source

theorem applies_paging {keys : List SortKey} {names : List String} (hnodup : names.Nodup)
    (hkeys : ∀ key ∈ keys, key.column ∈ names) (most skipped : Option Nat) :
    (paging keys most skipped).Applies names := by
  refine ⟨List.cons_ne_nil _ _, fun item hitem name hname => ?_, fun key hkey => ?_⟩
  · cases List.mem_singleton.1 hitem
    cases hname
  · rw [columnsFrom_paging]
    exact List.count_eq_one_of_mem hnodup (hkeys key hkey)

/-- A page of rows by name is a page of the relation that lists them. -/
theorem answers_paging {names : List String} (hnodup : names.Nodup) {keys : List SortKey}
    (hkeys : ∀ key ∈ keys, key.column ∈ names) (most skipped : Option Nat)
    {rows : Multiset (Row V)} (hrows : ∀ r ∈ rows, E.Within names r) :
    (paging keys most skipped).answers E (Relation.ofRows names rows) =
      Relation.ofRows names '' {kept | E.Takes keys most skipped rows kept} := by
  have hnames : ∀ r ∈ rows, E.value names (names.map r) = r := by
    intro r hr
    funext name
    rw [E.value_map]
    by_cases h : name ∈ names
    · rw [if_pos h]
    · rw [if_neg h, hrows r hr name h]
  ext out
  constructor
  · rintro ⟨-, hcolumns, source, listed, hsource, hlisted, hsorted, hout⟩
    have hcolumns : out.columns = names := hcolumns.trans (columnsFrom_paging ..)
    rw [mapEarlier_paging] at hlisted
    have hlisted : (listed : Multiset (List V)) = rows.map fun r => names.map r :=
      hlisted.trans hsource
    refine ⟨page most skipped (listed.map (E.value names)), ⟨_, ?_, ?_, rfl⟩, ?_⟩
    · rw [← Multiset.map_coe, hlisted, Multiset.map_map]
      exact (Multiset.map_congr rfl hnames).trans (Multiset.map_id rows)
    · rw [List.pairwise_map]
      exact hcolumns ▸ hsorted
    · refine Relation.ext hcolumns.symm (Eq.trans ?_ hout.symm)
      rw [Relation.rows_ofRows, Multiset.map_coe, map_page, List.map_map]
      congr 2
      refine (List.map_congr_left fun row hrow => ?_).trans (List.map_id listed)
      have hmem : row ∈ (listed : Multiset (List V)) := hrow
      rw [hlisted] at hmem
      obtain ⟨r, -, rfl⟩ := Multiset.mem_map.1 hmem
      exact E.map_value hnodup (List.length_map _)
  · rintro ⟨_, ⟨listed, rfl, hsorted, rfl⟩, rfl⟩
    refine ⟨applies_paging hnodup hkeys most skipped, (columnsFrom_paging ..).symm,
      listed.map fun r => names.map r, listed.map fun r => names.map r, rfl, ?_, ?_, ?_⟩
    · rw [mapEarlier_paging]
      rfl
    · rw [List.pairwise_map]
      refine hsorted.imp_of_mem fun {r r'} hr hr' h => ?_
      change E.NotAfter keys (E.value names _) (E.value names _)
      rw [hnames r hr, hnames r' hr']
      exact h
    · exact (Multiset.map_coe _ _).trans (congrArg _ (map_page _ _ _ _))

end Sql.Head

end SetQuery
