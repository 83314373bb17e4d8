import SetQuery.Proofs.Dialect.Paging
import SetQuery.Proofs.Sql.Level

/-!
# The outermost SELECT of a text

What stands in parentheses belongs to a query inside, so the outermost SELECTs of a text are what
is left when everything in parentheses is taken out (`outside`). `SelectsOrdered` says of a text that
its outermost SELECT orders its rows and takes some of them, and `Unordered` that no SELECT there
orders its rows.

Main statements: `selectsOrdered_ofQuery` (a query with an ordering around it selects in that order)
and `Query.unordered_parts` (SELECTs that keep their rows as they are write no ordering).
-/

namespace SetQuery.Sql

/-! ## Taking out what stands in parentheses -/

/-- The parts that stand in no parentheses, where so many are open in front of the first part. -/
def outside : Nat → List Part → List Part
  | _, [] => []
  | depth, .opening :: rest => outside (depth + 1) rest
  | depth, .closing :: rest => outside (depth - 1) rest
  | depth, p :: rest => if depth = 0 then p :: outside 0 rest else outside depth rest

theorem outside_cons {p : Part} (hopening : p ≠ .opening) (hclosing : p ≠ .closing) (depth : Nat)
    (rest : List Part) : outside depth (p :: rest) =
      if depth = 0 then p :: outside 0 rest else outside depth rest :=
  outside.eq_4 depth p rest hopening hclosing

theorem outside_word (text : String) (rest : List Part) :
    outside 0 (.word text :: rest) = .word text :: outside 0 rest := rfl

theorem Balanced.append {l r : List Part} (hl : Balanced l) (hr : Balanced r) :
    Balanced (l ++ r) := by
  induction hl with
  | nil => exact hr
  | plain hopening hclosing _ ih => exact .plain hopening hclosing ih
  | group hinner _ _ ih =>
    rw [List.cons_append, List.append_assoc]
    exact .group hinner ih

/-- Inside of parentheses, what is balanced is taken out. -/
theorem Balanced.outside_succ {inner : List Part} (h : Balanced inner) (depth : Nat)
    (rest : List Part) : outside (depth + 1) (inner ++ rest) = outside (depth + 1) rest := by
  induction h generalizing depth rest with
  | nil => rfl
  | plain hopening hclosing _ ih =>
    rw [List.cons_append, outside_cons hopening hclosing, if_neg (Nat.succ_ne_zero depth), ih]
  | group _ _ ihinner ih =>
    rw [List.cons_append, List.append_assoc, outside, ihinner, List.cons_append, outside]
    exact ih depth rest

theorem Balanced.outside_group {inner : List Part} (h : Balanced inner) (rest : List Part) :
    outside 0 (.opening :: (inner ++ .closing :: rest)) = outside 0 rest := by
  rw [outside, h.outside_succ, outside]

/-- What is balanced is not seen behind it. -/
theorem Balanced.outside_append {l : List Part} (h : Balanced l) (r : List Part) :
    outside 0 (l ++ r) = outside 0 l ++ outside 0 r := by
  induction h with
  | nil => rfl
  | plain hopening hclosing _ ih =>
    rw [List.cons_append, outside_cons hopening hclosing, outside_cons hopening hclosing,
      if_pos rfl, if_pos rfl, ih, List.cons_append]
  | group hinner _ _ ih =>
    rw [List.cons_append, List.append_assoc, List.cons_append, hinner.outside_group,
      hinner.outside_group, ih]

theorem ne_of_frame?_eq_none {p : Part} (h : p.frame? = none) : p ≠ .opening ∧ p ≠ .closing := by
  cases p with
  | opening => cases h
  | closing => cases h
  | _ => simp

theorem Balanced.cons {p : Part} {rest : List Part} (hp : p.frame? = none) (h : Balanced rest) :
    Balanced (p :: rest) :=
  .plain (ne_of_frame?_eq_none hp).1 (ne_of_frame?_eq_none hp).2 h

section

variable {parts : List Part} (h : ∀ p ∈ parts, p.frame? = none)

include h

/-- Parts without parentheses are balanced. -/
theorem balanced_of_frame : Balanced parts := by
  induction parts with
  | nil => exact .nil
  | cons p rest ih =>
    obtain ⟨hp, hrest⟩ := List.forall_mem_cons.1 h
    exact .cons hp (ih hrest)

/-- Nothing is taken out of parts without parentheses. -/
theorem outside_of_frame : outside 0 parts = parts := by
  induction parts with
  | nil => rfl
  | cons p rest ih =>
    obtain ⟨hp, hrest⟩ := List.forall_mem_cons.1 h
    obtain ⟨hopening, hclosing⟩ := ne_of_frame?_eq_none hp
    rw [outside_cons hopening hclosing, if_pos rfl, ih hrest]

end

/-! ## Lists with commas -/

theorem balanced_commaSeparated {lists : List (List Part)} (h : ∀ l ∈ lists, Balanced l) :
    Balanced (commaSeparated lists) := by
  induction lists with
  | nil => exact .nil
  | cons first rest ih =>
    obtain ⟨hfirst, hrest⟩ := List.forall_mem_cons.1 h
    cases rest with
    | nil => exact hfirst
    | cons second rest => exact hfirst.append (.cons rfl (ih hrest))

theorem outside_commaSeparated {lists : List (List Part)} (h : ∀ l ∈ lists, Balanced l) :
    outside 0 (commaSeparated lists) = commaSeparated (lists.map (outside 0)) := by
  induction lists with
  | nil => rfl
  | cons first rest ih =>
    obtain ⟨hfirst, hrest⟩ := List.forall_mem_cons.1 h
    cases rest with
    | nil => rfl
    | cons second rest =>
      rw [commaSeparated_cons_cons, hfirst.outside_append, outside_word, ih hrest]
      rfl

theorem spell_commaSeparated (d : Dialect) (lists : List (List Part)) :
    spell d (commaSeparated lists) = ", ".intercalate (lists.map (spell d)) := by
  induction lists with
  | nil => rfl
  | cons first rest ih =>
    cases rest with
    | nil => exact String.intercalate_singleton.symm
    | cons second rest =>
      rw [commaSeparated_cons_cons, spell_append, spell_cons, ih]
      simp only [List.map_cons, String.intercalate_cons_cons, String.append_assoc]
      rfl

/-! ## SELECTs -/

theorem frame?_columnParts (names : List String) : ∀ p ∈ columnParts names, p.frame? = none :=
  List.filterMap_eq_nil_iff.1 (skipsWords_frame.filterMap_columnParts names)

/-- The window over which rows are numbered. -/
def windowParts (columns : List String) : List Part :=
  .word "PARTITION BY " :: (columnParts columns ++ .word " ORDER BY " :: columnParts columns)

theorem balanced_window (columns : List String) : Balanced (windowParts columns) := by
  have hcolumns : Balanced (columnParts columns) := balanced_of_frame (frame?_columnParts columns)
  exact .cons rfl (hcolumns.append (.cons rfl hcolumns))

theorem SelectItem.parts_rowNumber (d : Dialect) (columns : List String) (name : String) :
    (rowNumber columns name).parts d = .word "ROW_NUMBER" :: .opening :: ([] ++ .closing ::
      .word " OVER " :: .opening :: (windowParts columns ++ .closing ::
        [.word " AS ", .generated name])) := by
  simp [parts, windowParts]

theorem SelectItem.balanced_parts (d : Dialect) (item : SelectItem) : Balanced (item.parts d) := by
  cases item with
  | every => exact .cons rfl .nil
  | column name => exact .cons rfl .nil
  | cast name type =>
    have hinner : Balanced [.column name, .word (" AS " ++ d.castType type)] :=
      balanced_of_frame (by simp [Part.frame?])
    exact .cons rfl (.group hinner (balanced_of_frame (by simp [Part.frame?])))
  | rowNumber columns name =>
    rw [parts_rowNumber]
    exact .cons rfl (.group .nil (.cons rfl (.group (balanced_window columns)
      (balanced_of_frame (by simp [Part.frame?])))))

theorem balanced_of_mem_items (d : Dialect) (items : List SelectItem) :
    ∀ l ∈ items.map (·.parts d), Balanced l := by
  intro l hl
  obtain ⟨item, -, rfl⟩ := List.mem_map.1 hl
  exact item.balanced_parts d

theorem balanced_items (d : Dialect) (items : List SelectItem) :
    Balanced (commaSeparated (items.map (·.parts d))) :=
  balanced_commaSeparated (balanced_of_mem_items d items)

section

variable (d : Dialect) (head : Head)

theorem Head.frame?_lead :
    ∀ p ∈ Select.leadParts head.distinct (d.paging head.limit head.offset).top, p.frame? = none :=
  List.filterMap_eq_nil_iff.1 (skipsWords_frame.filterMap_leadParts _ _)

/-- The ordering and the clauses behind it have no parentheses. -/
theorem Head.frame?_tail : ∀ p ∈ Select.orderParts (orderByParts head.orderBy)
      (d.paging head.limit head.offset).needsOrder ++
        (d.paging head.limit head.offset).clauses.map fun clause => .word clause.text,
    p.frame? = none := by
  refine List.forall_mem_append.2 ⟨?_, fun p hp => ?_⟩
  · exact List.filterMap_eq_nil_iff.1 (skipsWords_frame.filterMap_orderParts _ _)
  · obtain ⟨clause, -, rfl⟩ := List.mem_map.1 hp
    rfl

variable {source : List Part}

theorem Head.parts_select : (head.select d source).parts d =
    Select.leadParts head.distinct (d.paging head.limit head.offset).top ++
      (commaSeparated (head.items.map (·.parts d)) ++ .word " FROM " :: (source ++
        (Select.orderParts (orderByParts head.orderBy)
          (d.paging head.limit head.offset).needsOrder ++
            (d.paging head.limit head.offset).clauses.map fun clause => .word clause.text))) := by
  rw [Select.parts, List.append_assoc, List.append_assoc, List.append_assoc]
  rfl

theorem Head.balanced_select (h : Balanced source) :
    Balanced ((head.select d source).parts d) := by
  rw [head.parts_select]
  refine (balanced_of_frame (head.frame?_lead d)).append ((balanced_items d head.items).append ?_)
  exact .cons rfl (h.append (balanced_of_frame (head.frame?_tail d)))

/-- Outside of the parentheses, a SELECT leaves what is outside of them in its items and in its
source. -/
theorem Head.outside_select (h : Balanced source) :
    outside 0 ((head.select d source).parts d) =
      Select.leadParts head.distinct (d.paging head.limit head.offset).top ++
        (outside 0 (commaSeparated (head.items.map (·.parts d))) ++ .word " FROM " ::
          (outside 0 source ++ (Select.orderParts (orderByParts head.orderBy)
            (d.paging head.limit head.offset).needsOrder ++
              (d.paging head.limit head.offset).clauses.map fun clause => .word clause.text))) := by
  have hlead := head.frame?_lead d
  rw [head.parts_select, (balanced_of_frame hlead).outside_append, outside_of_frame hlead,
    (balanced_items d head.items).outside_append, outside_word, h.outside_append,
    outside_of_frame (head.frame?_tail d)]

end

theorem frame?_aliasParts (d : Dialect) (label : String) :
    ∀ p ∈ aliasParts d label, p.frame? = none := by
  simp [aliasParts, Part.frame?]

namespace Query

theorem frame?_tableParts (d : Dialect) (table : String) (label? : Option String) :
    ∀ p ∈ .table table :: (label?.map (aliasParts d)).getD [], p.frame? = none := by
  cases label? with
  | none => simp [Part.frame?]
  | some label => exact List.forall_mem_cons.2 ⟨rfl, frame?_aliasParts d label⟩

theorem balanced_group {inner : List Part} (h : Balanced inner) (d : Dialect) (label : String) :
    Balanced (.opening :: inner ++ .closing :: aliasParts d label) :=
  .group h (balanced_of_frame (frame?_aliasParts d label))

/-- **The parentheses of a query are closed as they are opened.** -/
theorem balanced_parts (d : Dialect) (q : Query) : Balanced (q.parts d) := by
  induction q with
  | verbatim sql => exact .cons rfl .nil
  | ofTable head table label? =>
    exact head.balanced_select d (balanced_of_frame (frame?_tableParts d table label?))
  | ofQuery head source label ih => exact head.balanced_select d (balanced_group ih d label)
  | compound left op right ihl ihr => exact ihl.append (.plain (by simp) (by simp) ihr)

end Query

/-! ## An ordering outside -/

/-- A sort key as it is written. -/
def keyText (d : Dialect) (key : SortKey) : String :=
  d.quoteIdent key.column ++ if key.ascending then " ASC" else " DESC"

theorem spell_sortKeyParts (d : Dialect) (key : SortKey) : spell d (sortKeyParts key) =
    keyText d key := by
  rw [sortKeyParts, spell_cons, spell_cons, spell_nil, String.append_empty]
  rfl

/-- The number of rows in front of a select list. -/
def topParts : Option Nat → List Part
  | none => []
  | some n => [.word ("TOP (" ++ toString n ++ ") ")]

theorem leadParts_false (top : Option Nat) :
    Select.leadParts false top = .word "SELECT " :: topParts top := by
  cases top <;> rfl

theorem spell_topParts (d : Dialect) (top : Option Nat) : spell d (topParts top) = topText top := by
  cases top with
  | none => rfl
  | some n =>
    rw [topParts, spell_cons, spell_nil, String.append_empty]
    rfl

/-- The outermost SELECT orders its rows by the keys, and takes of them, in the clauses that the
dialect has, the rows that the limit and the offset ask for. -/
def SelectsOrdered (d : Dialect) (keys : List SortKey) (limit offset : Option Nat)
    (parts : List Part) : Prop :=
  Balanced parts ∧ ∃ (top body clauses : List Part) (label : String) (range : RowRange),
    outside 0 parts = .word "SELECT " :: top ++ .word "*" :: .word " FROM " :: aliasParts d label ++
      .word " ORDER BY " :: body ++ clauses ∧
    spell d body = ", ".intercalate (keys.map (keyText d)) ∧
    d.range? true (clauseWords (spell d top)) (clauseWords (spell d clauses)) = some range ∧
    ∀ {α : Type} (rows : List α), rows.length < 2 ^ 63 → range.of rows = page limit offset rows

/-- **An ordering around a query is that of the outermost SELECT.** -/
theorem selectsOrdered_ofQuery (d : Dialect) {head : Head} (hdistinct : head.distinct = false)
    (hitems : head.items = [.every]) (hkeys : head.orderBy ≠ []) (source : Query)
    (label : String) : SelectsOrdered d head.orderBy head.limit head.offset
      ((Query.ofQuery head source label).parts d) := by
  obtain ⟨range, hrange, hrows⟩ :=
    d.exists_range?_paging head.limit head.offset fun _ => (rfl : true = true)
  have horder : orderByParts head.orderBy = some (commaSeparated (head.orderBy.map sortKeyParts)) :=
    if_neg (by simpa using hkeys)
  have hsource : outside 0 (.opening :: source.parts d ++ .closing :: aliasParts d label) =
      aliasParts d label := by
    rw [List.cons_append, (source.balanced_parts d).outside_group,
      outside_of_frame (frame?_aliasParts d label)]
  refine ⟨Query.balanced_parts d _, topParts (d.paging head.limit head.offset).top,
    commaSeparated (head.orderBy.map sortKeyParts),
    (d.paging head.limit head.offset).clauses.map fun clause => .word clause.text, label, range,
    ?_, ?_, ?_, fun rows => hrows rows⟩
  · rw [Query.parts,
      head.outside_select d (Query.balanced_group (source.balanced_parts d) d label), hsource,
      horder, Select.orderParts, hdistinct, leadParts_false, hitems, List.cons_append,
      List.append_assoc, List.append_assoc, List.cons_append]
    rfl
  · rw [spell_commaSeparated, List.map_map]
    exact congrArg _ (List.map_congr_left fun key _ => spell_sortKeyParts d key)
  · rw [spell_topParts, spell_clauses, clauseWords_topText, PagingClause.clauseWords_join]
    exact hrange

/-! ## No ordering outside -/

/-- The part starts an ordering, or may have one inside. -/
def Part.mayOrder : Part → Bool
  | .word text => " ORDER BY".toList.isPrefixOf text.toList
  | .verbatim _ => true
  | _ => false

/-- No SELECT outside of the parentheses orders its rows. -/
def Unordered (parts : List Part) : Prop :=
  Balanced parts ∧ ∀ p ∈ outside 0 parts, p.mayOrder = false

/-- The SELECT neither orders its rows nor leaves some of them out. -/
structure Head.KeepsRows (head : Head) : Prop where
  orderBy : head.orderBy = []
  limit : head.limit = none
  offset : head.offset = none

/-- The SELECTs that stand in no parentheses keep their rows as they are. -/
def Query.KeepsRows : Query → Prop
  | .verbatim _ => False
  | .ofTable head _ _ => head.KeepsRows
  | .ofQuery head _ _ => head.KeepsRows
  | .compound left _ right => left.KeepsRows ∧ right.KeepsRows

theorem SelectItem.mayOrder_outside (d : Dialect) (item : SelectItem) :
    ∀ p ∈ outside 0 (item.parts d), p.mayOrder = false := by
  cases item with
  | every => exact List.forall_mem_singleton.2 rfl
  | column name => exact List.forall_mem_singleton.2 rfl
  | cast name type =>
    show ∀ p ∈ [.word "CAST", .word " AS ", .column name], Part.mayOrder p = false
    simp [Part.mayOrder, List.isPrefixOf]
  | rowNumber columns name =>
    rw [parts_rowNumber, outside_word, Balanced.nil.outside_group, outside_word,
      (balanced_window columns).outside_group]
    show ∀ p ∈ [.word "ROW_NUMBER", .word " OVER ", .word " AS ", .generated name],
      Part.mayOrder p = false
    simp [Part.mayOrder, List.isPrefixOf]

theorem mayOrder_aliasParts (d : Dialect) (label : String) :
    ∀ p ∈ aliasParts d label, p.mayOrder = false := by
  refine List.forall_mem_cons.2 ⟨?_, List.forall_mem_singleton.2 rfl⟩
  cases d <;> decide

theorem Head.KeepsRows.mayOrder_select {head : Head} (h : head.KeepsRows) (d : Dialect)
    {source : List Part} (hbalanced : Balanced source)
    (hsource : ∀ p ∈ outside 0 source, p.mayOrder = false) :
    ∀ p ∈ outside 0 ((head.select d source).parts d), p.mayOrder = false := by
  have hpaging : d.paging head.limit head.offset = {} := by
    rw [h.limit, h.offset]
    cases d <;> rfl
  have hitems : ∀ p ∈ outside 0 (commaSeparated (head.items.map (·.parts d))),
      p.mayOrder = false := by
    rw [outside_commaSeparated (balanced_of_mem_items d head.items), List.map_map]
    refine forall_mem_commaSeparated (fun l hl => ?_) (by decide)
    obtain ⟨item, -, rfl⟩ := List.mem_map.1 hl
    exact item.mayOrder_outside d
  have hlead : ∀ p ∈ Select.leadParts head.distinct none, p.mayOrder = false := by
    cases head.distinct <;> decide
  rw [head.outside_select d hbalanced, hpaging, h.orderBy]
  refine List.forall_mem_append.2 ⟨hlead, List.forall_mem_append.2 ⟨hitems, ?_⟩⟩
  refine List.forall_mem_cons.2 ⟨by decide, List.forall_mem_append.2 ⟨hsource, ?_⟩⟩
  exact List.forall_mem_nil _

namespace Query

theorem mayOrder_parts (d : Dialect) {q : Query} (h : q.KeepsRows) :
    ∀ p ∈ outside 0 (q.parts d), p.mayOrder = false := by
  induction q with
  | verbatim sql => exact absurd h id
  | ofTable head table label? =>
    have hframe := frame?_tableParts d table label?
    refine Head.KeepsRows.mayOrder_select h d (balanced_of_frame hframe) ?_
    rw [outside_of_frame hframe]
    refine List.forall_mem_cons.2 ⟨rfl, ?_⟩
    cases label? with
    | none => exact List.forall_mem_nil _
    | some label => exact mayOrder_aliasParts d label
  | ofQuery head source label =>
    have hsource := source.balanced_parts d
    refine Head.KeepsRows.mayOrder_select h d (balanced_group hsource d label) ?_
    rw [List.cons_append, hsource.outside_group, outside_of_frame (frame?_aliasParts d label)]
    exact mayOrder_aliasParts d label
  | compound left op right ihl ihr =>
    rw [parts, (left.balanced_parts d).outside_append]
    exact List.forall_mem_append.2 ⟨ihl h.1, List.forall_mem_cons.2 ⟨rfl, ihr h.2⟩⟩

/-- **SELECTs that keep their rows as they are write no ordering.** -/
theorem unordered_parts (d : Dialect) {q : Query} (h : q.KeepsRows) : Unordered (q.parts d) :=
  ⟨q.balanced_parts d, mayOrder_parts d h⟩

end Query

end SetQuery.Sql
