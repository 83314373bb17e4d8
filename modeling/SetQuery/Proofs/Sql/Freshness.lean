import SetQuery.Compile
import SetQuery.Proofs.Expr.Resolution
import SetQuery.Proofs.Sql.Names
import SetQuery.Proofs.Sql.Picking
import SetQuery.Proofs.Sql.Selects

/-!
# Aliases and row-number columns

The names in a text that no user chose are the aliases of its relations and its columns of row
numbers (`Query.generatedNames_parts`). Both are searched for: `Search` is the run of the search
through numbers, and it ends wherever it starts (`search_freeNumber`).

The invariant of writing a statement is `Drawn`: the aliases written so far are different, each has
a number that the counter has passed, and none is reserved. A step of a chain draws up to three
aliases (`Progress.draws_step`).

**Theorem (`Expr.generated_names_fresh`).** The aliases of a statement differ from each other and
from its row-number columns, and neither is the name of a column anywhere in the expression.
-/

namespace SetQuery

namespace Sql

/-! ## The search for a number -/

/-- The search for a number from `n` on ends at `k`: it passes over numbers with reserved names. -/
inductive Search (name : Nat → String) (reserved : List String) : Nat → Nat → Prop
  | found {n : Nat} (h : name n ∉ reserved) : Search name reserved n n
  | next {n k : Nat} (h : name n ∈ reserved) (rest : Search name reserved (n + 1) k) :
      Search name reserved n k

namespace Search

variable {name : Nat → String} {reserved : List String} {n k : Nat}

theorem le (h : Search name reserved n k) : n ≤ k := by
  induction h with
  | found _ => exact Nat.le_refl _
  | next _ _ ih => exact Nat.le_of_succ_le ih

theorem name_not_mem (h : Search name reserved n k) : name k ∉ reserved := by
  induction h with
  | found h => exact h
  | next _ _ ih => exact ih

/-- The search ends at the first number whose name is not reserved. -/
theorem of_first (hn : n ≤ k) (hk : name k ∉ reserved)
    (hbefore : ∀ m, n ≤ m → m < k → name m ∈ reserved) : Search name reserved n k := by
  induction hd : k - n generalizing n with
  | zero =>
    obtain rfl : n = k := by omega
    exact .found hk
  | succ d ih =>
    apply Search.next (hbefore n (Nat.le_refl n) (by omega))
    exact ih (by omega) (fun m hm => hbefore m (by omega)) (by omega)

end Search

/-- The bounded search is long enough to end where the search ends. -/
theorem search_freeNumber {name : Nat → String} (hname : Function.Injective name)
    (reserved : List String) (n : Nat) :
    Search name reserved n (freeNumber name reserved (reserved.length + 1) n) :=
  .of_first (le_freeNumber ..) (name_freeNumber_not_reserved hname reserved n)
    fun _ hn hlt => mem_of_lt_freeNumber hn hlt

/-- The search for an alias ends. -/
theorem exists_search_freshAlias (reserved : List String) (n : Nat) :
    ∃ k, Search aliasName reserved n k ∧ freshAlias reserved n = (aliasName k, k + 1) :=
  ⟨_, search_freeNumber aliasName_injective reserved n, rfl⟩

/-- The search for a helper column ends. -/
theorem exists_search_helperColumn (reserved : List String) :
    ∃ k, Search helperName reserved 0 k ∧ helperColumn reserved = helperName k :=
  ⟨_, search_freeNumber helperName_injective reserved 0, rfl⟩

/-- Behind the common beginning an alias has digits, and a helper column has letters. -/
theorem aliasName_ne_helperName (n k : Nat) : aliasName n ≠ helperName k := by
  obtain ⟨letters, hletters, hr⟩ : ∃ s, helperName k = "_sw_" ++ s ∧ 'r' ∈ s.toList := by
    cases k with
    | zero => exact ⟨"rn", rfl, by decide⟩
    | succ k =>
      refine ⟨"rn_" ++ toString (k + 1), ?_, by simp⟩
      rw [helperName, ← String.append_assoc]
      rfl
  rw [hletters, aliasName]
  intro h
  obtain rfl := (String.append_right_inj "_sw_").1 h
  have hdigit : 'r'.isDigit = true := by
    apply Nat.isDigit_of_mem_toDigits (b := 10) (n := n) (by decide) (by decide)
    rw [← Nat.toList_repr]
    exact hr
  exact absurd hdigit (by decide)

/-! ## Generated names in a text -/

/-- The name of a part that no user chose. -/
def Part.generated? : Part → Option String
  | .generated name => some name
  | _ => none

/-- The names in a text that no user chose. -/
def generatedNames (parts : List Part) : List String := parts.filterMap Part.generated?

theorem skipsWords_generated : SkipsWords Part.generated? where
  word _ := rfl
  column _ := rfl

/-- The column of row numbers that an item adds. -/
def SelectItem.rowNumber? : SelectItem → Option String
  | .rowNumber _ name => some name
  | _ => none

/-- The columns of row numbers in a select list. -/
def Head.rowNumbers (head : Head) : List String := head.items.filterMap SelectItem.rowNumber?

theorem SelectItem.generatedNames_parts (d : Dialect) (item : SelectItem) :
    (item.parts d).filterMap Part.generated? = item.rowNumber?.toList := by
  have hcolumns : ∀ names, (columnParts names).filterMap Part.generated? = [] :=
    skipsWords_generated.filterMap_columnParts
  cases item <;> simp [parts, List.filterMap_cons, hcolumns, Part.generated?, rowNumber?]

/-- A SELECT adds columns of row numbers to the generated names of its source. -/
theorem Head.generatedNames_select (d : Dialect) (head : Head) (source : List Part) :
    generatedNames ((head.select d source).parts d) =
      head.rowNumbers ++ generatedNames source := by
  have hitems : (head.items.flatMap fun item => (item.parts d).filterMap Part.generated?) =
      head.rowNumbers := by
    simp only [SelectItem.generatedNames_parts]
    exact (List.filterMap_eq_flatMap_toList ..).symm
  rw [← hitems]
  exact skipsWords_generated.filterMap_select d head source

namespace Query

/-- The aliases of the relations from which a query selects. -/
def labels : Query → List String
  | .verbatim _ => []
  | .ofTable _ _ label? => label?.toList
  | .ofQuery _ source label => label :: source.labels
  | .compound left _ right => left.labels ++ right.labels

/-- The columns of row numbers in the select lists of a query. -/
def rowNumbers (q : Query) : List String := q.selects.flatMap Head.rowNumbers

/-- The names in the text of a query that no user chose are its aliases and its columns of row
numbers. -/
theorem generatedNames_parts (d : Dialect) (q : Query) :
    (generatedNames (q.parts d)).Perm (q.labels ++ q.rowNumbers) := by
  induction q with
  | verbatim sql => exact .nil
  | ofTable head table label? =>
    have hsource : generatedNames (.table table :: (label?.map (aliasParts d)).getD []) =
        label?.toList := by
      cases label? <;> rfl
    rw [parts, Head.generatedNames_select, hsource]
    simp only [labels, rowNumbers, selects, List.flatMap_cons, List.flatMap_nil, List.append_nil]
    exact List.perm_append_comm
  | ofQuery head source label ih =>
    have hsource : generatedNames (.opening :: source.parts d ++ .closing :: aliasParts d label) =
        generatedNames (source.parts d) ++ [label] := by
      simp [generatedNames, List.filterMap_cons, aliasParts, Part.generated?]
    rw [parts, Head.generatedNames_select, hsource, List.perm_iff_count]
    intro x
    have ih := ih.count_eq x
    simp only [rowNumbers, labels, selects, List.flatMap_cons, List.count_append,
      List.cons_append, List.count_cons, List.count_nil] at ih ⊢
    omega
  | compound left op right ihl ihr =>
    have hparts : generatedNames (parts d (.compound left op right)) =
        generatedNames (left.parts d) ++ generatedNames (right.parts d) := by
      simp [generatedNames, List.filterMap_cons, parts, Part.generated?]
    rw [hparts, List.perm_iff_count]
    intro x
    have ihl := ihl.count_eq x
    have ihr := ihr.count_eq x
    simp only [rowNumbers, labels, selects, List.flatMap_append, List.count_append] at ihl ihr ⊢
    omega

theorem labels_wrap (reserved : List String) (head : Head) (q : Query) (next : Nat) :
    (q.wrap reserved head next).1.labels = (freshAlias reserved next).1 :: q.labels := rfl

end Query

/-! ## Drawing aliases -/

/-- The names are aliases that were drawn while the counter went from `lo` to `hi`. -/
structure Drawn (reserved : List String) (lo hi : Nat) (names : List String) : Prop where
  le : lo ≤ hi
  nodup : names.Nodup
  not_mem : ∀ x ∈ names, x ∉ reserved
  exists_number : ∀ x ∈ names, ∃ k, lo ≤ k ∧ k < hi ∧ x = aliasName k

namespace Drawn

variable {reserved : List String} {lo mid hi : Nat} {names names' : List String}

theorem nil (lo : Nat) : Drawn reserved lo lo [] where
  le := Nat.le_refl lo
  nodup := .nil
  not_mem _ h := nomatch h
  exists_number _ h := nomatch h

theorem perm (h : Drawn reserved lo hi names) (hperm : names'.Perm names) :
    Drawn reserved lo hi names' where
  le := h.le
  nodup := hperm.nodup_iff.2 h.nodup
  not_mem x hx := h.not_mem x (hperm.mem_iff.1 hx)
  exists_number x hx := h.exists_number x (hperm.mem_iff.1 hx)

/-- Names that are drawn one after the other differ, because their numbers do. -/
theorem append (h : Drawn reserved lo mid names) (h' : Drawn reserved mid hi names') :
    Drawn reserved lo hi (names ++ names') where
  le := Nat.le_trans h.le h'.le
  nodup := by
    refine List.nodup_append.2 ⟨h.nodup, h'.nodup, fun x hx y hy hxy => ?_⟩
    obtain ⟨k, -, hk, rfl⟩ := h.exists_number x hx
    obtain ⟨k', hk', -, rfl⟩ := h'.exists_number y hy
    have := aliasName_injective hxy
    omega
  not_mem x hx := by
    rcases List.mem_append.1 hx with hx | hx
    · exact h.not_mem x hx
    · exact h'.not_mem x hx
  exists_number x hx := by
    rcases List.mem_append.1 hx with hx | hx
    · obtain ⟨k, hlo, hmid, rfl⟩ := h.exists_number x hx
      exact ⟨k, hlo, Nat.lt_of_lt_of_le hmid h'.le, rfl⟩
    · obtain ⟨k, hmid, hhi, rfl⟩ := h'.exists_number x hx
      exact ⟨k, Nat.le_trans h.le hmid, hhi, rfl⟩

theorem single (n : Nat) :
    Drawn reserved n (freshAlias reserved n).2 [(freshAlias reserved n).1] := by
  obtain ⟨k, hk, heq⟩ := exists_search_freshAlias reserved n
  rw [heq]
  exact {
    le := Nat.le_succ_of_le hk.le
    nodup := List.nodup_singleton _
    not_mem := List.forall_mem_singleton.2 hk.name_not_mem
    exists_number := List.forall_mem_singleton.2 ⟨k, hk.le, Nat.lt_succ_self k, rfl⟩ }

/-- One more alias. -/
theorem cons (h : Drawn reserved lo hi names) :
    Drawn reserved lo (freshAlias reserved hi).2 ((freshAlias reserved hi).1 :: names) :=
  (h.append (single hi)).perm (List.perm_append_singleton _ _).symm

end Drawn

end Sql

open Sql

/-! ## Drawing aliases for a chain -/

namespace Progress

variable {reserved columns : List String} {lo : Nat} {p : Progress} {s : QueryStep}
  {steps : List QueryStep}

/-- The aliases written so far, in the query and in what is still to be combined with it, were drawn
since the counter was at `lo`. -/
def Draws (reserved : List String) (lo : Nat) (p : Progress) (steps : List QueryStep) : Prop :=
  Drawn reserved lo p.next (p.query.labels ++ steps.flatMap (·.right.labels))

theorem draws_step (h : p.Draws reserved lo (s :: steps)) :
    (p.step reserved columns s).Draws reserved lo steps := by
  have h : Drawn reserved lo p.next
      (p.query.labels ++ (s.right.labels ++ steps.flatMap (·.right.labels))) := h
  unfold Draws step
  cases s.method with
  | native =>
    simp only [native]
    split
    · refine h.cons.perm ?_
      simp [Query.labels, Query.labels_wrap]
    · refine h.perm ?_
      simp [Query.labels]
  | emulated emulation =>
    cases emulation with
    | rowNumber =>
      -- the second alias stands between those of the left-hand and those of the right-hand side
      have hboth := h.cons.cons
      rw [← List.cons_append] at hboth
      have hdone := (hboth.perm List.perm_middle).cons
      exact hdone.perm (.of_eq (congrArg (List.cons _) (List.append_assoc ..)))
    | distinctOverUnionAll =>
      refine h.cons.perm ?_
      simp [deduplicated, Query.labels, Query.labels_wrap]

theorem draws_foldl (h : p.Draws reserved lo steps) :
    (steps.foldl (step reserved columns) p).Draws reserved lo [] := by
  induction steps generalizing p with
  | nil => exact h
  | cons s steps ih => exact ih (draws_step h)

end Progress

namespace Resolved

variable (reserved : List String)

mutual

/-- **The aliases of a query are drawn one after the other.** -/
theorem drawn_toQuery : ∀ (r : Resolved) (next : Nat),
    Drawn reserved next (r.toQuery reserved next).2 (r.toQuery reserved next).1.labels
  | .table _ _, next => .nil next
  | .query _, next => .nil next
  | .page input _ _ _, next => (drawn_toQuery input next).cons
  | .chain columns first rest, next => by
    have hfirst := drawn_operandQuery first next
    have hrest := drawn_restQueries rest (operandQuery reserved first next).2
    have hdone := @Progress.draws_foldl reserved columns next ⟨_, false, _⟩ _
      (hfirst.append hrest)
    exact hdone.perm (.of_eq (List.append_nil _).symm)

theorem drawn_operandQuery : ∀ (operand : Operand Resolved) (next : Nat),
    Drawn reserved next (operandQuery reserved operand next).2
      (operandQuery reserved operand next).1.labels
  | .table _ _, next => .single next
  | .relation input _ _, next => (drawn_toQuery input next).cons

theorem drawn_restQueries : ∀ (rest : List (ResolvedStep Resolved)) (next : Nat),
    Drawn reserved next (restQueries reserved rest next).2
      ((restQueries reserved rest next).1.flatMap (·.right.labels))
  | [], next => .nil next
  | ⟨_, _, operand⟩ :: rest, next =>
    (drawn_operandQuery operand next).append (drawn_restQueries rest _)

end

/-! ## Columns of row numbers -/

/-- The only column of row numbers is the helper column. -/
def NumbersIn (reserved : List String) (head : Head) : Prop :=
  ∀ x ∈ head.rowNumbers, x = helperColumn reserved

theorem numbersIn_columns (columns : List String) (distinct : Bool) :
    NumbersIn reserved { Head.columns columns with distinct := distinct } := by
  intro x hx
  simp [Head.rowNumbers, Head.columns, SelectItem.rowNumber?] at hx

theorem numbersIn_readingHead (columns : List ColumnRead) :
    NumbersIn reserved (readingHead columns) := by
  intro x hx
  obtain ⟨item, hitem, hx⟩ := List.mem_filterMap.1 hx
  obtain ⟨⟨name, cast⟩, -, rfl⟩ := List.mem_map.1 hitem
  cases cast <;> cases hx

theorem numbersIn_numberingHead (columns : List String) :
    NumbersIn reserved (numberingHead reserved columns) := by
  intro x hx
  simpa [Head.rowNumbers, numberingHead, SelectItem.rowNumber?] using hx

mutual

/-- **Row numbers stand in the helper column.** -/
theorem numbersIn_toQuery : ∀ (r : Resolved) (next : Nat),
    (r.toQuery reserved next).1.AllSelects (NumbersIn reserved)
  | .table columns _, _ => Query.allSelects_ofTable.2 (numbersIn_columns reserved columns false)
  | .query sql, _ => Query.allSelects_verbatim sql
  | .page input _ _ _, next =>
    Query.allSelects_wrap.2 ⟨fun _ h => (nomatch h), numbersIn_toQuery input next⟩
  | .chain columns first rest, next =>
    Progress.allSelects_foldl (numbersIn_columns reserved columns)
      (numbersIn_numberingHead reserved columns) (numbersIn_operandQuery first next)
      (numbersIn_restQueries rest _)

theorem numbersIn_operandQuery : ∀ (operand : Operand Resolved) (next : Nat),
    (operandQuery reserved operand next).1.AllSelects (NumbersIn reserved)
  | .table _ columns, _ => Query.allSelects_ofTable.2 (numbersIn_readingHead reserved columns)
  | .relation input _ columns, next =>
    Query.allSelects_wrap.2 ⟨numbersIn_readingHead reserved columns, numbersIn_toQuery input next⟩

theorem numbersIn_restQueries : ∀ (rest : List (ResolvedStep Resolved)) (next : Nat),
    ∀ s ∈ (restQueries reserved rest next).1, s.right.AllSelects (NumbersIn reserved)
  | [], _ => fun _ h => nomatch h
  | ⟨_, _, operand⟩ :: rest, next =>
    List.forall_mem_cons.2 ⟨numbersIn_operandQuery operand next, numbersIn_restQueries rest _⟩

end

end Resolved

/-! ## Statements -/

namespace Expr

/-- The names that were generated for a statement are fresh. -/
structure GeneratedFresh (e : Expr) (compiled : Compiled) : Prop where
  /-- The search for an alias ends, wherever the counter stands. -/
  alias_search : ∀ n, ∃ k, Search aliasName e.columnNames n k ∧
    freshAlias e.columnNames n = (aliasName k, k + 1)
  /-- The search for the helper column ends. -/
  helper_search : ∃ k, Search helperName e.columnNames 0 k ∧
    helperColumn e.columnNames = helperName k
  /-- The generated names in the text are the aliases and the columns of row numbers. -/
  in_text : (generatedNames (compiled.query.parts compiled.dialect)).Perm
    (compiled.query.labels ++ compiled.query.rowNumbers)
  /-- No alias occurs twice. -/
  labels_nodup : compiled.query.labels.Nodup
  /-- No generated name is the name of a column of a node. -/
  not_mem_names : ∀ x ∈ compiled.query.labels ++ compiled.query.rowNumbers,
    ∀ node ∈ e.nodes, x ∉ node.schema.names
  /-- No generated name is the canonical name of a column of a chain. -/
  not_mem_canonical : ∀ x ∈ compiled.query.labels ++ compiled.query.rowNumbers,
    ∀ node ∈ e.nodes, ∀ canonical, AlignsTo (node.operands.map (·.schema)) canonical →
      x ∉ canonical.names
  /-- No column of row numbers is an alias. -/
  rowNumber_not_label : ∀ x ∈ compiled.query.rowNumbers, x ∉ compiled.query.labels

/-- **Generated names are fresh**, whatever names the columns have. -/
theorem generated_names_fresh {e : Expr} {c : Capabilities} {policy : OrderPolicy}
    {compiled : Compiled} (hok : e.compileFor c policy = .ok compiled) :
    GeneratedFresh e compiled := by
  obtain ⟨r, -, rfl⟩ := Except.map_eq_ok_iff.1 hok
  have hdrawn := Resolved.drawn_toQuery e.columnNames r 0
  have hnumbers : ∀ x ∈ (r.toQuery e.columnNames 0).1.rowNumbers,
      x = helperColumn e.columnNames := by
    intro x hx
    obtain ⟨head, hhead, hx⟩ := List.mem_flatMap.1 hx
    exact Resolved.numbersIn_toQuery e.columnNames r 0 head hhead x hx
  have hfresh : ∀ x ∈ (r.toQuery e.columnNames 0).1.labels ++
      (r.toQuery e.columnNames 0).1.rowNumbers, ∀ node ∈ e.nodes, x ∉ node.schema.names := by
    intro x hx node hnode hmem
    have hreserved : x ∈ e.columnNames := (mem_columnNames e).2 ⟨node, hnode, hmem⟩
    rcases List.mem_append.1 hx with hx | hx
    · exact hdrawn.not_mem x hx hreserved
    · rw [hnumbers x hx] at hreserved
      exact helperColumn_not_mem e.columnNames hreserved
  exact {
    alias_search := exists_search_freshAlias e.columnNames
    helper_search := exists_search_helperColumn e.columnNames
    in_text := Query.generatedNames_parts c.dialect _
    labels_nodup := hdrawn.nodup
    not_mem_names := hfresh
    not_mem_canonical := by
      -- a chain takes its names from its first operand, which is a node like any other
      intro x hx node hnode canonical halign hmem
      rw [AlignsTo.names_eq halign] at hmem
      have hleft : node.leftmost ∈ e.nodes :=
        nodes_subset_of_mem e hnode (nodes_leftmost_subset node (self_mem_nodes _))
      exact hfresh x hx _ hleft hmem
    rowNumber_not_label := by
      intro x hx hlabel
      obtain ⟨k, -, -, hk⟩ := hdrawn.exists_number x hlabel
      rw [hnumbers x hx] at hk
      exact aliasName_ne_helperName _ _ hk.symm }

/-! ## An example -/

/-- A table whose columns have the names that are tried first. -/
def crowdedTable (name : String) : Expr := .table name {
  columns := ["_sw_0", "_sw_2", "_sw_rn", "_sw_rn_1"].map (⟨·, .integer .i32, .unknown⟩)
  nodup := by decide
  named := by decide }

/-- The common rows of two such tables. -/
def crowded : Expr :=
  .chain (crowdedTable "a") [⟨⟨.intersect, .all⟩, crowdedTable "b"⟩] (crowdedTable "a").schema

/-- The names of the columns are passed over. -/
theorem crowded_generated_fresh : ∃ compiled,
    crowded.compileFor (Registry.withBags "sqlite" .sqlite (.emulated .rowNumber)) .drop =
        .ok compiled ∧
      compiled.query.labels = ["_sw_6", "_sw_4", "_sw_1", "_sw_5", "_sw_3"] ∧
      compiled.query.rowNumbers = ["_sw_rn_2", "_sw_rn_2"] ∧ GeneratedFresh crowded compiled := by
  have hnames : (crowded.compileFor (Registry.withBags "sqlite" .sqlite (.emulated .rowNumber))
      .drop).map (fun compiled => (compiled.query.labels, compiled.query.rowNumbers)) =
        .ok (["_sw_6", "_sw_4", "_sw_1", "_sw_5", "_sw_3"], ["_sw_rn_2", "_sw_rn_2"]) := by
    decide +kernel
  obtain ⟨compiled, hok, heq⟩ := Except.map_eq_ok_iff.1 hnames
  obtain ⟨hlabels, hrowNumbers⟩ := Prod.mk.inj heq
  exact ⟨compiled, hok, hlabels, hrowNumbers, generated_names_fresh hok⟩

end Expr

end SetQuery
