import SetQuery.Proofs.Sql.Picking
import SetQuery.Proofs.Sql.Selects
import SetQuery.Resolved.Report

/-!
# The casts of a statement

The only SELECTs that cast columns are those that read the operands of a chain. So the casts of a
statement (`Query.casts`) are those of its operands, and each of them stands in the text as one word
(`Query.count_cast_parts`).

**Theorem (`Resolved.casts_toQuery`).** The statement for a resolved expression has as many casts of
a column to a type as its reports name.
-/

namespace SetQuery

namespace Sql

/-! ## Casts in the text -/

/-- The column that an item casts, and the type to which it casts it. -/
def SelectItem.cast? : SelectItem → Option (String × SqlType)
  | .cast name type => some (name, type)
  | _ => none

/-- The casts in a select list. -/
def Head.casts (head : Head) : List (String × SqlType) := head.items.filterMap (·.cast?)

/-- The casts in all SELECTs of a query. -/
def Query.casts (q : Query) : List (String × SqlType) := q.selects.flatMap (·.casts)

/-- The word with which a cast starts. -/
def castWord : Part := .word "CAST"

/-- A word that starts with a blank is not the one that starts a cast. -/
theorem castWord_ne_word {text : String} (h : text.toList.head? = some ' ') :
    castWord ≠ .word text := by
  intro heq
  have htext : "CAST" = text := Part.word.inj heq
  rw [← htext] at h
  cases h

theorem castWord_notMem_commaSeparated {lists : List (List Part)}
    (h : ∀ parts ∈ lists, castWord ∉ parts) : castWord ∉ commaSeparated lists := by
  intro hmem
  refine forall_mem_commaSeparated (P := (castWord ≠ ·)) (fun parts hparts p hp heq => ?_)
    (by decide) castWord hmem rfl
  exact h parts hparts (heq ▸ hp)

theorem count_castWord_commaSeparated (lists : List (List Part)) :
    (commaSeparated lists).count castWord = lists.flatten.count castWord := by
  have hcomma : (.word ", " : Part) ≠ castWord := by decide
  induction lists with
  | nil => rfl
  | cons first rest ih =>
    rw [List.flatten_cons, List.count_append, ← ih]
    cases rest with
    | nil => rfl
    | cons second rest =>
      rw [commaSeparated_cons_cons, List.count_append, List.count_cons_of_ne hcomma]

theorem castWord_notMem_columnParts (names : List String) : castWord ∉ columnParts names := by
  refine castWord_notMem_commaSeparated fun parts hparts => ?_
  obtain ⟨name, -, rfl⟩ := List.mem_map.1 hparts
  simp [castWord]

theorem castWord_notMem_orderParts (keys : List SortKey) (needsOrder : Bool) :
    castWord ∉ Select.orderParts (orderByParts keys) needsOrder := by
  unfold orderByParts
  split
  · cases needsOrder <;> decide
  · have hkeys : castWord ∉ commaSeparated (keys.map sortKeyParts) := by
      refine castWord_notMem_commaSeparated fun parts hparts => ?_
      obtain ⟨key, -, rfl⟩ := List.mem_map.1 hparts
      cases hdirection : key.ascending <;> simp [sortKeyParts, hdirection, castWord]
    have horder : castWord ≠ .word " ORDER BY " := by decide
    simp [Select.orderParts, horder, hkeys]

theorem castWord_notMem_leadParts (distinct : Bool) (top : Option Nat) :
    castWord ∉ Select.leadParts distinct top := by
  have hdistinct : castWord ∉ .word "SELECT " :: if distinct then [.word "DISTINCT "] else [] := by
    cases distinct <;> decide
  cases top with
  | none => rwa [Select.leadParts, List.append_nil]
  | some n =>
    have htop : castWord ≠ .word ("TOP (" ++ toString n ++ ") ") := by
      intro h
      have htext := congrArg String.toList (Part.word.inj h)
      simp at htext
    rw [Select.leadParts, List.mem_append, List.mem_singleton]
    exact not_or.2 ⟨hdistinct, htop⟩

theorem castWord_notMem_clauses (clauses : List PagingClause) :
    castWord ∉ clauses.map fun clause => .word clause.text := by
  intro h
  obtain ⟨clause, -, heq⟩ := List.mem_map.1 h
  refine castWord_ne_word ?_ heq.symm
  cases clause <;> simp [PagingClause.text]

/-- Every item that casts has the word once. -/
theorem SelectItem.count_castWord_parts (d : Dialect) (item : SelectItem) :
    (item.parts d).count castWord = item.cast?.toList.length := by
  cases item with
  | every => rfl
  | column name => rfl
  | cast name type =>
    have htype : castWord ≠ .word (" AS " ++ d.castType type) := castWord_ne_word (by simp)
    have hrest : castWord ∉ [.opening, .column name, .word (" AS " ++ d.castType type), .closing,
        .word " AS ", .column name] := by
      simp only [List.mem_cons, List.not_mem_nil, htype, or_false, false_or]
      simp [castWord]
    show List.count castWord (castWord :: _) = 1
    rw [List.count_cons_self, List.count_eq_zero.2 hrest]
  | rowNumber columns name =>
    have hcolumns : .word "CAST" ∉ columnParts columns := castWord_notMem_columnParts columns
    refine List.count_eq_zero.2 ?_
    simp [parts, hcolumns, castWord]

theorem Head.count_castWord_items (d : Dialect) (items : List SelectItem) :
    (commaSeparated (items.map (·.parts d))).count castWord =
      (items.filterMap (·.cast?)).length := by
  rw [count_castWord_commaSeparated]
  induction items with
  | nil => rfl
  | cons item items ih =>
    rw [List.map_cons, List.flatten_cons, List.count_append, item.count_castWord_parts, ih,
      List.filterMap_cons]
    cases item.cast? <;> simp [Nat.add_comm]

/-- A SELECT writes the casts of its select list beside those of its source. -/
theorem Head.count_castWord_select (d : Dialect) (head : Head) (source : List Part) :
    ((head.select d source).parts d).count castWord =
      head.casts.length + source.count castWord := by
  have hfrom : (.word " FROM " : Part) ≠ castWord := by decide
  rw [Select.parts]
  simp only [List.count_append, List.count_cons_of_ne hfrom,
    List.count_eq_zero.2 (castWord_notMem_leadParts _ _),
    List.count_eq_zero.2 (castWord_notMem_clauses _)]
  simp only [Head.select, List.count_eq_zero.2 (castWord_notMem_orderParts _ _),
    Head.count_castWord_items, Nat.zero_add, Nat.add_zero]
  rfl

theorem castWord_notMem_aliasParts (d : Dialect) (label : String) :
    castWord ∉ aliasParts d label := by
  cases d <;> simp [aliasParts, Dialect.aliasLink, castWord]

namespace Query

/-- **Every cast of a query stands in its text once.** -/
theorem count_cast_parts (d : Dialect) (q : Query) :
    (q.parts d).count castWord = q.casts.length := by
  induction q with
  | verbatim sql => rfl
  | ofTable head table label? =>
    have htable : (.table table : Part) ≠ castWord := by simp [castWord]
    have hlabel : castWord ∉ (label?.map (aliasParts d)).getD [] := by
      cases label? with
      | none => exact List.not_mem_nil
      | some label => exact castWord_notMem_aliasParts d label
    rw [parts, Head.count_castWord_select, List.count_cons_of_ne htable,
      List.count_eq_zero.2 hlabel, casts, selects, List.flatMap_singleton]
    rfl
  | ofQuery head source label ih =>
    have hopening : (.opening : Part) ≠ castWord := by simp [castWord]
    have hclosing : (.closing : Part) ≠ castWord := by simp [castWord]
    rw [parts, Head.count_castWord_select, List.cons_append, List.count_cons_of_ne hopening,
      List.count_append, List.count_cons_of_ne hclosing,
      List.count_eq_zero.2 (castWord_notMem_aliasParts d label), ih, casts, casts, selects,
      List.flatMap_cons, List.length_append]
    rfl
  | compound left op right ihl ihr =>
    have hoperator : (.operator op : Part) ≠ castWord := by simp [castWord]
    rw [parts, List.count_append, List.count_cons_of_ne hoperator, ihl, ihr, casts, casts, casts,
      selects, List.flatMap_append, List.length_append]

theorem casts_ofTable (head : Head) (table : String) (label? : Option String) :
    (ofTable head table label?).casts = head.casts := List.flatMap_singleton ..

theorem casts_wrap (reserved : List String) (head : Head) (q : Query) (next : Nat) :
    (q.wrap reserved head next).1.casts = head.casts ++ q.casts := List.flatMap_cons

theorem casts_compound (left : Query) (op : SetOp) (right : Query) :
    (compound left op right).casts = left.casts ++ right.casts := List.flatMap_append

end Query

end Sql

open Sql

/-! ## Casts of an emitted statement -/

theorem Sql.Head.casts_columns (names : List String) : (Head.columns names).casts = [] := by
  simp [casts, Head.columns, SelectItem.cast?]

theorem casts_numberingHead (reserved columns : List String) :
    (numberingHead reserved columns).casts = [] := by
  simp [Head.casts, numberingHead, List.filterMap_append, SelectItem.cast?]

namespace Progress

/-- A step adds no casts to those of its operands. -/
theorem casts_step (reserved columns : List String) (p : Progress) (s : QueryStep) :
    (p.step reserved columns s).query.casts = p.query.casts ++ s.right.casts := by
  have hcolumns : (Head.columns columns).casts = [] := Head.casts_columns columns
  have hdistinct : ({ Head.columns columns with distinct := true } : Head).casts = [] :=
    Head.casts_columns columns
  unfold step
  cases s.method with
  | native =>
    simp only [native]
    split <;> simp only [Query.casts_compound, Query.casts_wrap, hcolumns, List.nil_append]
  | emulated emulation =>
    cases emulation <;>
      simp only [numbered, deduplicated, Query.casts_compound, Query.casts_wrap, hcolumns,
        hdistinct, casts_numberingHead, List.nil_append]

theorem casts_foldl (reserved columns : List String) (p : Progress) (steps : List QueryStep) :
    (steps.foldl (step reserved columns) p).query.casts =
      p.query.casts ++ steps.flatMap (·.right.casts) := by
  induction steps generalizing p with
  | nil => simp
  | cons s steps ih => rw [List.foldl_cons, ih, casts_step, List.append_assoc, List.flatMap_cons]

end Progress

/-- The cast that is reported. -/
def Diagnostic.cast? : Diagnostic → Option (String × SqlType)
  | .widened _ column _ canonical => some (column, canonical)
  | _ => none

/-- The casts that are reported. -/
def reportedCasts (reports : List Diagnostic) : List (String × SqlType) :=
  reports.filterMap Diagnostic.cast?

theorem reportedCasts_append (l r : List Diagnostic) :
    reportedCasts (l ++ r) = reportedCasts l ++ reportedCasts r := List.filterMap_append

/-- The casts with which an operand is read are those that are reported on it. -/
theorem reportedCasts_castReports (position : Nat) (columns : List ColumnRead) :
    reportedCasts (castReports position columns) = (readingHead columns).casts := by
  rw [reportedCasts, castReports, List.filterMap_filterMap, Head.casts, readingHead,
    List.filterMap_map]
  refine List.filterMap_congr fun c _ => ?_
  cases hcast : c.cast <;> simp [ColumnRead.item, hcast, SelectItem.cast?, Diagnostic.cast?]

theorem reportedCasts_emulationReports (backend : BackendName) (steps : List StepRecord) :
    reportedCasts (emulationReports backend steps) = [] := by
  rw [reportedCasts, emulationReports, List.filterMap_filterMap, List.filterMap_eq_nil_iff]
  intro s _
  cases hmethod : s.method <;> simp [Diagnostic.cast?]

namespace Resolved

variable (reserved : List String) (backend : BackendName)

mutual

/-- **The text has the casts that are reported.** -/
theorem casts_toQuery : ∀ (r : Resolved) (next : Nat),
    (r.toQuery reserved next).1.casts.Perm (reportedCasts (r.diagnostics backend))
  | .table columns name, next => by
    rw [toQuery, Query.casts_ofTable, Head.casts_columns]
    rfl
  | .query sql, next => .nil
  | .page input keys limit offset, next => by
    rw [toQuery, Query.casts_wrap]
    exact casts_toQuery input next
  | .chain columns first rest, next => by
    rw [diagnostics, reportedCasts_append, reportedCasts_append, reportedCasts_emulationReports,
      List.append_nil]
    simp only [toQuery, Progress.casts_foldl]
    exact (casts_operandQuery first 0 next).append (casts_restQueries rest 1 _)

theorem casts_operandQuery : ∀ (operand : Operand Resolved) (position next : Nat),
    (operandQuery reserved operand next).1.casts.Perm
      (reportedCasts (operandDiagnostics backend position operand))
  | .table name columns, position, next => by
    rw [operandQuery, Query.casts_ofTable, operandDiagnostics, reportedCasts_castReports]
  | .relation input dropped columns, position, next => by
    have hdropped : reportedCasts
        (if dropped then [Diagnostic.orderDropped backend position] else []) = [] := by
      cases dropped <;> rfl
    rw [operandQuery, Query.casts_wrap, operandDiagnostics, reportedCasts_append,
      reportedCasts_append, hdropped, reportedCasts_castReports, List.nil_append]
    -- the text has the casts of an operand in front of what is inside, the report behind it
    exact List.perm_append_comm.trans ((casts_toQuery input next).append_right _)

theorem casts_restQueries : ∀ (rest : List (ResolvedStep Resolved)) (position next : Nat),
    ((restQueries reserved rest next).1.flatMap (·.right.casts)).Perm
      (reportedCasts (restDiagnostics backend position rest))
  | [], _, _ => .nil
  | ⟨op, method, operand⟩ :: rest, position, next => by
    rw [restDiagnostics, reportedCasts_append]
    simp only [restQueries, List.flatMap_cons]
    exact (casts_operandQuery operand position next).append (casts_restQueries rest _ _)

end

end Resolved

end SetQuery
