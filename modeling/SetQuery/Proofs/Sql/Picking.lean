import Mathlib.Data.List.Basic
import SetQuery.Sql.Query

/-!
# Picking parts of a text

A text is a list of parts, so what it says in parts of one kind is picked out of it
(`List.filterMap`). The frame of a SELECT is made of words and columns: a function that picks
neither of them sees the items of the select list and the source, and nothing else
(`SkipsWords.filterMap_select`).
-/

namespace SetQuery.Sql

theorem commaSeparated_cons_cons (first second : List Part) (rest : List (List Part)) :
    commaSeparated (first :: second :: rest) =
      first ++ .word ", " :: commaSeparated (second :: rest) := rfl

/-- What holds of the parts of each list and of a comma holds of all of them. -/
theorem forall_mem_commaSeparated {P : Part → Prop} {lists : List (List Part)}
    (h : ∀ l ∈ lists, ∀ p ∈ l, P p) (hcomma : P (.word ", ")) :
    ∀ p ∈ commaSeparated lists, P p := by
  induction lists with
  | nil => exact List.forall_mem_nil _
  | cons first rest ih =>
    obtain ⟨hfirst, hrest⟩ := List.forall_mem_cons.1 h
    cases rest with
    | nil => exact hfirst
    | cons second rest =>
      exact List.forall_mem_append.2 ⟨hfirst, List.forall_mem_cons.2 ⟨hcomma, ih hrest⟩⟩

/-- The function picks no words and no columns. -/
structure SkipsWords {α : Type} (pick : Part → Option α) : Prop where
  word : ∀ text, pick (.word text) = none
  column : ∀ name, pick (.column name) = none

namespace SkipsWords

variable {α : Type} {pick : Part → Option α} (h : SkipsWords pick)

include h

theorem filterMap_commaSeparated (lists : List (List Part)) :
    (commaSeparated lists).filterMap pick = lists.flatMap (·.filterMap pick) := by
  fun_induction commaSeparated lists with
  | case1 => rfl
  | case2 parts => simp
  | case3 parts rest _ ih => simp [h.word, ih]

theorem filterMap_columnParts (names : List String) : (columnParts names).filterMap pick = [] := by
  rw [columnParts, h.filterMap_commaSeparated]
  simp [h.column]

theorem filterMap_orderParts (keys : List SortKey) (needsOrder : Bool) :
    (Select.orderParts (orderByParts keys) needsOrder).filterMap pick = [] := by
  by_cases hkeys : keys.isEmpty
  · rw [orderByParts, if_pos hkeys]
    cases needsOrder <;> simp [Select.orderParts, h.word]
  · rw [orderByParts, if_neg hkeys, Select.orderParts, List.filterMap_cons_none (h.word _),
      h.filterMap_commaSeparated]
    simp [sortKeyParts, h.word, h.column]

theorem filterMap_leadParts (distinct : Bool) (top : Option Nat) :
    (Select.leadParts distinct top).filterMap pick = [] := by
  cases distinct <;> cases top <;> simp [Select.leadParts, h.word]

theorem filterMap_words (texts : List String) : (texts.map Part.word).filterMap pick = [] := by
  induction texts with
  | nil => rfl
  | cons text texts ih => rw [List.map_cons, List.filterMap_cons_none (h.word text), ih]

/-- What is picked of a SELECT stands in its items or in its source. -/
theorem filterMap_select (d : Dialect) (head : Head) (source : List Part) :
    ((head.select d source).parts d).filterMap pick =
      (head.items.flatMap fun item => (item.parts d).filterMap pick) ++
        source.filterMap pick := by
  have hitems : (head.select d source).projection.filterMap pick =
      head.items.flatMap fun item => (item.parts d).filterMap pick := by
    rw [Head.select, h.filterMap_commaSeparated, List.flatMap_map]
  have hclauses : ∀ clauses : List PagingClause,
      (clauses.map fun clause => Part.word clause.text).filterMap pick = [] := fun clauses => by
    have hwords := h.filterMap_words (clauses.map PagingClause.text)
    rwa [List.map_map] at hwords
  rw [Select.parts]
  simp only [List.filterMap_append, List.filterMap_cons_none (h.word _), h.filterMap_leadParts,
    hitems, hclauses]
  simp [Head.select, h.filterMap_orderParts]

end SkipsWords

end SetQuery.Sql
