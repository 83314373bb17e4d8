import SetQuery.Proofs.Meaning.Engine
import SetQuery.Proofs.Text.Numeral
import SetQuery.Proofs.Text.Split
import SetQuery.Sql.Select

/-!
# What paging clauses mean

Every dialect has its own clauses that skip rows and keep some of the others, and numbers stand in
for "all" where a clause cannot be left out. `Dialect.range?` reads the clauses of a dialect, in the
forms that it has, as a range of rows.

**Theorem (`Dialect.select_pages`).** In every dialect, a SELECT is its select list and its source
with clauses around them that depend only on the ordering, the limit and the offset. Read by the
forms of the dialect, they order as they are told, and take the rows that the limit and the offset
ask for, as long as there are fewer than 2^63 rows.
-/

namespace SetQuery

/-! ## Reading clauses -/

/-- A word of the clauses that take a range of rows. -/
inductive ClauseWord
  | keyword (text : String)
  | number (n : Nat)
  /-- A number in parentheses. -/
  | grouped (n : Nat)
deriving DecidableEq, Repr

namespace ClauseWord

/-- The number that stands between parentheses. -/
def grouped? : List Char → Option Nat
  | '(' :: rest =>
    if rest.dropWhile Char.isDigit = [')'] then Text.digits? 10 (rest.takeWhile Char.isDigit)
    else none
  | _ => none

/-- The word that some characters spell. -/
def ofChars (w : List Char) : ClauseWord :=
  ((Text.digits? 10 w).map number <|> (grouped? w).map grouped).getD (keyword (String.ofList w))

end ClauseWord

/-- The words of a text. -/
def clauseWords (text : String) : List ClauseWord := (Text.words text.toList).map .ofChars

/-- A range of rows: so many are skipped, and at most so many of the others are kept. -/
structure RowRange where
  skipped : Nat
  kept : Option Nat
deriving DecidableEq, Repr

/-- The rows in the range. -/
def RowRange.of {α : Type} (r : RowRange) (rows : List α) : List α :=
  page r.kept (some r.skipped) rows

namespace Dialect

/-- Whether the dialect has `LIMIT`. -/
def hasLimit (d : Dialect) : Bool := d ∉ [.msSql, .oracle]

/-- Whether `OFFSET` may stand without `LIMIT` in front of it. -/
def offsetStandsAlone (d : Dialect) : Bool :=
  d ∉ [.msSql, .oracle, .sqlite, .mySql, .bigQuery, .hive]

/-- Whether `OFFSET` counts `ROWS`. Where it also belongs to the ordering, there has to be one. -/
def offsetCountsRows (d : Dialect) (ordered : Bool) : Bool := d = .oracle || d = .msSql && ordered

/-- The range of rows that the words in front of the select list and those behind the ordering
take, in the forms that the dialect has. -/
def range? (d : Dialect) (ordered : Bool) : List ClauseWord → List ClauseWord → Option RowRange
  | [], [] => some ⟨0, none⟩
  | [], [.keyword "LIMIT", .number n] => if d.hasLimit then some ⟨0, some n⟩ else none
  | [], [.keyword "LIMIT", .number n, .keyword "OFFSET", .number m] =>
    if d.hasLimit then some ⟨m, some n⟩ else none
  | [], [.keyword "LIMIT", .keyword "-1", .keyword "OFFSET", .number m] =>
    if d = .sqlite then some ⟨m, none⟩ else none
  | [], [.keyword "OFFSET", .number m] => if d.offsetStandsAlone then some ⟨m, none⟩ else none
  | [], [.keyword "OFFSET", .number m, .keyword "ROWS"] =>
    if d.offsetCountsRows ordered then some ⟨m, none⟩ else none
  | [], [.keyword "OFFSET", .number m, .keyword "ROWS", .keyword "FETCH", .keyword "NEXT",
      .number n, .keyword "ROWS", .keyword "ONLY"] =>
    if d.offsetCountsRows ordered then some ⟨m, some n⟩ else none
  | [], [.keyword "FETCH", .keyword "FIRST", .number n, .keyword "ROWS", .keyword "ONLY"] =>
    if d = .oracle then some ⟨0, some n⟩ else none
  | [.keyword "TOP", .grouped n], [] => if d = .msSql then some ⟨0, some n⟩ else none
  | _, _ => none

end Dialect

/-! ## The words of written clauses -/

theorem isWord_of_isDigit {w : List Char} (hne : w ≠ []) (h : ∀ c ∈ w, c.isDigit = true) :
    Text.IsWord w := by
  refine ⟨hne, fun c hc => ?_⟩
  have hdigit := h c hc
  rw [Char.isDigit, Bool.and_eq_true, decide_eq_true_eq, decide_eq_true_eq] at hdigit
  obtain ⟨hlow, hhigh⟩ := hdigit
  have hlow : 48 ≤ c.toNat := hlow
  have hhigh : c.toNat ≤ 57 := hhigh
  simp [Text.isBlank]
  omega

theorem isWord_toString (n : Nat) : Text.IsWord (toString n).toList :=
  isWord_of_isDigit (Text.toList_toString_ne_nil n) fun _ => Text.isDigit_of_mem_toString

theorem isWord_grouped (n : Nat) : Text.IsWord ('(' :: ((toString n).toList ++ [')'])) := by
  refine ⟨List.cons_ne_nil _ _, ?_⟩
  simp only [List.forall_mem_cons, List.forall_mem_append, List.not_mem_nil, false_implies,
    implies_true, and_true]
  exact ⟨rfl, (isWord_toString n).2, rfl⟩

namespace ClauseWord

theorem ofChars_toString (n : Nat) : ofChars (toString n).toList = .number n := by
  rw [ofChars, Text.digits?_toString]
  rfl

theorem grouped?_toString (n : Nat) : grouped? ('(' :: ((toString n).toList ++ [')'])) = some n := by
  have hdigits : ∀ c ∈ (toString n).toList, c.isDigit = true :=
    fun _ => Text.isDigit_of_mem_toString
  have hdrop : [')'].dropWhile Char.isDigit = [')'] := rfl
  have htake : [')'].takeWhile Char.isDigit = [] := rfl
  rw [grouped?, List.dropWhile_append_of_pos hdigits, List.takeWhile_append_of_pos hdigits, hdrop,
    if_pos rfl, htake, List.append_nil, Text.digits?_toString]

theorem ofChars_grouped (n : Nat) :
    ofChars ('(' :: ((toString n).toList ++ [')'])) = .grouped n := by
  have hopening : Text.digits? 10 ('(' :: ((toString n).toList ++ [')'])) = none := rfl
  rw [ofChars, hopening, grouped?_toString]
  rfl

end ClauseWord

/-- The text with a blank in front of each word has those words. -/
theorem clauseWords_of_toList {text : String} {ws : List (List Char)}
    (htext : text.toList = ws.flatMap (' ' :: ·)) (hws : ∀ w ∈ ws, Text.IsWord w) :
    clauseWords text = ws.map .ofChars := by
  rw [clauseWords, htext, Text.words_flatMap hws]

namespace PagingClause

/-- The words of a clause. -/
def words : PagingClause → List (List Char)
  | .limit n => ["LIMIT".toList, (toString n).toList]
  | .noLimit => ["LIMIT".toList, "-1".toList]
  | .offset n => ["OFFSET".toList, (toString n).toList]
  | .offsetRows n => ["OFFSET".toList, (toString n).toList, "ROWS".toList]
  | .fetchFirst n => ["FETCH".toList, "FIRST".toList, (toString n).toList, "ROWS".toList,
      "ONLY".toList]
  | .fetchNext n => ["FETCH".toList, "NEXT".toList, (toString n).toList, "ROWS".toList,
      "ONLY".toList]

theorem toList_text (clause : PagingClause) :
    clause.text.toList = clause.words.flatMap (' ' :: ·) := by
  cases clause <;> simp [text, words]

theorem isWord_of_mem_words {clause : PagingClause} : ∀ w ∈ clause.words, Text.IsWord w := by
  cases clause <;>
  · simp only [words, List.forall_mem_cons, isWord_toString, List.not_mem_nil, false_implies,
      implies_true, and_true, true_and]
    decide

/-- What is read of the words of a clause. -/
def read : PagingClause → List ClauseWord
  | .limit n => [.keyword "LIMIT", .number n]
  | .noLimit => [.keyword "LIMIT", .keyword "-1"]
  | .offset n => [.keyword "OFFSET", .number n]
  | .offsetRows n => [.keyword "OFFSET", .number n, .keyword "ROWS"]
  | .fetchFirst n => [.keyword "FETCH", .keyword "FIRST", .number n, .keyword "ROWS",
      .keyword "ONLY"]
  | .fetchNext n => [.keyword "FETCH", .keyword "NEXT", .number n, .keyword "ROWS",
      .keyword "ONLY"]

theorem map_ofChars_words (clause : PagingClause) : clause.words.map .ofChars = clause.read := by
  cases clause <;>
  · simp only [words, List.map_cons, List.map_nil, ClauseWord.ofChars_toString]
    rfl

/-- Clauses one after the other are read one after the other. -/
theorem clauseWords_join (clauses : List PagingClause) :
    clauseWords (String.join (clauses.map text)) = clauses.flatMap read := by
  have htext : (String.join (clauses.map text)).toList =
      (clauses.flatMap words).flatMap (' ' :: ·) := by
    rw [String.toList_join, List.flatMap_map, List.flatMap_assoc]
    exact List.flatMap_congr fun clause _ => clause.toList_text
  have hwords : ∀ w ∈ clauses.flatMap words, Text.IsWord w := by
    intro w hw
    obtain ⟨clause, -, hw⟩ := List.mem_flatMap.1 hw
    exact isWord_of_mem_words w hw
  rw [clauseWords_of_toList htext hwords, List.map_flatMap]
  exact List.flatMap_congr fun clause _ => clause.map_ofChars_words

end PagingClause

/-! ## The layout of a SELECT -/

namespace Sql

theorem spell_nil (d : Dialect) : spell d [] = "" := rfl

theorem spell_append (d : Dialect) (l r : List Part) :
    spell d (l ++ r) = spell d l ++ spell d r := by
  rw [spell, List.map_append, String.join_append]
  rfl

theorem spell_cons (d : Dialect) (p : Part) (l : List Part) :
    spell d (p :: l) = p.spell d ++ spell d l := by
  rw [spell, List.map_cons, String.join_cons]
  rfl

/-- What stands in front of the select list for the number of rows. -/
def topText : Option Nat → String
  | none => ""
  | some n => "TOP (" ++ toString n ++ ") "

theorem clauseWords_topText (top : Option Nat) : clauseWords (topText top) =
    (top.map fun n => [.keyword "TOP", .grouped n]).getD [] := by
  cases top with
  | none => rfl
  | some n =>
    have htext : (topText (some n)).toList =
        "TOP".toList ++ ' ' :: (('(' :: ((toString n).toList ++ [')'])) ++ ' ' :: []) := by
      simp [topText]
    rw [clauseWords, htext, Text.words_append (by decide), Text.words_append (isWord_grouped n),
      List.map_cons, List.map_cons, ClauseWord.ofChars_grouped]
    rfl

/-- The ordering as it is written. -/
def orderText (d : Dialect) (orderBy : Option (List Part)) (needsOrder : Bool) : String :=
  match orderBy with
  | some keys => " ORDER BY " ++ spell d keys
  | none => if needsOrder then " ORDER BY (SELECT NULL)" else ""

theorem spell_orderParts (d : Dialect) (orderBy : Option (List Part)) (needsOrder : Bool) :
    spell d (Select.orderParts orderBy needsOrder) = orderText d orderBy needsOrder := by
  cases orderBy with
  | some keys => exact spell_cons d _ keys
  | none => cases needsOrder <;> rfl

theorem spell_leadParts (d : Dialect) (distinct : Bool) (top : Option Nat) :
    spell d (Select.leadParts distinct top) =
      "SELECT " ++ (if distinct then "DISTINCT " else "") ++ topText top := by
  cases distinct <;> cases top <;>
    simp only [Select.leadParts, spell_cons, spell_append, spell_nil, Part.spell, topText,
      if_true, if_false, Bool.false_eq_true, String.append_assoc, String.append_empty]

theorem spell_clauses (d : Dialect) (clauses : List PagingClause) :
    spell d (clauses.map fun clause => .word clause.text) =
      String.join (clauses.map PagingClause.text) := by
  rw [spell, List.map_map]
  rfl

/-- The text of a SELECT. -/
theorem Select.spell_parts (d : Dialect) (s : Select) : spell d (s.parts d) =
    "SELECT " ++ (if s.distinct then "DISTINCT " else "") ++
      topText (d.paging s.limit s.offset).top ++ spell d s.projection ++ " FROM " ++
      spell d s.source ++ orderText d s.orderBy (d.paging s.limit s.offset).needsOrder ++
      String.join ((d.paging s.limit s.offset).clauses.map PagingClause.text) := by
  rw [Select.parts, spell_append, spell_append, spell_append, spell_append, spell_leadParts,
    spell_cons, spell_orderParts, spell_clauses]
  simp only [Part.spell, String.append_assoc]

end Sql

/-! ## Rows -/

/-- A bound beyond the number of rows is none. -/
theorem RowRange.of_eq_page {α : Type} {rows : List α} (h : rows.length < 2 ^ 63) {bound : Nat}
    (hbound : 2 ^ 63 ≤ bound + 1) (m : Nat) :
    (⟨m, some bound⟩ : RowRange).of rows = page none (some m) rows := by
  have hlength : (rows.drop m).length ≤ bound := by
    rw [List.length_drop]
    omega
  exact List.take_of_length_le hlength

namespace Dialect

/-- The clauses that a dialect writes are read as the rows that were asked for. -/
theorem exists_range?_paging (d : Dialect) (limit offset : Option Nat) {ordered : Bool}
    (h : (d.paging limit offset).needsOrder = true → ordered = true) :
    ∃ range, d.range? ordered
        (((d.paging limit offset).top.map fun n => [.keyword "TOP", .grouped n]).getD [])
        ((d.paging limit offset).clauses.flatMap PagingClause.read) = some range ∧
      ∀ {α : Type} (rows : List α), rows.length < 2 ^ 63 →
        range.of rows = page limit offset rows := by
  cases limit with
  | none =>
    cases offset with
    | none => cases d <;> exact ⟨⟨0, none⟩, rfl, fun rows _ => rfl⟩
    | some m =>
      cases d with
      | msSql =>
        obtain rfl := h rfl
        exact ⟨⟨m, none⟩, rfl, fun rows _ => rfl⟩
      | bigQuery | hive =>
        exact ⟨⟨m, some (2 ^ 63 - 1)⟩, rfl, fun rows hrows =>
          RowRange.of_eq_page hrows (by decide) m⟩
      | mySql =>
        exact ⟨⟨m, some (2 ^ 64 - 1)⟩, rfl, fun rows hrows =>
          RowRange.of_eq_page hrows (by decide) m⟩
      | _ => exact ⟨⟨m, none⟩, rfl, fun rows _ => rfl⟩
  | some n =>
    cases offset with
    | none => cases d <;> exact ⟨⟨0, some n⟩, rfl, fun rows _ => rfl⟩
    | some m =>
      cases d with
      | msSql =>
        obtain rfl := h rfl
        exact ⟨⟨m, some n⟩, rfl, fun rows _ => rfl⟩
      | _ => exact ⟨⟨m, some n⟩, rfl, fun rows _ => rfl⟩

theorem needsOrder_paging (d : Dialect) (limit offset : Option Nat) :
    (d.paging limit offset).needsOrder = (decide (d = .msSql) && offset.isSome) := by
  cases limit <;> cases offset <;> cases d <;> rfl

/-- Where `TOP`, `LIMIT` and `OFFSET` are written. -/
theorem keywords_paging (d : Dialect) (limit offset : Option Nat) :
    (.keyword "OFFSET" ∈ (d.paging limit offset).clauses.flatMap PagingClause.read ↔
      offset.isSome = true) ∧
    ((d.paging limit offset).top.isSome = true ↔
      d = .msSql ∧ limit.isSome = true ∧ offset = none) ∧
    (.keyword "LIMIT" ∈ (d.paging limit offset).clauses.flatMap PagingClause.read ↔
      d.hasLimit = true ∧ (limit.isSome = true ∨ offset.isSome = true ∧
        d.offsetStandsAlone = false)) := by
  cases limit <;> cases offset <;> cases d <;>
    simp [paging, limitClauses, PagingClause.read, hasLimit, offsetStandsAlone]

end Dialect

namespace Sql

theorem orderText_ne_empty {d : Dialect} (orderBy : Option (List Part)) {needsOrder : Bool}
    (h : needsOrder = true) : orderText d orderBy needsOrder ≠ "" := by
  cases orderBy with
  | some keys => simp [orderText]
  | none =>
    rw [orderText, if_pos h]
    decide

end Sql

namespace Dialect

open Sql

/-- **Paging clauses mean the same rows in every dialect.** -/
theorem select_pages (d : Dialect) (orderBy : Option (List Part)) (limit offset : Option Nat) :
    ∃ (top order clauses : String) (range : RowRange),
      (∀ (distinct : Bool) (projection source : List Part),
        spell d (Select.parts d ⟨distinct, projection, source, orderBy, limit, offset⟩) =
          "SELECT " ++ (if distinct then "DISTINCT " else "") ++ top ++ spell d projection ++
            " FROM " ++ spell d source ++ order ++ clauses) ∧
      (order = match orderBy with
        | some keys => " ORDER BY " ++ spell d keys
        | none => if d = .msSql ∧ offset.isSome then " ORDER BY (SELECT NULL)" else "") ∧
      d.range? (order ≠ "") (clauseWords top) (clauseWords clauses) = some range ∧
      (∀ {α : Type} (rows : List α), rows.length < 2 ^ 63 →
        range.of rows = page limit offset rows) ∧
      (d = .msSql → .keyword "OFFSET" ∈ clauseWords clauses → top = "" ∧ order ≠ "") ∧
      (d = .msSql ∨ d = .oracle → .keyword "LIMIT" ∉ clauseWords clauses) ∧
      (d ∈ [.sqlite, .mySql, .bigQuery, .hive] → .keyword "OFFSET" ∈ clauseWords clauses →
        .keyword "LIMIT" ∈ clauseWords clauses) := by
  have horder : (d.paging limit offset).needsOrder = true →
      decide (orderText d orderBy (d.paging limit offset).needsOrder ≠ "") = true :=
    fun h => decide_eq_true (orderText_ne_empty orderBy h)
  obtain ⟨range, hrange, hrows⟩ := d.exists_range?_paging limit offset horder
  obtain ⟨hoffset, htop, hlimit⟩ := d.keywords_paging limit offset
  refine ⟨topText (d.paging limit offset).top,
    orderText d orderBy (d.paging limit offset).needsOrder,
    String.join ((d.paging limit offset).clauses.map PagingClause.text), range, ?_, ?_, ?_,
    fun {α} rows => hrows rows, ?_, ?_, ?_⟩
  · intro distinct projection source
    exact Select.spell_parts d _
  · rw [needsOrder_paging]
    cases orderBy with
    | some keys => rfl
    | none => simp [orderText]
  · rw [clauseWords_topText, PagingClause.clauseWords_join]
    exact hrange
  · intro hd hmem
    rw [PagingClause.clauseWords_join, hoffset] at hmem
    constructor
    · cases hp : (d.paging limit offset).top with
      | none => rfl
      | some n =>
        have hnone := (htop.1 (by rw [hp]; rfl)).2.2
        rw [hnone] at hmem
        cases hmem
    · refine orderText_ne_empty orderBy ?_
      rw [needsOrder_paging, hd, hmem]
      rfl
  · intro hd hmem
    rw [PagingClause.clauseWords_join, hlimit] at hmem
    rcases hd with rfl | rfl <;> cases hmem.1
  · intro hd hmem
    rw [PagingClause.clauseWords_join, hoffset] at hmem
    rw [PagingClause.clauseWords_join, hlimit]
    simp only [List.mem_cons, List.not_mem_nil, or_false] at hd
    rcases hd with rfl | rfl | rfl | rfl <;> exact ⟨rfl, .inr ⟨hmem, rfl⟩⟩

/-- The bound that stands in for "all" is beyond the number of rows. -/
theorem mySql_pages_without_limit : ∃ (top order clauses : String) (range : RowRange),
    "SELECT * FROM `t` LIMIT 18446744073709551615 OFFSET 2" =
      "SELECT " ++ top ++ "*" ++ " FROM " ++ "`t`" ++ order ++ clauses ∧
    Dialect.mySql.range? (order ≠ "") (clauseWords top) (clauseWords clauses) = some range ∧
    range.of [1, 2, 3] = [3] ∧
    (.keyword "OFFSET" ∈ clauseWords clauses → .keyword "LIMIT" ∈ clauseWords clauses) := by
  obtain ⟨top, order, clauses, range, htext, -, hrange, hrows, -, -, hlimit⟩ :=
    select_pages .mySql none none (some 2)
  refine ⟨top, order, clauses, range, ?_, hrange, hrows [1, 2, 3] (by decide), hlimit (by decide)⟩
  have hspelled : spell .mySql (Select.parts .mySql
      ⟨false, [.word "*"], [.table "t"], none, none, some 2⟩) =
        "SELECT * FROM `t` LIMIT 18446744073709551615 OFFSET 2" := by
    decide +kernel
  rw [← hspelled, htext]
  rfl

end Dialect

end SetQuery
