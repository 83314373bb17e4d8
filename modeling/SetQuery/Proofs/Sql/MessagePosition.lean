import Mathlib.Data.List.Infix
import SetQuery.Proofs.Text.Numeral
import SetQuery.Proofs.Text.Split
import SetQuery.Sql.Check

/-!
# Positions read back from messages

A message about a token ends in the position of the token, behind the marks `Line: ` and `Column: `.
The position is read behind the first marks, and the text of the token comes before the position. A
mark ends in its only blank, so it never reaches over a blank (`behind?_append`), and a message
falls into parts that are searched one after the other.

**Theorem (`positionIn_unexpectedDetail_iff`).** The position of every token is read back whose
text, with the blank behind it, has none of the marks. Where the text has a mark, the number is read
from the text, so that the position is read back exactly when the text tells the same number there.
-/

namespace SetQuery.Sql

/-! ## Searching for a mark -/

section

variable {mark s rest : List Char}

/-- What follows the first occurrence of a mark in a text. -/
def Follows (mark s rest : List Char) : Prop :=
  ∃ front, s = front ++ (mark ++ rest) ∧
    ∀ front' rest', s = front' ++ (mark ++ rest') → front.length ≤ front'.length

theorem behind?_of_isPrefix (h : mark <+: s) : behind? mark s = some (s.drop mark.length) := by
  cases s with
  | nil => rw [List.prefix_nil.1 h]; rfl
  | cons c r => rw [behind?, if_pos (List.isPrefixOf_iff_prefix.2 h)]

theorem behind?_cons {c : Char} {r : List Char} (h : ¬ mark <+: c :: r) :
    behind? mark (c :: r) = behind? mark r := by
  rw [behind?, if_neg (mt List.isPrefixOf_iff_prefix.1 h)]

theorem behind?_eq_none_iff (hmark : mark ≠ []) : behind? mark s = none ↔ ¬ mark <:+: s := by
  induction s with
  | nil => simp [behind?, hmark]
  | cons c r ih =>
    rw [List.infix_cons_iff]
    by_cases h : mark <+: c :: r
    · simp [behind?_of_isPrefix h, h]
    · simp [behind?_cons h, ih, h]

theorem behind?_eq_some_iff (hmark : mark ≠ []) :
    behind? mark s = some rest ↔ Follows mark s rest := by
  induction s with
  | nil => simp [behind?, hmark, Follows]
  | cons c r ih =>
    by_cases h : mark <+: c :: r
    · obtain ⟨tail, htail⟩ := h
      rw [behind?_of_isPrefix ⟨tail, htail⟩, ← htail, List.drop_left, Option.some.injEq]
      constructor
      · rintro rfl
        exact ⟨[], rfl, fun _ _ _ => Nat.zero_le _⟩
      · rintro ⟨front, heq, hfirst⟩
        obtain rfl := List.eq_nil_of_length_eq_zero (Nat.le_zero.1 (hfirst [] tail rfl))
        exact List.append_cancel_left heq
    · rw [behind?_cons h, ih]
      constructor
      · rintro ⟨front, rfl, hfirst⟩
        refine ⟨c :: front, rfl, fun front' rest' heq => ?_⟩
        cases front' with
        | nil => exact absurd ⟨rest', heq.symm⟩ h
        | cons d front' => exact Nat.succ_le_succ (hfirst front' rest' (List.cons.inj heq).2)
      · rintro ⟨front, heq, hfirst⟩
        cases front with
        | nil => exact absurd ⟨rest, heq.symm⟩ h
        | cons d front =>
          obtain ⟨rfl, rfl⟩ := List.cons.inj heq
          exact ⟨front, rfl, fun front' rest' heq' => Nat.le_of_succ_le_succ
            (hfirst (c :: front') rest' (congrArg (c :: ·) heq'))⟩

end

/-! ## Marks and blanks -/

section

variable {word : List Char} (hword : ' ' ∉ word)

include hword

/-- A mark does not reach over a blank. -/
theorem prefix_append_blank_iff (front back : List Char) :
    word ++ [' '] <+: front ++ ' ' :: back ↔ word ++ [' '] <+: front ++ [' '] := by
  have hfront : front ++ [' '] <+: front ++ ' ' :: back := ⟨back, by simp⟩
  refine ⟨fun h => ?_, fun h => h.trans hfront⟩
  rcases List.prefix_or_prefix_of_prefix h hfront with h' | h'
  · exact h'
  · rcases List.prefix_concat_iff.1 h' with heq | hinside
    · exact heq ▸ List.prefix_rfl
    · exact absurd (hinside.subset (by simp)) hword

/-- What stands in front of a blank is searched before what stands behind it. -/
theorem behind?_append (front back : List Char) :
    behind? (word ++ [' ']) (front ++ ' ' :: back) =
      ((behind? (word ++ [' ']) (front ++ [' '])).map (· ++ back)).or
        (behind? (word ++ [' ']) back) := by
  have hprefix {s : List Char} (h : word ++ [' '] <+: s ++ [' ']) :
      behind? (word ++ [' ']) (s ++ ' ' :: back) =
        ((behind? (word ++ [' ']) (s ++ [' '])).map (· ++ back)).or
          (behind? (word ++ [' ']) back) := by
    rw [behind?_of_isPrefix h, behind?_of_isPrefix ((prefix_append_blank_iff hword s back).2 h),
      Option.map_some, Option.some_or, ← List.drop_append_of_le_length h.length_le,
      List.append_assoc]
    rfl
  induction front with
  | nil =>
    by_cases h : word ++ [' '] <+: [' ']
    · exact hprefix (s := []) h
    · have h' := mt (prefix_append_blank_iff hword [] back).1 h
      rw [List.nil_append, List.nil_append, behind?_cons h', behind?_cons h]
      simp [behind?]
  | cons c front ih =>
    by_cases h : word ++ [' '] <+: c :: (front ++ [' '])
    · exact hprefix (s := c :: front) h
    · have h' := mt (prefix_append_blank_iff hword (c :: front) back).1 h
      rw [List.cons_append] at h'
      rw [List.cons_append, List.cons_append, behind?_cons h', behind?_cons h, ih]

end

/-! ## What a text tells -/

/-- The text tells a line: the number stands behind the first mark and in front of a comma. -/
def TellsLine (s : List Char) (n : Nat) : Prop :=
  ∃ numeral back, Follows "Line: ".toList s (numeral ++ ',' :: back) ∧ ',' ∉ numeral ∧
    Text.IsNumeral n (Text.trim numeral) ∧ n < UInt64.size

/-- The text tells a column: the digits behind the first mark are those of the number. -/
def TellsColumn (s : List Char) (n : Nat) : Prop :=
  ∃ digits back, Follows "Column: ".toList s (digits ++ back) ∧
    (∀ c ∈ digits, c.isDigit = true) ∧ (∀ c, back.head? = some c → c.isDigit = false) ∧
    Text.IsNumeral n digits ∧ n < UInt64.size

theorem lineOf?_eq_some_iff {s : List Char} {n : Nat} : lineOf? s = some n ↔ TellsLine s n := by
  have hmark : "Line: ".toList ≠ [] := by decide
  constructor
  · intro h
    obtain ⟨rest, hrest, h⟩ := Option.bind_eq_some_iff.1 h
    split at h
    · next hcomma =>
      obtain ⟨numeral, back, rfl, hnumeral⟩ := List.eq_append_cons_of_mem hcomma
      rw [Text.takeWhile_ne hnumeral, Text.decimal?_eq_some_iff] at h
      exact ⟨numeral, back, (behind?_eq_some_iff hmark).1 hrest, hnumeral, h⟩
    · cases h
  · rintro ⟨numeral, back, hfollows, hnumeral, hnumber⟩
    refine Option.bind_eq_some_iff.2 ⟨_, (behind?_eq_some_iff hmark).2 hfollows, ?_⟩
    rw [if_pos (List.mem_append_right _ List.mem_cons_self), Text.takeWhile_ne hnumeral]
    exact Text.decimal?_eq_some_iff.2 hnumber

theorem columnOf?_eq_some_iff {s : List Char} {n : Nat} :
    columnOf? s = some n ↔ TellsColumn s n := by
  have hmark : "Column: ".toList ≠ [] := by decide
  constructor
  · intro h
    obtain ⟨rest, hrest, h⟩ := Option.bind_eq_some_iff.1 h
    refine ⟨rest.takeWhile Char.isDigit, rest.dropWhile Char.isDigit, ?_,
      List.all_eq_true.1 List.all_takeWhile, fun c hc => ?_, Text.decimal?_eq_some_iff.1 h⟩
    · rw [List.takeWhile_append_dropWhile]
      exact (behind?_eq_some_iff hmark).1 hrest
    · simpa [hc] using List.head?_dropWhile_not Char.isDigit rest
  · rintro ⟨digits, back, hfollows, hdigits, hback, hnumber⟩
    refine Option.bind_eq_some_iff.2 ⟨_, (behind?_eq_some_iff hmark).2 hfollows, ?_⟩
    have hstop : back.takeWhile Char.isDigit = [] := by
      cases back with
      | nil => rfl
      | cons c back => exact List.takeWhile_cons_of_neg (by simp [hback c rfl])
    rw [List.takeWhile_append_of_pos hdigits, hstop, List.append_nil]
    exact Text.decimal?_eq_some_iff.2 hnumber

/-! ## Messages -/

/-- The words in front of a token in its message. -/
def opening : List Char := "sql parser error: Expected: an SQL statement, found:".toList

/-- What stands behind the token. -/
def ending (p : Position) : List Char :=
  "at Line: ".toList ++ ((toString p.line).toList ++ (", Column: ".toList ++
    (toString p.column).toList))

theorem toList_detail {front mark : String} {front' mark' : List Char}
    (hfront : front.toList = front' ++ [' ']) (hmark : mark.toList = ' ' :: mark')
    (text line comma column : String) :
    (front ++ text ++ mark ++ line ++ comma ++ column).toList = front' ++ ' ' ::
      (text.toList ++ ' ' :: (mark' ++ (line.toList ++ (comma.toList ++ column.toList)))) := by
  simp [hfront, hmark]

theorem toList_unexpectedDetail (t : Token) : (unexpectedDetail t).toList =
    opening ++ ' ' :: (t.text.toList ++ ' ' :: ending t.position) :=
  toList_detail (by decide +kernel) (by decide +kernel) _ _ _ _

theorem behind?_line_ending (p : Position) : behind? "Line: ".toList (ending p) =
    some ((toString p.line).toList ++ (", Column: ".toList ++ (toString p.column).toList)) := rfl

theorem behind?_eq_none_of_notMem {mark s : List Char} {c : Char} (hmark : c ∈ mark) (h : c ∉ s) :
    behind? mark s = none :=
  (behind?_eq_none_iff (List.ne_nil_of_mem hmark)).2 fun hfound => h (hfound.subset hmark)

theorem behind?_column_ending (p : Position) :
    behind? "Column: ".toList (ending p) = some (toString p.column).toList := by
  have hending : ending p = ("at Line: ".toList ++ ((toString p.line).toList ++ [','])) ++
      ' ' :: ("Column: ".toList ++ (toString p.column).toList) := by
    rw [List.append_assoc, List.append_assoc]
    rfl
  have hline : 'C' ∉ (toString p.line).toList := Text.notMem_toString (by decide) _
  have hfront : 'C' ∉ "at Line: ".toList ++ ((toString p.line).toList ++ [',']) ++ [' '] := by
    simp only [List.mem_append, List.mem_singleton, not_or]
    exact ⟨⟨by decide, hline, by decide⟩, by decide⟩
  have hmark : "Column: ".toList = "Column:".toList ++ [' '] := by decide
  rw [hending, hmark, behind?_append (by decide), ← hmark,
    behind?_eq_none_of_notMem (by decide) hfront, behind?_of_isPrefix (List.prefix_append _ _),
    List.drop_left]
  rfl

/-! ## Marks in messages -/

/-- A mark ends in its only blank and is none of the words in front of a token. -/
structure IsMark (mark : List Char) : Prop where
  ends : ∃ word, mark = word ++ [' '] ∧ ' ' ∉ word
  fresh : behind? mark (opening ++ [' ']) = none

theorem isMark_line : IsMark "Line: ".toList :=
  ⟨⟨"Line:".toList, by decide, by decide⟩, by decide +kernel⟩

theorem isMark_column : IsMark "Column: ".toList :=
  ⟨⟨"Column:".toList, by decide, by decide⟩, by decide +kernel⟩

section

variable {mark : List Char} (hmark : IsMark mark)

include hmark

theorem IsMark.ne_nil : mark ≠ [] := by
  obtain ⟨⟨word, rfl, -⟩, -⟩ := hmark
  simp

/-- The text of a token is searched before what stands behind it. -/
theorem IsMark.behind?_unexpectedDetail (t : Token) :
    behind? mark (unexpectedDetail t).toList =
      ((behind? mark (t.text.toList ++ [' '])).map (· ++ ending t.position)).or
        (behind? mark (ending t.position)) := by
  obtain ⟨⟨word, rfl, hword⟩, hfresh⟩ := hmark
  rw [toList_unexpectedDetail, behind?_append hword, hfresh, Option.map_none, Option.none_or,
    behind?_append hword]

variable {t : Token}

theorem IsMark.exists_of_isInfix (h : mark <:+: t.text.toList ++ [' ']) :
    ∃ rest, behind? mark (t.text.toList ++ [' ']) = some rest ∧
      behind? mark (unexpectedDetail t).toList = some (rest ++ ending t.position) := by
  have hsome := mt (behind?_eq_none_iff hmark.ne_nil).1 (not_not.2 h)
  obtain ⟨rest, hrest⟩ := Option.ne_none_iff_exists'.1 hsome
  exact ⟨rest, hrest, by rw [hmark.behind?_unexpectedDetail, hrest, Option.map_some,
    Option.some_or]⟩

theorem IsMark.behind?_of_not_isInfix (h : ¬ mark <:+: t.text.toList ++ [' ']) :
    behind? mark (unexpectedDetail t).toList = behind? mark (ending t.position) := by
  rw [hmark.behind?_unexpectedDetail, (behind?_eq_none_iff hmark.ne_nil).2 h, Option.map_none,
    Option.none_or]

end

/-! ## Numbers in messages -/

theorem lineOf?_of_behind? {s rest : List Char} (h : behind? "Line: ".toList s = some rest) :
    lineOf? s = if ',' ∈ rest then
      Text.decimal? UInt64.size (Text.trim (rest.takeWhile (· != ','))) else none := by
  rw [lineOf?, h]
  rfl

theorem columnOf?_of_behind? {s rest : List Char}
    (h : behind? "Column: ".toList s = some rest) :
    columnOf? s = Text.decimal? UInt64.size (rest.takeWhile Char.isDigit) := by
  rw [columnOf?, h]
  rfl

variable {t : Token}

/-- Without a comma behind the mark in the text, letters stand between the mark and the comma of the
message, and neither tells a line. -/
theorem lineOf?_of_isInfix (h : "Line: ".toList <:+: t.text.toList ++ [' ']) :
    lineOf? (unexpectedDetail t).toList = lineOf? (t.text.toList ++ [' ']) := by
  obtain ⟨rest, htext, hmessage⟩ := isMark_line.exists_of_isInfix h
  rw [lineOf?_of_behind? hmessage, lineOf?_of_behind? htext]
  by_cases hcomma : ',' ∈ rest
  · obtain ⟨numeral, back, rfl, hnumeral⟩ := List.eq_append_cons_of_mem hcomma
    rw [if_pos hcomma, if_pos (List.mem_append_left _ hcomma), List.append_assoc,
      List.cons_append, Text.takeWhile_ne hnumeral, Text.takeWhile_ne hnumeral]
  · have hending : rest ++ ending t.position =
        (rest ++ ("at Line: ".toList ++ (toString t.position.line).toList)) ++
          ',' :: (" Column: ".toList ++ (toString t.position.column).toList) := by
      rw [List.append_assoc, List.append_assoc]
      rfl
    have hfront : ',' ∉ rest ++ ("at Line: ".toList ++ (toString t.position.line).toList) := by
      simp only [List.mem_append, not_or]
      exact ⟨hcomma, by decide, Text.notMem_toString (by decide) _⟩
    have hletter : 'a' ∈ rest ++ ("at Line: ".toList ++ (toString t.position.line).toList) :=
      List.mem_append_right _ (List.mem_append_left _ (by decide))
    rw [if_neg hcomma, hending, Text.takeWhile_ne hfront, ite_eq_right_iff]
    exact fun _ => Text.decimal?_eq_none_of_mem (Text.mem_trim hletter (by decide)) (by decide)
      (by decide)

theorem lineOf?_of_not_isInfix (h : ¬ "Line: ".toList <:+: t.text.toList ++ [' '])
    (hline : t.position.line < UInt64.size) :
    lineOf? (unexpectedDetail t).toList = some t.position.line := by
  have hmessage := isMark_line.behind?_of_not_isInfix h
  have hcomma : ", Column: ".toList ++ (toString t.position.column).toList =
      ',' :: (" Column: ".toList ++ (toString t.position.column).toList) := rfl
  rw [behind?_line_ending, hcomma] at hmessage
  rw [lineOf?_of_behind? hmessage, if_pos (List.mem_append_right _ List.mem_cons_self),
    Text.takeWhile_ne (Text.notMem_toString (by decide) _), Text.isTrimmed_toString.trim_eq,
    Text.decimal?_toString hline]

theorem columnOf?_of_isInfix (h : "Column: ".toList <:+: t.text.toList ++ [' ']) :
    columnOf? (unexpectedDetail t).toList = columnOf? (t.text.toList ++ [' ']) := by
  obtain ⟨rest, htext, hmessage⟩ := isMark_column.exists_of_isInfix h
  have hending : (ending t.position).takeWhile Char.isDigit = [] := rfl
  rw [columnOf?_of_behind? hmessage, columnOf?_of_behind? htext, List.takeWhile_append, hending]
  split
  · next hlength => rw [List.append_nil, (List.takeWhile_prefix _).eq_of_length hlength]
  · rfl

theorem columnOf?_of_not_isInfix (h : ¬ "Column: ".toList <:+: t.text.toList ++ [' '])
    (hcolumn : t.position.column < UInt64.size) :
    columnOf? (unexpectedDetail t).toList = some t.position.column := by
  have hmessage := isMark_column.behind?_of_not_isInfix h
  rw [behind?_column_ending] at hmessage
  have hdigits : (toString t.position.column).toList.takeWhile Char.isDigit =
      (toString t.position.column).toList :=
    List.takeWhile_eq_self_iff.2 fun _ => Text.isDigit_of_mem_toString
  rw [columnOf?_of_behind? hmessage, hdigits, Text.decimal?_toString hcolumn]

/-- The line of the token is the one that the message tells. -/
theorem lineOf?_eq_line_iff (hline : t.position.line < UInt64.size) :
    lineOf? (unexpectedDetail t).toList = some t.position.line ↔
      ("Line: ".toList <:+: t.text.toList ++ [' '] →
        TellsLine (t.text.toList ++ [' ']) t.position.line) := by
  by_cases h : "Line: ".toList <:+: t.text.toList ++ [' ']
  · rw [lineOf?_of_isInfix h, lineOf?_eq_some_iff, forall_prop_of_true h]
  · simp only [lineOf?_of_not_isInfix h hline, h, false_imp_iff]

theorem columnOf?_eq_column_iff (hcolumn : t.position.column < UInt64.size) :
    columnOf? (unexpectedDetail t).toList = some t.position.column ↔
      ("Column: ".toList <:+: t.text.toList ++ [' '] →
        TellsColumn (t.text.toList ++ [' ']) t.position.column) := by
  by_cases h : "Column: ".toList <:+: t.text.toList ++ [' ']
  · rw [columnOf?_of_isInfix h, columnOf?_eq_some_iff, forall_prop_of_true h]
  · simp only [columnOf?_of_not_isInfix h hcolumn, h, false_imp_iff]

/-- **When the position of a token is read back.** -/
theorem positionIn_unexpectedDetail_iff (hline : t.position.line < UInt64.size)
    (hcolumn : t.position.column < UInt64.size) :
    (¬ "Line: ".toList <:+: t.text.toList ++ [' '] →
      ¬ "Column: ".toList <:+: t.text.toList ++ [' '] →
      positionIn (unexpectedDetail t) = t.position) ∧
    (t.position ≠ ⟨0, 0⟩ → (positionIn (unexpectedDetail t) = t.position ↔
      ("Line: ".toList <:+: t.text.toList ++ [' '] →
        TellsLine (t.text.toList ++ [' ']) t.position.line) ∧
      ("Column: ".toList <:+: t.text.toList ++ [' '] →
        TellsColumn (t.text.toList ++ [' ']) t.position.column))) := by
  constructor
  · intro h h'
    rw [positionIn, lineOf?_of_not_isInfix h hline, columnOf?_of_not_isInfix h' hcolumn]
  · intro hplace
    rw [← lineOf?_eq_line_iff hline, ← columnOf?_eq_column_iff hcolumn]
    constructor
    · intro h
      unfold positionIn at h
      split at h
      · next line column hline hcolumn =>
        rw [hline, hcolumn, ← h]
        exact ⟨rfl, rfl⟩
      · exact absurd h.symm hplace
    · rintro ⟨h, h'⟩
      rw [positionIn, h, h']

/-- Marks without blanks are none, and a text may happen to tell the position of the token. -/
theorem position_of_tellingText :
    positionIn (unexpectedDetail ⟨.quoted, "\"Line:7, Column:3\"", ⟨2, 5⟩⟩) = ⟨2, 5⟩ ∧
      TellsLine "\"Line: +07, Column: 3\" ".toList 7 ∧
      TellsColumn "\"Line: +07, Column: 3\" ".toList 3 ∧
      positionIn (unexpectedDetail ⟨.quoted, "\"Line: +07, Column: 3\"", ⟨7, 3⟩⟩) = ⟨7, 3⟩ := by
  have hline : TellsLine "\"Line: +07, Column: 3\" ".toList 7 :=
    lineOf?_eq_some_iff.1 (by decide +kernel)
  have hcolumn : TellsColumn "\"Line: +07, Column: 3\" ".toList 3 :=
    columnOf?_eq_some_iff.1 (by decide +kernel)
  have hloose := positionIn_unexpectedDetail_iff
    (t := ⟨.quoted, "\"Line:7, Column:3\"", ⟨2, 5⟩⟩) (by decide) (by decide)
  have htelling := positionIn_unexpectedDetail_iff
    (t := ⟨.quoted, "\"Line: +07, Column: 3\"", ⟨7, 3⟩⟩) (by decide) (by decide)
  exact ⟨hloose.1 (by decide +kernel) (by decide +kernel), hline, hcolumn,
    (htelling.2 (by decide)).2 ⟨fun _ => hline, fun _ => hcolumn⟩⟩

/-- From the message about a quoted token, a place is read that the text of the token names. -/
theorem exists_misread_position :
    positionIn (unexpectedDetail ⟨.quoted, "\"Line: 7, Column: 3\"", ⟨1, 1⟩⟩) = ⟨7, 3⟩ ∧
    ¬ ∀ t : Token, t.position.line < UInt64.size → t.position.column < UInt64.size →
      positionIn (unexpectedDetail t) = t.position := by
  have hread : positionIn (unexpectedDetail ⟨.quoted, "\"Line: 7, Column: 3\"", ⟨1, 1⟩⟩) =
      ⟨7, 3⟩ := by
    decide +kernel
  refine ⟨hread, fun h => ?_⟩
  have htoken := h ⟨.quoted, "\"Line: 7, Column: 3\"", ⟨1, 1⟩⟩ (by decide) (by decide)
  rw [hread] at htoken
  cases htoken

end SetQuery.Sql
