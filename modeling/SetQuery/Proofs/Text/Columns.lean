import Mathlib.Algebra.GroupWithZero.Nat
import Mathlib.Data.List.Forall2
import SetQuery.Proofs.Text.Split
import SetQuery.Proofs.Text.Trim
import SetQuery.Text.Columns

/-!
# Tables are aligned

A column starts behind the columns before it and the two blanks behind each of them. A cell has no
more characters than bytes, so it fits in its column, and the cells of a line that is not trimmed
yet stand where their columns start (`drop_sideBySide`). Trimming takes away nothing but blanks,
and extending the line puts blanks back (`trimEnd_window`).

**Theorem (`table_aligned`).** A table of cells without newlines has a line of headers, a line of
dashes and a line for each row. The dashes fill the columns, and every cell stands in its column, up
to blanks at its end; a missing cell leaves its column blank.
-/

namespace SetQuery.Text

/-! ## The widths of columns -/

theorem length_toList_le_utf8ByteSize (s : String) : s.toList.length ≤ s.utf8ByteSize := by
  have h (l : List Char) : l.length ≤ (String.ofList l).utf8ByteSize := by
    induction l with
    | nil => exact Nat.zero_le _
    | cons c l ih =>
      have hc : 1 ≤ c.utf8Size := c.utf8Size_pos
      rw [← List.singleton_append, String.ofList_append, String.utf8ByteSize_append,
        ← String.singleton_eq_ofList, String.utf8ByteSize_singleton, List.length_append,
        List.length_singleton]
      omega
  simpa only [String.ofList_toList] using h s.toList

theorem columnWidth_le_iff {header : String} {cells : List String} {bound : Nat} :
    columnWidth header cells ≤ bound ↔
      header.utf8ByteSize ≤ bound ∧ ∀ cell ∈ cells, cell.utf8ByteSize ≤ bound := by
  unfold columnWidth
  generalize header.utf8ByteSize = width
  induction cells generalizing width with
  | nil => simp
  | cons cell cells ih =>
    rw [List.foldl_cons, ih, Nat.max_le, List.forall_mem_cons, and_assoc]

variable {headers : List String} {rows : List (List String)}

theorem length_columnWidths : (columnWidths headers rows).length = headers.length := by
  simp [columnWidths]

/-- The cells of a line have no more columns than there are, and each has room in its column. -/
def Fits (widths : List Nat) (cells : List String) : Prop :=
  cells.length ≤ widths.length ∧ ∀ (i width : Nat) (cell : String),
    widths[i]? = some width → cells[i]? = some cell → cell.toList.length ≤ width

theorem exists_of_getElem?_columnWidths {i width : Nat}
    (h : (columnWidths headers rows)[i]? = some width) :
    ∃ header, headers[i]? = some header ∧ width = columnWidth header (rows.filterMap (·[i]?)) := by
  rw [columnWidths, List.getElem?_map, List.getElem?_zipIdx, Option.map_map] at h
  obtain ⟨header, hheader, rfl⟩ := Option.map_eq_some_iff.1 h
  exact ⟨header, hheader, by rw [Function.comp, Nat.zero_add]⟩

theorem fits_headers : Fits (columnWidths headers rows) headers := by
  refine ⟨length_columnWidths.ge, fun i width cell hwidth hcell => ?_⟩
  obtain ⟨header, hheader, rfl⟩ := exists_of_getElem?_columnWidths hwidth
  obtain rfl := Option.some.inj (hheader.symm.trans hcell)
  exact (length_toList_le_utf8ByteSize _).trans (columnWidth_le_iff.1 le_rfl).1

theorem fits_row {row : List String} (hrow : row ∈ rows) (hlength : row.length ≤ headers.length) :
    Fits (columnWidths headers rows) row := by
  refine ⟨hlength.trans length_columnWidths.ge, fun i width cell hwidth hcell => ?_⟩
  obtain ⟨header, -, rfl⟩ := exists_of_getElem?_columnWidths hwidth
  refine (length_toList_le_utf8ByteSize _).trans ((columnWidth_le_iff.1 le_rfl).2 _ ?_)
  exact List.mem_filterMap.2 ⟨row, hrow, hcell⟩

/-! ## Where columns start -/

/-- The number of characters in front of a column. -/
def columnStart (widths : List Nat) (i : Nat) : Nat := ((widths.take i).map (· + 2)).sum

theorem columnStart_zero (widths : List Nat) : columnStart widths 0 = 0 := by simp [columnStart]

theorem columnStart_cons (width : Nat) (widths : List Nat) (i : Nat) :
    columnStart (width :: widths) (i + 1) = width + 2 + columnStart widths i := by
  simp [columnStart]

theorem sideBySide_cons_cons (a b : List Char) (parts : List (List Char)) :
    sideBySide (a :: b :: parts) = a ++ ' ' :: ' ' :: sideBySide (b :: parts) := by
  rw [sideBySide, List.intercalate_cons_cons, List.append_assoc]
  rfl

theorem drop_sideBySide_cons (a : List Char) (parts : List (List Char)) (n : Nat) :
    (sideBySide (a :: parts)).drop (a.length + 2 + n) = (sideBySide parts).drop n := by
  cases parts with
  | nil =>
    have hnil : sideBySide [] = [] := rfl
    rw [sideBySide, List.intercalate_singleton, hnil, List.drop_nil]
    exact List.drop_eq_nil_of_le (by omega)
  | cons b parts =>
    rw [sideBySide_cons_cons, Nat.add_assoc, List.drop_length_add_append, Nat.add_comm 2]
    rfl

/-- A column holds its part of the line, and blanks or nothing stand behind it. -/
theorem drop_sideBySide {parts : List (List Char)} {widths : List Nat}
    (h : parts.map List.length <+: widths) (i : Nat) :
    ∃ rest, (sideBySide parts).drop (columnStart widths i) = parts[i]?.getD [] ++ rest ∧
      (rest = [] ∨ i < parts.length ∧ rest.head? = some ' ') := by
  induction i generalizing parts widths with
  | zero =>
    rw [columnStart_zero, List.drop_zero]
    match parts with
    | [] => exact ⟨[], rfl, .inl rfl⟩
    | [a] => exact ⟨[], (List.append_nil a).symm ▸ List.intercalate_singleton, .inl rfl⟩
    | a :: b :: parts =>
      exact ⟨_, sideBySide_cons_cons a b parts, .inr ⟨Nat.zero_lt_succ _, rfl⟩⟩
  | succ i ih =>
    cases parts with
    | nil => exact ⟨[], List.drop_nil, .inl rfl⟩
    | cons a parts =>
      obtain ⟨rest, rfl⟩ := h
      obtain ⟨rest', hdrop, hrest⟩ := ih (List.prefix_append (parts.map List.length) rest)
      refine ⟨rest', ?_, hrest.imp_right fun h => ⟨Nat.succ_lt_succ h.1, h.2⟩⟩
      rw [List.map_cons, List.cons_append, columnStart_cons, drop_sideBySide_cons, hdrop,
        List.getElem?_cons_succ]

/-! ## Lines of cells -/

theorem length_padded {width : Nat} {cell : String} (h : cell.toList.length ≤ width) :
    (padded width cell).length = width := by
  rw [padded, List.length_append, List.length_replicate]
  omega

theorem trimEnd_padded (width : Nat) (cell : String) :
    trimEnd (padded width cell) = trimEnd cell.toList :=
  dropEndWhile_append fun _ hc => List.eq_of_mem_replicate hc ▸ rfl

/-- The cells of a line are as wide as their columns. -/
theorem map_length_padded {widths : List Nat} {cells : List String} (h : Fits widths cells) :
    (List.zipWith padded widths cells).map List.length <+: widths := by
  refine List.prefix_iff_getElem?.2 fun i hi => ?_
  rw [List.length_map, List.length_zipWith, Nat.lt_min] at hi
  rw [List.getElem?_eq_getElem hi.1, List.getElem_map, List.getElem_zipWith, length_padded]
  exact h.2 i _ _ (List.getElem?_eq_getElem hi.1) (List.getElem?_eq_getElem hi.2)

/-- The characters of a line in a column, the line being extended with blanks. -/
def window (start width : Nat) (line : List Char) : List Char :=
  ((line ++ List.replicate (start + width) ' ').drop start).take width

/-- A line that is cut off before its trailing blanks shows the same in every column, up to trailing
blanks. -/
theorem trimEnd_window (start width : Nat) (line : List Char) :
    trimEnd (window start width (trimEnd line)) = trimEnd ((line.drop start).take width) := by
  have hextend {front back : List Char} (hback : ∀ c ∈ back, isBlank c = true) :
      trimEnd (((front ++ back).drop start).take width) =
        trimEnd ((front.drop start).take width) := by
    rw [List.drop_append, List.take_append]
    exact dropEndWhile_append fun c hc =>
      hback c (List.mem_of_mem_drop (List.mem_of_mem_take hc))
  obtain ⟨back, hline, hback⟩ := exists_eq_dropEndWhile_append isBlank line
  have hblank : ∀ c ∈ List.replicate (start + width) ' ', isBlank c = true :=
    fun c hc => List.eq_of_mem_replicate hc ▸ rfl
  rw [window, hextend hblank]
  conv_rhs => rw [hline, hextend hback]
  rfl

/-- Every cell of a line stands in its column, up to blanks at its end; where there is no cell, the
column is blank. -/
def Shows (widths : List Nat) (line : List Char) (cells : List String) : Prop :=
  ∀ i width, widths[i]? = some width →
    trimEnd (window (columnStart widths i) width line) = trimEnd (cells[i]?.getD "").toList

theorem shows_tableLine {widths : List Nat} {cells : List String} (h : Fits widths cells) :
    Shows widths (tableLine widths cells).toList cells := by
  intro i width hwidth
  obtain ⟨rest, hdrop, hrest⟩ := drop_sideBySide (map_length_padded h) i
  rw [tableLine, String.toList_ofList, trimEnd_window, hdrop, List.getElem?_zipWith, hwidth]
  cases hcell : cells[i]? with
  | some cell =>
    have hlength := length_padded (h.2 i width cell hwidth hcell)
    simp only [Option.getD_some]
    rw [List.take_append_of_le_length hlength.ge, List.take_of_length_le hlength.le, trimEnd_padded]
  | none =>
    have hi : cells.length ≤ i := List.getElem?_eq_none_iff.1 hcell
    have hparts : (List.zipWith padded widths cells).length ≤ i := by
      rw [List.length_zipWith]
      exact (Nat.min_le_right _ _).trans hi
    obtain rfl | ⟨hlt, -⟩ := hrest
    · simp
    · omega

/-- The dashes fill the columns and go no further. -/
theorem takeWhile_drop_tableRule {widths : List Nat} {i width : Nat}
    (h : widths[i]? = some width) :
    ((tableRule widths).toList.drop (columnStart widths i)).takeWhile (· == '-') =
      List.replicate width '-' := by
  have hwidths : (widths.map fun width => List.replicate width '-').map List.length = widths := by
    simp [Function.comp_def]
  obtain ⟨rest, hdrop, hrest⟩ := drop_sideBySide ⟨[], by rw [hwidths, List.append_nil]⟩ i
  rw [tableRule, String.toList_ofList, hdrop, List.getElem?_map, h, Option.map_some,
    Option.getD_some, List.takeWhile_append_of_pos (by simp)]
  obtain rfl | ⟨-, hhead⟩ := hrest
  · simp
  · obtain ⟨tail, rfl⟩ := List.head?_eq_some_iff.1 hhead
    rw [List.takeWhile_cons_of_neg (by decide), List.append_nil]

/-! ## The lines of a table -/

theorem mem_sideBySide {parts : List (List Char)} {c : Char} (h : c ∈ sideBySide parts) :
    c = ' ' ∨ ∃ part ∈ parts, c ∈ part := by
  induction parts with
  | nil => cases h
  | cons a parts ih =>
    cases parts with
    | nil =>
      rw [sideBySide, List.intercalate_singleton] at h
      exact .inr ⟨a, List.mem_cons_self, h⟩
    | cons b parts =>
      rw [sideBySide_cons_cons] at h
      simp only [List.mem_append, List.mem_cons] at h
      obtain h | rfl | rfl | h := h
      · exact .inr ⟨a, List.mem_cons_self, h⟩
      · exact .inl rfl
      · exact .inl rfl
      · exact (ih h).imp_right fun ⟨part, hpart, hc⟩ => ⟨part, List.mem_cons_of_mem _ hpart, hc⟩

theorem exists_of_mem_zipWith {widths : List Nat} {cells : List String} {part : List Char}
    (h : part ∈ List.zipWith padded widths cells) :
    ∃ width, ∃ cell ∈ cells, part = padded width cell := by
  obtain ⟨i, hi, rfl⟩ := List.mem_iff_getElem.1 h
  rw [List.length_zipWith, Nat.lt_min] at hi
  exact ⟨widths[i], cells[i], List.getElem_mem hi.2, List.getElem_zipWith⟩

theorem newline_notMem_tableLine {widths : List Nat} {cells : List String}
    (h : ∀ cell ∈ cells, '\n' ∉ cell.toList) : '\n' ∉ (tableLine widths cells).toList := by
  intro hmem
  rw [tableLine, String.toList_ofList] at hmem
  rcases mem_sideBySide (List.IsPrefix.subset dropEndWhile_prefix hmem) with hc | ⟨part, hpart, hc⟩
  · cases hc
  · obtain ⟨width, cell, hcell, rfl⟩ := exists_of_mem_zipWith hpart
    rcases List.mem_append.1 hc with hc | hc
    · exact h cell hcell hc
    · cases List.eq_of_mem_replicate hc

theorem newline_notMem_tableRule (widths : List Nat) : '\n' ∉ (tableRule widths).toList := by
  intro hmem
  rw [tableRule, String.toList_ofList] at hmem
  rcases mem_sideBySide hmem with hc | ⟨part, hpart, hc⟩
  · cases hc
  · obtain ⟨width, -, rfl⟩ := List.mem_map.1 hpart
    cases List.eq_of_mem_replicate hc

theorem pieces_intercalate {sep : Char} {lines : List String} (hne : lines ≠ [])
    (h : ∀ line ∈ lines, sep ∉ line.toList) :
    pieces sep ((String.singleton sep).intercalate lines) = lines := by
  have h' : ∀ line ∈ lines.map String.toList, sep ∉ line := by simpa using h
  refine List.map_injective_iff.2 (fun _ _ => String.toList_injective) ?_
  rw [toList_pieces, String.toList_intercalate, String.toList_singleton,
    List.splitOn_intercalate sep h' (by simpa using hne)]

/-- **Tables are aligned and lose nothing.** -/
theorem table_aligned (hheaders : ∀ header ∈ headers, '\n' ∉ header.toList)
    (hrows : ∀ row ∈ rows, row.length ≤ headers.length ∧ ∀ cell ∈ row, '\n' ∉ cell.toList) :
    ∃ header rule body, pieces '\n' (table headers rows) = header :: rule :: body ∧
      body.length = rows.length ∧ (columnWidths headers rows).length = headers.length ∧
      (∀ i width, (columnWidths headers rows)[i]? = some width →
        (rule.toList.drop (columnStart (columnWidths headers rows) i)).takeWhile (· == '-') =
          List.replicate width '-') ∧
      Shows (columnWidths headers rows) header.toList headers ∧
      List.Forall₂ (fun line row => Shows (columnWidths headers rows) line.toList row) body
        rows := by
  refine ⟨_, _, _, pieces_intercalate (List.cons_ne_nil _ _) ?_, List.length_map _,
    length_columnWidths, fun _ _ => takeWhile_drop_tableRule, shows_tableLine fits_headers, ?_⟩
  · refine List.forall_mem_cons.2 ⟨newline_notMem_tableLine hheaders, List.forall_mem_cons.2
      ⟨newline_notMem_tableRule _, fun line hline => ?_⟩⟩
    obtain ⟨row, hrow, rfl⟩ := List.mem_map.1 hline
    exact newline_notMem_tableLine (hrows row hrow).2
  · refine List.forall₂_map_left_iff.2 (List.forall₂_same.2 fun row hrow => ?_)
    exact shows_tableLine (fits_row hrow (hrows row hrow).1)

/-- A row with letters of more than one byte, and a row that is too short and ends in a wide
blank. -/
theorem accentedTable_aligned :
    table ["STADT", "LAND"] [["Zürich", "CH"], ["Åbo\u3000"]] =
        "STADT    LAND\n-------  ----\nZürich   CH\nÅbo" ∧
      columnWidths ["STADT", "LAND"] [["Zürich", "CH"], ["Åbo\u3000"]] = [7, 4] ∧
      ∃ header rule body, pieces '\n' (table ["STADT", "LAND"] [["Zürich", "CH"], ["Åbo\u3000"]]) =
          header :: rule :: body ∧
        List.Forall₂ (fun line row => Shows [7, 4] line.toList row) body
          [["Zürich", "CH"], ["Åbo\u3000"]] := by
  have hwidths : columnWidths ["STADT", "LAND"] [["Zürich", "CH"], ["Åbo\u3000"]] = [7, 4] := by
    decide +kernel
  obtain ⟨header, rule, body, hlines, -, -, -, -, hbody⟩ :=
    @table_aligned ["STADT", "LAND"] [["Zürich", "CH"], ["Åbo\u3000"]]
      (by decide) (by decide)
  exact ⟨by decide +kernel, hwidths, header, rule, body, hlines, hwidths ▸ hbody⟩

end SetQuery.Text
