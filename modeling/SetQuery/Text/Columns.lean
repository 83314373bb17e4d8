import SetQuery.Text.Blank

/-!
# Tables of text in aligned columns

A table has a line of headers, a line of dashes and a line for each row. Columns are as wide as
their widest cell, measured in bytes of UTF-8, and are two blanks apart; a cell is padded to the
width by its number of characters. Lines of cells lose their trailing blanks.
-/

namespace SetQuery.Text

/-- The width of a column: the largest size of its header and of its cells. Rows too short to have
a cell in the column do not count. -/
def columnWidth (header : String) (cells : List String) : Nat :=
  cells.foldl (fun width cell => max width cell.utf8ByteSize) header.utf8ByteSize

/-- The widths of all columns, in order. -/
def columnWidths (headers : List String) (rows : List (List String)) : List Nat :=
  headers.zipIdx.map fun (header, i) => columnWidth header (rows.filterMap (·[i]?))

/-- The cell followed by as many blanks as it lacks characters to the width. A limit that a standard
library sets to widths known only at run time is not modelled: every width is padded to. -/
def padded (width : Nat) (cell : String) : List Char :=
  cell.toList ++ List.replicate (width - cell.toList.length) ' '

/-- Cells side by side, two blanks apart. -/
def sideBySide (cells : List (List Char)) : List Char := List.intercalate [' ', ' '] cells

/-- One line of cells; cells beyond the last column are left out. -/
def tableLine (widths : List Nat) (cells : List String) : String :=
  String.ofList (trimEnd (sideBySide (List.zipWith padded widths cells)))

/-- The line of dashes under the headers. -/
def tableRule (widths : List Nat) : String :=
  String.ofList (sideBySide (widths.map fun width => List.replicate width '-'))

/-- The table as one text, its lines joined by newlines. -/
def table (headers : List String) (rows : List (List String)) : String :=
  let widths := columnWidths headers rows
  "\n".intercalate
    (tableLine widths headers :: tableRule widths :: rows.map (tableLine widths))

end SetQuery.Text
