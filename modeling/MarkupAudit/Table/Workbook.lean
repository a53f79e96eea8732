import MarkupAudit.Table.Basic

/-!
# Workbooks

The cells of a table are put into a workbook one by one: first those of the heading, then those below
it column by column. A workbook has no control characters in its texts but tabulators and line breaks,
and all its line breaks are line feeds. The first text that it cannot hold ends the filling, and the
cells from there on stay empty.
-/

namespace MarkupAudit

namespace Workbook

/-- A character that a workbook cannot hold. -/
def isForbidden (c : Char) : Bool :=
  c.toNat < 0x20 && c ≠ '\t' && c ≠ '\n' && c ≠ '\r'

/-- The text of a cell that a workbook cannot hold. -/
def forbidden? : Cell → Option Text
  | .text s => if s.any isForbidden then some s else none
  | _ => none

/-- A cell as a workbook holds it. -/
def held : Cell → Cell
  | .text s => .text (Text.unifyBreaks s)
  | other => other

/-- The row of the first text in a column that a workbook cannot hold, and that text. -/
def firstIn (column : Nat) (rows : Table) : Option (Nat × Text) :=
  rows.zipIdx.findSome? fun (cells, row) =>
    (cells[column]?.bind forbidden?).map fun text => (row, text)

/-- The column and row of the first text that a workbook cannot hold, column by column, and that
text. -/
def first? (width : Nat) (rows : Table) : Option (Nat × Nat × Text) :=
  (List.range width).findSome? fun column => (firstIn column rows).map fun found => (column, found)

/-- Rows with the cells from a place on left empty, in the order in which cells are filled. Rows
without any cell at the end are left out. -/
def filledBefore (column row : Nat) (rows : Table) : Table :=
  let filled := rows.mapIdx fun i cells =>
    cells.mapIdx fun j cell => if j < column || (j = column && i < row) then cell else .empty
  (filled.reverse.dropWhile fun cells => cells.all (· = .empty)).reverse

/-- Fills a workbook with a table: the cells it then holds, and the text that ended the filling, if
one did. -/
def fill : Table → Table × Option Text
  | [] => ([], none)
  | heading :: rows =>
      let (rows, fault?) :=
        match first? heading.length rows with
        | none => (rows, none)
        | some (column, row, text) => (filledBefore column row rows, some text)
      ((heading :: rows).map fun cells => cells.map held, fault?)

end Workbook

end MarkupAudit
