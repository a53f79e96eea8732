import MarkupAudit.Text.Digit

/-!
# Tables

The flat form of a report: rows of cells, each a text, a number or nothing. A table is written as lines of
fields that are separated by commas; a field that holds a comma, a quotation mark or a line break is
put between quotation marks, and each quotation mark in it is doubled.
-/

namespace MarkupAudit

/-- A cell of a table. -/
inductive Cell where
  | empty
  | text (s : Text)
  | number (n : Int)
  deriving DecidableEq, Repr

/-- Rows of cells, the first of them the heading. -/
abbrev Table := List (List Cell)

namespace Table

/-- Whether a character forces a field into quotation marks. -/
def isDelicate (c : Char) : Bool :=
  c = ',' || c = '"' || c = '\n'

/-- A text as a field. -/
def field (s : Text) : Text :=
  if s.any isDelicate then
    '"' :: s.flatMap (fun c => if c = '"' then ['"', '"'] else [c]) ++ ['"']
  else s

/-- A number as a field. -/
def numberField (n : Int) : Text :=
  if n < 0 then '-' :: Text.ofNat n.natAbs else Text.ofNat n.natAbs

/-- A cell as a field. -/
def cellField : Cell → Text
  | .empty => []
  | .text s => field s
  | .number n => numberField n

/-- A row as a line. -/
def line (row : List Cell) : Text :=
  Text.join [','] (row.map cellField) ++ ['\n']

/-- A table as lines of fields. -/
def toCsv (table : Table) : Text :=
  table.flatMap line

end Table

end MarkupAudit
