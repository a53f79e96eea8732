import MarkupAudit.Report.Basic
import MarkupAudit.Table.Workbook
import MarkupAudit.Text.Case

/-!
# Saving a report

The rows of a report are saved as a table: as a workbook if the name of the file says so, else as
lines of fields. A report without rows is not saved. A workbook that cannot hold some text is saved as
far as it was filled, and lines of fields are not compressed.
-/

namespace MarkupAudit

namespace Report

/-- The heading of the table. -/
def heading : List Cell :=
  ["Path", "Line", "Column", "Rule", "Message"].map fun s => .text s.toList

/-- A row of the table. -/
def cells (row : ReportRow) : List Cell :=
  [.text row.path.toList, .number row.place.line, .number row.place.column, .text row.rule.toList,
   .text row.message.toList]

/-- The rows of a report as a table. -/
def table (r : Report) : Table :=
  heading :: r.rows.map cells

end Report

/-- Why a report cannot be saved. -/
inductive ExportFault where
  | noFolder (place : Location)
  | noCompressor
  | file (place : Location) (fault : FileFault)
  | cell (text : Text)
  deriving DecidableEq, Repr

/-- The fault in words. -/
def ExportFault.message : ExportFault → String
  | .noFolder place =>
      "Cannot save file into a non-existent directory: '" ++ String.ofList place.toText ++ "'"
  | .noCompressor =>
      "`Import zstandard` failed.  Use pip, conda, or your preferred package management tool to" ++
        " install the zstandard package."
  | .file place f => f.message place
  | .cell text => String.ofList text ++ " cannot be used in worksheets."

/-- Whether the name of a file says that it is a workbook. -/
def Location.isWorkbook (place : Location) : Bool :=
  Text.lower place.suffix == ".xlsx".toList

/-- Whether the name of a file asks for compressed lines. -/
def Location.isCompressed (place : Location) : Bool :=
  ".zst".toList.isSuffixOf (Text.lower place.toText)

/-- What a file is to hold for a report, and the text that it cannot hold, if there is one. -/
def Report.content (r : Report) (place : Location) : Except ExportFault (FileContent × Option Text) :=
  if place.isWorkbook then
    let (cells, fault?) := Workbook.fill r.table
    .ok (.workbook cells, fault?)
  else if place.isCompressed then .error .noCompressor
  else .ok (.bytes (Text.toUtf8 r.table.toCsv), none)

/-- Saves a report with rows at a location whose folder is there. -/
def FileTree.saveAt (t : FileTree) (r : Report) (place : Location) :
    FileTree × Except ExportFault Location :=
  match r.content place with
  | .error f => (t, .error f)
  | .ok (content, fault?) =>
      match t.write place content with
      | .error f => (t, .error (.file place f))
      | .ok t =>
          match fault? with
          | some text => (t, .error (.cell text))
          | none => (t, .ok place)

/-- Saves a report. Gives the tree afterwards, and where the report was saved if it was. -/
def FileTree.saveReport (t : FileTree) (r : Report) (name : Text) :
    FileTree × Except ExportFault (Option Location) :=
  let place := Location.ofText name
  if r.rows.isEmpty then (t, .ok none)
  else
    match t.hasFolder place.parent with
    | .error f => (t, .error (.file place.parent f))
    | .ok false => (t, .error (.noFolder place.parent))
    | .ok true =>
        let (t, saved) := t.saveAt r place
        (t, saved.map some)

end MarkupAudit
