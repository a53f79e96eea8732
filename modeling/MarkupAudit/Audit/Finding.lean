import MarkupAudit.Template.Span
import MarkupAudit.Text.Basic

/-!
# Findings and corrections

A finding is one defect that a rule reports. A correction is one edit of the text; it is an insertion
if its span is empty.
-/

namespace MarkupAudit

/-- A defect that a rule reports. The context is the text that a correction would write. -/
structure Finding where
  rule : String
  message : String
  span : Span
  context : Option Text
  deriving DecidableEq, Repr

/-- An edit: the text of a span is replaced. -/
structure Correction where
  rule : String
  span : Span
  replacement : Text
  deriving DecidableEq, Repr

/-- Whether a correction only inserts text. -/
def Correction.isInsertion (c : Correction) : Bool :=
  c.span.length == 0

/-- Findings in the order of where they begin; those that begin together keep their order. -/
def Finding.sort (fs : List Finding) : List Finding :=
  fs.mergeSort fun f g => decide (f.span.start ≤ g.span.start)

end MarkupAudit
