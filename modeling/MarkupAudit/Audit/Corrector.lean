import MarkupAudit.Audit.Finding
import MarkupAudit.Template.Document

/-!
# Applying corrections

Corrections are applied to the very text that was analysed, the last one first, so that the offsets
of the others stay valid. A correction that overlaps one already applied is dropped. Corrections of
the same span are applied in the reverse of their order, so insertions at one place end up in order.
-/

namespace MarkupAudit

/-- The text has changed since it was analysed. -/
structure Conflict where
  name : String
  deriving DecidableEq, Repr

/-- The fault in words. -/
def Conflict.message (c : Conflict) : String :=
  c.name ++ " changed since it was analyzed; refusing to autocorrect."

/-- A text with corrections applied, and those that were dropped, in the order of dropping. -/
structure Corrected where
  text : Text
  dropped : List Correction

namespace Corrector

/-- The part of a text before an offset; a negative offset counts from the end. -/
def upTo (text : Text) (pos : Int) : Text :=
  text.take (Text.bound text.length pos)

/-- The part of a text from an offset on; a negative offset counts from the end. -/
def fromOn (text : Text) (pos : Int) : Text :=
  text.drop (Text.bound text.length pos)

/-- A text with one edit made. -/
def edit (text : Text) (c : Correction) : Text :=
  upTo text c.span.start ++ c.replacement ++ fromOn text c.span.stop

/-- The order of application, from the first to the last place: by start, by stop, by number. -/
def before (a b : Correction × Nat) : Bool :=
  if a.1.span.start ≠ b.1.span.start then a.1.span.start < b.1.span.start
  else if a.1.span.stop ≠ b.1.span.stop then a.1.span.stop < b.1.span.stop
  else a.2 ≤ b.2

/-- Corrections in the order in which they are applied: the last place first. -/
def ordered (cs : List Correction) : List Correction :=
  (cs.zipIdx.mergeSort fun a b => before b a).map (·.1)

/-- Applies corrections in turn. `done` are those applied so far. -/
def applyInTurn (text : Text) (done : List Correction) : List Correction → Corrected
  | [] => ⟨text, []⟩
  | c :: cs =>
      if done.any fun d => c.span.overlaps d.span then
        let r := applyInTurn text done cs
        ⟨r.text, c :: r.dropped⟩
      else applyInTurn (edit text c) (done ++ [c]) cs

/-- Applies corrections to a text. -/
def apply (text : Text) (cs : List Correction) : Corrected :=
  applyInTurn text [] (ordered cs)

/-- Applies corrections to the text of a document, which has to be unchanged. -/
def applyTo (d : Document) (current : Text) (cs : List Correction) : Except Conflict Corrected :=
  if MarkupAudit.fingerprint current = d.fingerprint then .ok (apply current cs)
  else .error ⟨d.name⟩

/-- What is logged about a correction that was dropped. -/
def dropWarning (c : Correction) : String :=
  "Dropping " ++ c.rule ++ " correction at " ++ toString c.span.start ++ "-" ++
    toString c.span.stop ++ ": overlaps another correction."

end Corrector

end MarkupAudit
