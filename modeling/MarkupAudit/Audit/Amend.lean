import MarkupAudit.Audit.Corrector
import MarkupAudit.FileTree.Basic

/-!
# Amending files

Corrections are made in a file only if it still holds the text that was analysed. The file is read
again, and it is written only if the corrections change its text. A file that cannot be written stays as
it is.
-/

namespace MarkupAudit

/-- Why corrections cannot be made in a text that is read again. -/
inductive CorrectFault where
  | read (fault : ReadFault)
  | conflict (conflict : Conflict)
  deriving DecidableEq, Repr

/-- Why a file is not amended. -/
inductive AmendFault where
  | correct (fault : CorrectFault)
  | write (fault : FileFault)
  deriving DecidableEq, Repr

/-- The text to be written, given what the file holds now; `none` if it is to stay as it is. -/
def Document.corrected? (d : Document) (current : Except ReadFault Text) (cs : List Correction) :
    Except CorrectFault (Option Text) :=
  match current with
  | .error f => .error (.read f)
  | .ok text =>
      match Corrector.applyTo d text cs with
      | .error c => .error (.conflict c)
      | .ok r => .ok (if r.text = text then none else some r.text)

/-- Writes a text to a location. Gives the tree afterwards, and why the text was not written if it was
not. -/
def FileTree.writeText (t : FileTree) (place : Location) (text : Text) :
    FileTree × Option FileFault :=
  match t.write place (.bytes (Text.toUtf8 text)) with
  | .ok t => (t, none)
  | .error f => (t, some f)

/-- Makes corrections in the file at a location. Gives the tree afterwards, and whether the file was
written. -/
def FileTree.amend (t : FileTree) (place : Location) (d : Document) (cs : List Correction) :
    FileTree × Except AmendFault Bool :=
  match d.corrected? (t.readText place) cs with
  | .error f => (t, .error (.correct f))
  | .ok none => (t, .ok false)
  | .ok (some text) =>
      match t.writeText place text with
      | (t, none) => (t, .ok true)
      | (t, some f) => (t, .error (.write f))

end MarkupAudit
