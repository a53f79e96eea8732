import MarkupAudit.Settings.Value
import MarkupAudit.Template.Document

/-!
# Template sources

A template is handed over as a value. Only a string is the source of a template, and only if it can be
encoded: the digest of a document is that of its encoding.
-/

namespace MarkupAudit

/-- Why a value is not the source of a template. -/
inductive SourceFault where
  | notText (kind : Value.Kind)
  | malformed (fault : Malformed)
  | encoding (fault : Utf8.Unencodable)
  deriving DecidableEq, Repr

/-- The fault in words. -/
def SourceFault.message : SourceFault → String
  | .notText kind => "Template source must be text, got " ++ kind.label
  | .malformed m => m.message
  | .encoding f => f.message

/-- Reads the document that a value is the source of. -/
def Document.ofValue (source : Value) (path : Option String) : Except SourceFault Document :=
  match source with
  | .scalar (.str s) =>
      -- The nodes are read before the digest is taken. To them a code point that is no character is
      -- like any other that opens, closes and quotes nothing.
      match Document.parse s.standIn path with
      | .error m => .error (.malformed m)
      | .ok d =>
          match Utf8.unencodable? 0 s with
          | some f => .error (.encoding f)
          | none => .ok d
  | other => .error (.notText other.kind)

end MarkupAudit
