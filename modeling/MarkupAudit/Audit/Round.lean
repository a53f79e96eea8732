import MarkupAudit.Audit.Corrector
import MarkupAudit.Audit.Engine
import MarkupAudit.Rule.Registry

/-!
# A round of auditing

One round reads a template, runs the configured rules on it and applies their corrections to it.
-/

namespace MarkupAudit

/-- Why a round cannot be completed. -/
inductive RoundError where
  | malformed (fault : Malformed)
  | registry (error : RegistryError)
  | rule (error : RuleError)
  | conflict (conflict : Conflict)
  deriving DecidableEq, Repr

/-- The fault in words. -/
def RoundError.message : RoundError → String
  | .malformed m => m.message
  | .registry e => e.message
  | .rule e => e.message
  | .conflict c => c.message

/-- What a round found, and the text it left. -/
structure Round where
  document : Document
  result : AuditResult
  text : Text

/-- Runs one round on a template. -/
def Round.run (configs : List (String × RuleConfig)) (only : List String) (path : Option String)
    (source : Text) : Except RoundError Round :=
  match Document.parse source path with
  | .error m => .error (.malformed m)
  | .ok d =>
      match Registry.shipped.build configs only with
      | .error e => .error (.registry e)
      | .ok rules =>
          match Engine.run rules d with
          | .error e => .error (.rule e)
          | .ok result =>
              match Corrector.applyTo d source result.corrections with
              | .error c => .error (.conflict c)
              | .ok corrected => .ok ⟨d, result, corrected.text⟩

end MarkupAudit
