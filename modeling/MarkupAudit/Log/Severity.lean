/-!
# Severity of notices

What goes wrong without stopping the work is reported in a notice. A warning tells that something was
left as it is, an error that something could not be done.
-/

namespace MarkupAudit

/-- How serious a notice is. -/
inductive Severity where
  | warning
  | error
  deriving DecidableEq, Repr

/-- The name of a severity in a log. -/
def Severity.label : Severity → String
  | .warning => "WARNING"
  | .error => "ERROR"

end MarkupAudit
