import MarkupAudit.Report.Basic

/-!
# Auditors

An auditor is set up with rules once and may run any number of times. It keeps the report of its last
run, which is what can be saved. A run begins with an empty report, so one that stops leaves no report.
-/

namespace MarkupAudit

/-- The rules to be run, and the report of the last run. -/
structure Auditor where
  configs : List (String × RuleConfig) := []
  only : List String := []
  report : Report := {}

namespace Auditor

/-- What holds for all files of a run. -/
def setup (a : Auditor) (autocorrect : Bool) : AuditSetup :=
  ⟨a.configs, a.only, autocorrect⟩

/-- The auditor without the report of its last run. -/
def cleared (a : Auditor) : Auditor :=
  { a with report := {} }

/-- The auditor with some more files in its report. -/
def takeUp (a : Auditor) (outcomes : List FileOutcome) : Auditor :=
  { a with report := outcomes.foldl Report.add a.report }

/-- The auditor after a run that gave these outcomes, and what the run returns. -/
def conclude (a : Auditor) :
    Except AuditError (List FileOutcome) → Auditor × Except AuditError Report
  | .error e => (a.cleared, .error e)
  | .ok outcomes =>
      let a := a.cleared.takeUp outcomes
      (a, .ok a.report)

/-- Audits files as they are. Gives the files and the auditor afterwards as well. -/
def run (a : Auditor) (autocorrect : Bool) (view : View) (t : FileTree) (paths : List String) :
    FileTree × Auditor × Except AuditError Report :=
  let (p, outcomes) := Worker.runAll (a.setup autocorrect) view ⟨t, []⟩ paths
  (p.tree, a.conclude outcomes)

end Auditor

end MarkupAudit
