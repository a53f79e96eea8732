import MarkupAudit.Counter.Outcome
import MarkupAudit.Rule.Basic

/-!
# Running rules

Each rule is run on its own, its findings are counted if the rule wants that, and the results of all
rules are merged in document order. The document is never changed: corrections are only collected.
-/

namespace MarkupAudit

/-- The result of one rule. -/
structure RuleResult where
  rule : String
  findings : List Finding
  correction : Option Correction

/-- The result of several rules. -/
structure AuditResult where
  findings : List Finding
  corrections : List Correction

namespace Engine

/-- Runs one rule. -/
def runRule (r : ConfiguredRule) (d : Document) : Except RuleError RuleResult :=
  match r.rule.run d with
  | .error e => .error e
  | .ok found =>
      let raw := Finding.sort found
      if r.counterActive then
        match Outcome.count r.rule.id raw d.source with
        | .error fault => .error (.numeral fault)
        | .ok o => .ok ⟨r.rule.id, o.findings, o.correction⟩
      else .ok ⟨r.rule.id, raw, none⟩

/-- Runs some rules, each on its own. -/
def runEach (d : Document) : List ConfiguredRule → Except RuleError (List RuleResult)
  | [] => .ok []
  | r :: rs =>
      match runRule r d with
      | .error e => .error e
      | .ok result => (runEach d rs).map (result :: ·)

/-- Puts the results of several rules together. -/
def merge (results : List RuleResult) : AuditResult :=
  ⟨Finding.sort (results.flatMap (·.findings)), results.filterMap (·.correction)⟩

/-- Runs some rules on a document. -/
def run (rules : List ConfiguredRule) (d : Document) : Except RuleError AuditResult :=
  (runEach d rules).map merge

end Engine

end MarkupAudit
