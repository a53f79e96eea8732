import MarkupAudit.Audit.Finding
import MarkupAudit.Expr.Basic
import MarkupAudit.Markup.Tag
import MarkupAudit.Rule.Config

/-!
# Rules

A rule looks at one document and reports what it finds, in document order. It keeps nothing from one
document to the next. A tag that cannot be read or code that is nested too deep stops the rule.
-/

namespace MarkupAudit

/-- Why a rule cannot be run on a document. -/
inductive RuleError where
  | tag (error : TagError)
  | code (fault : DepthFault)
  | numeral (fault : NumeralTooLong)
  deriving DecidableEq, Repr

/-- The fault in words. -/
def RuleError.message : RuleError → String
  | .tag e => e.message
  | .code fault => fault.message
  | .numeral fault => fault.message

/-- A rule: how it is called, what it says, whether its findings may be counted, and what it finds in
a document. -/
structure Rule where
  id : String
  name : String
  message : String
  supportsCounter : Bool
  counterDefault : Bool
  run : Document → Except RuleError (List Finding)

namespace Rule

/-- The finding of a rule at a span, with the rule's own message. -/
def finding (id message : String) (span : Span) : Finding :=
  ⟨id, message, span, none⟩

/-- The findings in some parts of a document, one part after another, up to the first fault. -/
def gather {α : Type} (find : α → Except RuleError (List Finding)) :
    List α → Except RuleError (List Finding)
  | [] => .ok []
  | a :: rest =>
      match find a with
      | .error e => .error e
      | .ok fs => (gather find rest).map (fs ++ ·)

/-- How a rule is shown. -/
def display (r : Rule) : String :=
  "<" ++ r.name ++ " " ++ r.id ++ ">"

end Rule

/-- A rule with its configuration. -/
structure ConfiguredRule where
  rule : Rule
  config : RuleConfig

/-- Whether the findings of a rule are counted against a directive. -/
def ConfiguredRule.counterActive (r : ConfiguredRule) : Bool :=
  r.rule.supportsCounter && r.config.counter.getD r.rule.counterDefault

end MarkupAudit
