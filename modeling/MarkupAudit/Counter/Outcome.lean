import MarkupAudit.Counter.Directive

/-!
# Counting findings

The findings of a rule are held against its directive. As many as the directive says are absorbed; if
there are more, one finding says so. The correction always sets the directive to the true number, so
that a second run has nothing to correct. Two directives for one rule are both ignored.
-/

namespace MarkupAudit

/-- What is left of the findings of a rule, the correction of its directive, and how many directives
there were if there were too many. -/
structure Outcome where
  findings : List Finding
  correction : Option Correction
  ambiguous : Option Nat
  deriving DecidableEq, Repr

namespace Outcome

/-- The span of the first of some findings. -/
def firstSpan (fs : List Finding) : Span :=
  (fs.head?.map (·.span)).getD ⟨0, 0⟩

/-- The finding that several directives for one rule give. -/
def severalDirectives (rule : String) (span : Span) : Finding :=
  ⟨rule, "Multiple " ++ Directive.marker ++ " directives for " ++ rule ++
    "; none of them are applied.", span, none⟩

/-- The finding that offences without a usable directive give. -/
def noUsableDirective (rule : String) (actual : Nat) (span : Span) : Finding :=
  ⟨rule, rule ++ ": " ++ toString actual ++ " offense(s) found and no usable " ++
    Directive.marker ++ " directive.", span, none⟩

/-- The finding that more offences than the directive says give. -/
def tooMany (rule : String) (directive : Directive) (actual : Nat) : Finding :=
  ⟨rule, "Incorrect " ++ Directive.marker ++ " number for " ++ rule ++ ". Expected: " ++
    toString directive.count ++ ", actual: " ++ toString actual ++ ".", directive.span,
    some (Directive.render rule actual)⟩

/-- The finding that offences without a directive give. -/
def noDirective (rule : String) (actual : Nat) (span : Span) : Finding :=
  let directive := Directive.render rule actual
  ⟨rule, rule ++ ": If you must, add " ++ String.ofList directive ++ " to bypass this check.", span,
    some directive⟩

/-- The outcome for findings and the directives of their rule. -/
def ofDirectives (rule : String) (raw : List Finding) : List Directive → Outcome
  | [] =>
      if raw.isEmpty then ⟨[], none, none⟩
      else
        ⟨[noDirective rule raw.length (firstSpan raw)],
          some ⟨rule, ⟨0, 0⟩, Directive.render rule raw.length ++ ['\n']⟩, none⟩
  | [d] =>
      ⟨if d.count < raw.length then [tooMany rule d raw.length] else [],
        if d.count = raw.length then none
        else some ⟨rule, d.span, Directive.render rule raw.length⟩, none⟩
  | d :: e :: rest =>
      let first := severalDirectives rule e.span
      ⟨Finding.sort (if raw.isEmpty then [first]
          else [first, noUsableDirective rule raw.length (firstSpan raw)]),
        none, some (d :: e :: rest).length⟩

/-- Holds the findings of a rule against its directives in a text. -/
def count (rule : String) (raw : List Finding) (text : Text) : Except NumeralTooLong Outcome :=
  (Directive.find text rule).map (ofDirectives rule raw)

/-- What is logged about an outcome. -/
def warnings (rule : String) (o : Outcome) : List String :=
  match o.ambiguous with
  | none => []
  | some n =>
      ["Found " ++ toString n ++ " '" ++ Directive.marker ++ "' directives for " ++ rule ++
        "; ignoring all of them."]

end Outcome

end MarkupAudit
