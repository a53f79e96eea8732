import MarkupAudit.Rule.Basic

/-!
# The title attribute

Many people never get to see the value of a `title` attribute, so it is only allowed where it names a
frame. That the attribute is there is known even if its value comes from code.
-/

namespace MarkupAudit.TitleAttribute

/-- The identifier of the rule. -/
def id : String := "Accessibility.NoTitleAttribute"

/-- What the rule says. -/
def message : String :=
  "The title attribute should never be used unless for an `<iframe>` as it is inaccessible" ++
    " for several groups of users."

/-- Whether a tag has a title and is no frame. -/
def isTitled (t : Tag) : Bool :=
  !t.closing && t.name ≠ "iframe".toList && !(t.valueOf "title".toList).isEmpty

/-- All findings of the rule, in document order. -/
def run (d : Document) : Except RuleError (List Finding) :=
  match d.tags with
  | .error e => .error (.tag e)
  | .ok ts => .ok ((ts.filter isTitled).map fun t => Rule.finding id message t.span)

/-- The rule against the title attribute. -/
def rule : Rule :=
  { id := id
    name := "NoTitleAttribute"
    message := message
    supportsCounter := true
    counterDefault := false
    run := run }

end MarkupAudit.TitleAttribute
