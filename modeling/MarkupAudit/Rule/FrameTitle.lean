import MarkupAudit.Markup.ValueSet
import MarkupAudit.Rule.Basic

/-!
# Titles of frames

A frame needs a title that says what is in it, unless it is hidden from assistive technology.
-/

namespace MarkupAudit.FrameTitle

/-- The identifier of the rule. -/
def id : String := "Accessibility.IframeHasTitle"

/-- What the rule says. -/
def message : String :=
  "`<iframe>` with meaningful content should have a title attribute that identifies the content." ++
    " If `<iframe>` has no meaningful content, hide it from assistive technology with " ++
    "`aria-hidden='true'`."

/-- Whether a tag is hidden from assistive technology, or may be. -/
def isHidden (t : Tag) : Except DepthFault Bool :=
  (t.resolve "aria-hidden".toList).map fun hidden =>
    hidden.isIndeterminate || hidden.any CodeText.isVisible

/-- Whether a tag opens a frame that has no title and is not hidden. -/
def isUntitled (t : Tag) : Except DepthFault Bool :=
  if t.opens "iframe".toList then
    match t.resolve "title".toList with
    | .error f => .error f
    | .ok title => if title.isAbsent then (isHidden t).map (!·) else .ok false
  else .ok false

/-- The finding of a tag, if it has one. -/
def inTag (n : Node) : Except RuleError (List Finding) :=
  match Tag.ofNode n with
  | .error e => .error (.tag e)
  | .ok t =>
      match isUntitled t with
      | .error f => .error (.code f)
      | .ok untitled => .ok (if untitled then [Rule.finding id message t.span] else [])

/-- All findings of the rule, in document order. -/
def run (d : Document) : Except RuleError (List Finding) :=
  Rule.gather inTag (d.descendants (some .tag))

/-- The rule that frames have titles. -/
def rule : Rule :=
  { id := id
    name := "IframeHasTitle"
    message := message
    supportsCounter := true
    counterDefault := false
    run := run }

end MarkupAudit.FrameTitle
