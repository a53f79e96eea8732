import MarkupAudit.Markup.ValueSet
import MarkupAudit.Rule.Basic

/-!
# Generic link text

A link whose only text is generic ("Learn more") says nothing to someone who meets it out of its
context. The rule looks at links written as markup and at calls of the link helper. A link that has
another name for assistive technology is left alone, and so is one whose name cannot be known.
-/

namespace MarkupAudit.LinkText

/-- The texts that say nothing on their own. -/
def generic : List String :=
  ["Read more", "Learn more", "Click here", "More", "Link", "Here"]

/-- Whether a text is generic, whatever the case of its letters. -/
def isGeneric (text : Text) : Bool :=
  (generic.map fun s => Text.lower s.toList).contains (Text.lower text)

/-- The identifier of the rule. -/
def id : String := "Accessibility.AvoidGenericLinkTextCounter"

/-- What the rule says. -/
def message : String :=
  "Avoid using generic link text such as " ++ ", ".intercalate generic ++
    " which do not make sense in isolation."

/-! ### Links written as markup -/

/-- The tag of a node, if there is a node and it is a tag. -/
def tag? : Option Node → Except TagError (Option Tag)
  | none => .ok none
  | some n => if n.kind = .tag then (Tag.ofNode n).map some else .ok none

/-- Whether a link has a name besides its text, or may have one. A label that starts with the text
counts, and so does any reference to another element. -/
def hasName (opening : Tag) (text : Text) : Except DepthFault Bool :=
  match opening.resolve "aria-label".toList, opening.resolve "aria-labelledby".toList with
  | .error f, _ => .error f
  | _, .error f => .error f
  | .ok label, .ok labelledBy =>
      .ok (label.isIndeterminate || labelledBy.isIndeterminate ||
        labelledBy.any CodeText.isVisible || label.any fun v => (CodeText.ofText text).isPrefixOf v)

/-- The finding of a text run between two nodes, if it is the generic text of a link. -/
def inMarkup (previous following : Option Node) (run : Node) : Except RuleError (List Finding) :=
  let text := Text.trim run.text
  if run.kind = .text && isGeneric text then
    match tag? previous, tag? following with
    | .error e, _ => .error (.tag e)
    | _, .error e => .error (.tag e)
    | .ok (some opening), .ok (some closing) =>
        if opening.opens ['a'] && closing.closes ['a'] then
          match hasName opening text with
          | .error f => .error (.code f)
          | .ok named =>
              .ok (if named then []
                else [Rule.finding id message ⟨opening.span.start, run.span.stop⟩])
        else .ok []
    | _, _ => .ok []
  else .ok []

/-- The findings among sibling nodes, behind a previous one. -/
def inSiblings (previous : Option Node) : List Node → Except RuleError (List Finding)
  | [] => .ok []
  | n :: ns =>
      match inMarkup previous ns.head? n with
      | .error e => .error e
      | .ok fs => (inSiblings (some n) ns).map (fs ++ ·)

/-! ### Calls of the link helper -/

/-- The functions that write a link. -/
def helpers : List String := ["link_to"]

/-- The name of an option as an attribute: hyphens stand for low lines. -/
def attributeName (key : CodeText) : CodeText :=
  key.map fun p => if p = CodePoint.ofChar '_' then CodePoint.ofChar '-' else p

/-- Whether a key names an attribute that gives a link a name. -/
def isNameAttribute (key : CodeText) : Bool :=
  key = CodeText.ofString "aria-label" || key = CodeText.ofString "aria-labelledby"

/-- Whether a key of the options under `aria` gives a link a name. -/
def isNestedName (key : CodeText) : Bool :=
  key = CodeText.ofString "label" || key = CodeText.ofString "labelledby"

/-- Whether the value of the option `aria` gives a link a name, or may do so. -/
def ariaNames : Expr → Bool
  | .dict entries =>
      entries.any fun e =>
        match e.1 with
        | none => true
        | some key =>
            match key.string? with
            | none => true
            | some name => isNestedName name
  | _ => true

/-- Whether an option gives a link a name, or may do so. -/
def optionNames (key : CodeText) (value : Expr) : Bool :=
  isNameAttribute (attributeName key) ||
    (attributeName key = CodeText.ofString "aria" && ariaNames value)

/-- Whether a dictionary of options gives a link a name, or may do so. -/
def entriesName (entries : List (Option Expr × Expr)) : Bool :=
  entries.any fun e =>
    match e.1 with
    | none => true
    | some key =>
        match key.string? with
        | none => true
        | some name => optionNames name e.2

/-- Whether a keyword argument gives a link a name, or may do so. -/
def keywordNames : Option String × Expr → Bool
  | (some key, value) => optionNames (CodeText.ofString key) value
  | (none, .dict entries) => entriesName entries
  | (none, _) => true

/-- Whether an argument gives a link a name: only a dictionary can. -/
def argumentNames : Expr → Bool
  | .dict entries => entriesName entries
  | _ => false

/-- Whether the options of a call give the link a name, or may do so. -/
def callNames : Expr → Bool
  | .call _ args keywords => keywords.any keywordNames || (args.drop 1).any argumentNames
  | _ => false

/-- Whether a call writes a link with a generic text and no other name. -/
def isGenericCall (e : Expr) : Bool :=
  match e with
  | .call _ (first :: _) _ =>
      (e.calleeName.map fun n => helpers.contains n).getD false &&
        ((first.string?.bind CodeText.text?).map fun t => isGeneric (Text.trim t)).getD false &&
        !callNames e
  | _ => false

/-- Whether an expression is at its outermost a call that writes such a link. -/
def isGenericLink (e : Expr) : Bool :=
  (e.calls.head?.map isGenericCall).getD false

/-- The finding of a code block, if it writes such a link. -/
def inBlock (block : Node) : Except RuleError (List Finding) :=
  match block.output? with
  | none => .ok []
  | some code =>
      match Expr.parse code with
      | .error f => .error (.code f)
      | .ok e? =>
          .ok (if (e?.map isGenericLink).getD false then [Rule.finding id message block.span]
            else [])

/-- The findings among the code blocks of a document. -/
def inHelpers (d : Document) : Except RuleError (List Finding) :=
  Rule.gather inBlock (d.descendants (some .code))

/-- All findings of the rule, in document order. -/
def run (d : Document) : Except RuleError (List Finding) :=
  match inSiblings none d.children with
  | .error e => .error e
  | .ok links => (inHelpers d).map fun calls => Finding.sort (links ++ calls)

/-- The rule against generic link text. -/
def rule : Rule :=
  { id := id
    name := "AvoidGenericLinkTextCounter"
    message := message
    supportsCounter := true
    counterDefault := true
    run := run }

end MarkupAudit.LinkText
