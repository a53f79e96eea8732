import MarkupAudit.Rule.FrameTitle
import MarkupAudit.Rule.LinkText
import MarkupAudit.Rule.TitleAttribute

/-!
# The registry of rules

Rules are registered under their identifiers. The rules that the library ships are registered when
the registry is first asked for something; an identifier that is taken cannot be given to another
rule.
-/

namespace MarkupAudit

/-- Where a rule comes from: two rules are the same if they come from the same place. -/
inductive Origin where
  | linkText
  | frameTitle
  | titleAttribute
  | custom (token : String)
  deriving DecidableEq, Repr

/-- A rule and where it comes from. -/
structure Registration where
  origin : Origin
  rule : Rule

/-- The rules that the library ships, in order. -/
def shippedRules : List Registration :=
  [⟨.linkText, LinkText.rule⟩, ⟨.frameTitle, FrameTitle.rule⟩,
   ⟨.titleAttribute, TitleAttribute.rule⟩]

/-- Why the registry refuses something. -/
inductive RegistryError where
  | duplicate (id : String)
  | unknown (id : String) (known : List String)
  deriving DecidableEq, Repr

/-- The fault in words. -/
def RegistryError.message : RegistryError → String
  | .duplicate id => "Duplicate rule id '" ++ id ++ "'"
  | .unknown id known =>
      "Unknown rule '" ++ id ++ "'. Known rules: " ++ ", ".intercalate known

/-- The registered rules in the order of their registration, and whether the shipped ones have all
been registered. -/
structure Registry where
  entries : List Registration := []
  loaded : Bool := false

namespace Registry

/-- The rule registered under an identifier. -/
def find? (r : Registry) (id : String) : Option Registration :=
  r.entries.find? fun e => e.rule.id == id

/-- The registered identifiers, in order. -/
def ids (r : Registry) : List String :=
  r.entries.map (·.rule.id)

/-- Registers a rule. A rule that is already registered stays where it is. -/
def register (r : Registry) (new : Registration) : Except RegistryError Registry :=
  match r.find? new.rule.id with
  | none => .ok { r with entries := r.entries ++ [new] }
  | some old => if old.origin = new.origin then .ok r else .error (.duplicate new.rule.id)

/-- Registers some rules in turn up to the first that is refused. Gives the registry then reached,
and the fault if there was one. -/
def registerAll (r : Registry) : List Registration → Registry × Option RegistryError
  | [] => (r, none)
  | new :: rest =>
      match r.register new with
      | .ok r => r.registerAll rest
      | .error e => (r, some e)

/-- Registers the shipped rules unless that has been done. If one of them is refused, those before it
stay registered, and the next call tries again. -/
def load (r : Registry) : Registry × Option RegistryError :=
  if r.loaded then (r, none)
  else
    match r.registerAll shippedRules with
    | (r, none) => ({ r with loaded := true }, none)
    | (r, some e) => (r, some e)

/-- Answers a question about the loaded registry. Gives the registry then reached as well. -/
def ask {α : Type} (r : Registry) (question : Registry → Except RegistryError α) :
    Registry × Except RegistryError α :=
  match r.load with
  | (r, some e) => (r, .error e)
  | (r, none) => (r, question r)

/-- The rule under an identifier. -/
def get (r : Registry) (id : String) : Except RegistryError Registration :=
  match r.find? id with
  | some e => .ok e
  | none => .error (.unknown id r.ids)

/-- The rules under some identifiers. -/
def getAll (r : Registry) : List String → Except RegistryError (List Registration)
  | [] => .ok []
  | id :: rest =>
      match r.get id with
      | .error e => .error e
      | .ok e => (r.getAll rest).map (e :: ·)

/-- The configuration of a rule among those given; the default if there is none. -/
def configOf (configs : List (String × RuleConfig)) (id : String) : RuleConfig :=
  ((configs.find? fun c => c.1 == id).map (·.2)).getD {}

/-- The enabled rules with their configurations: all rules, or those with the given identifiers if
any are given. -/
def build (r : Registry) (configs : List (String × RuleConfig)) (only : List String) :
    Except RegistryError (List ConfiguredRule) :=
  let selected := if only.isEmpty then .ok r.entries else r.getAll only
  selected.map fun es =>
    (es.map fun e => (⟨e.rule, configOf configs e.rule.id⟩ : ConfiguredRule)).filter
      (·.config.enabled)

/-- The registry with the shipped rules only. -/
def shipped : Registry :=
  ({} : Registry).load.1

end Registry

end MarkupAudit
