import MarkupAudit.Settings.Value

/-!
# Configuration of a rule

A rule can be switched off, and its counter can be switched on or off. The switches are read from
settings leniently: numbers and words stand for truth values too.
-/

namespace MarkupAudit

/-- The switches of a rule. Without a switch for the counter the rule's own default holds. -/
structure RuleConfig where
  enabled : Bool := true
  counter : Option Bool := none
  deriving DecidableEq, Repr, Inhabited

/-- Why a value is no truth value: it is of a kind that could be one, or of another kind. -/
inductive SwitchFault where
  | unreadable
  | wrongKind
  deriving DecidableEq, Repr

/-- The switches of a rule by name. -/
inductive SwitchName where
  | enabled
  | counter
  deriving DecidableEq, Repr

/-- The name of a switch in settings. -/
def SwitchName.key : SwitchName → String
  | .enabled => "enabled"
  | .counter => "counter_enabled"

/-- Why a settings value is no configuration of a rule: it is not an object, or some switches cannot
be read. -/
inductive ConfigFault where
  | notAnObject
  | switches (faults : List (SwitchName × SwitchFault))
  deriving DecidableEq, Repr

namespace RuleConfig

/-- The words that stand for truth values, whatever the case of their letters. -/
def ofWord? (word : String) : Option Bool :=
  let lower := word.map fun c => if 'A' ≤ c && c ≤ 'Z' then Char.ofNat (c.toNat + 32) else c
  if ["1", "on", "t", "true", "y", "yes"].contains lower then some true
  else if ["0", "off", "f", "false", "n", "no"].contains lower then some false
  else none

/-- The truth value of a whole number that fits into 64 bits. -/
def ofWhole (n : Int) : Except SwitchFault Bool :=
  if n = 0 then .ok false
  else if n = 1 then .ok true
  else if -Int.pow 2 63 ≤ n && n < Int.pow 2 63 then .error .unreadable
  else .error .wrongKind

/-- Reads a truth value. -/
def switch : Value → Except SwitchFault Bool
  | .scalar (.bool b) => .ok b
  | .scalar (.int n) => ofWhole n
  | .scalar (.float x) =>
      match Scalar.wholeOfFloat? x with
      | some n => if n = -Int.pow 2 63 then .error .wrongKind else ofWhole n
      | none => .error .wrongKind
  | .scalar (.str s) =>
      match s.text?.bind fun t => ofWord? (String.ofList t) with
      | some b => .ok b
      | none => .error .unreadable
  | _ => .error .wrongKind

/-- Reads the configuration of a rule from settings. Other entries are passed over. -/
def ofValue : Value → Except ConfigFault RuleConfig
  | .object entries =>
      let enabled : Except SwitchFault Bool :=
        match Entries.get? entries SwitchName.enabled.key with
        | none => .ok true
        | some v => switch v
      let counter : Except SwitchFault (Option Bool) :=
        match Entries.get? entries SwitchName.counter.key with
        | none => .ok none
        | some v => if v.isNull then .ok none else (switch v).map some
      match enabled, counter with
      | .ok e, .ok c => .ok ⟨e, c⟩
      | .error f, .ok _ => .error (.switches [(.enabled, f)])
      | .ok _, .error g => .error (.switches [(.counter, g)])
      | .error f, .error g => .error (.switches [(.enabled, f), (.counter, g)])
  | _ => .error .notAnObject

end RuleConfig

end MarkupAudit
