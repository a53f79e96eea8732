import MarkupAudit.Log.Severity
import MarkupAudit.Rule.Config
import MarkupAudit.Settings.Convert
import MarkupAudit.Settings.KeyPath
import MarkupAudit.Settings.Merge
import MarkupAudit.Text.Utf8

/-!
# Using settings

Settings are read and changed by key paths, files are merged over them, and the rules' switches are
taken from them. An operation that cannot be done leaves the settings as they are and says so in a
notice. Only a settings value that is not an object at all, text that is not UTF-8, numbers out of
range, and values that are nested too deep are errors of the operation itself.

Settings are trees: no section stands under two keys at once, so a change under one key is no change
under another.
-/

namespace MarkupAudit.Settings

/-- What is worth telling about an operation that went on. -/
inductive Notice where
  | keptAsGiven
  | notASection
  | unreadable
  | notAnObject
  | noFile
  | invalidRule (id : Scalar)

/-- How serious a notice is. -/
def Notice.severity : Notice → Severity
  | .keptAsGiven => .warning
  | .noFile => .warning
  | _ => .error

/-- What an operation wanted to do with a value that is not an object. -/
inductive Use where
  | lookUp
  | enter
  | list
  | assign
  deriving DecidableEq, Repr

/-- Why an operation stopped. -/
inductive Fault where
  | notAnObject (kind : Value.Kind) (use : Use)
  | conversion (fault : Convert.Fault)
  | encoding (fault : Utf8.Fault)
  | numeral (fault : NumeralTooLong)
  | nesting (innermost : Json.Container)
  | copy

/-- The fault in words. -/
def Fault.message : Fault → String
  | .notAnObject kind .lookUp => "'" ++ kind.label ++ "' object has no attribute 'get'"
  | .notAnObject kind .enter => "'" ++ kind.label ++ "' object has no attribute 'setdefault'"
  | .notAnObject kind .list => "'" ++ kind.label ++ "' object has no attribute 'items'"
  | .notAnObject .list .assign => "list indices must be integers or slices, not str"
  | .notAnObject kind .assign => "'" ++ kind.label ++ "' object does not support item assignment"
  | .conversion f => f.message
  | .encoding f => f.message
  | .numeral f => f.message
  | .nesting .list =>
      "maximum recursion depth exceeded while decoding a JSON array from a unicode string"
  | .nesting .object =>
      "maximum recursion depth exceeded while decoding a JSON object from a unicode string"
  | .copy => "maximum recursion depth exceeded while calling a Python object"

/-- What a change came to: the settings afterwards, whether the change was made or why it stopped, and
notices. -/
structure Change where
  settings : Value
  outcome : Except Fault Bool
  notices : List Notice := []

/-! ## Reading -/

/-- The value at the end of a sequence of keys. -/
def at? (settings : Value) : (keys : List String) → Option Value
  | [] => some settings
  | key :: keys =>
      match settings.child? key with
      | some v => at? v keys
      | none => none

/-- The value that a key path names, unless there is none or it is null. -/
def get? (settings : Value) (path : Text) : Option Value :=
  (at? settings (KeyPath.resolve settings path)).filter fun v => !v.isNull

/-- The value that a key path names, or a default. -/
def get (settings : Value) (path : Text) (default : Value) : Value :=
  (get? settings path).getD default

/-! ## Changing one setting -/

/-- The value to store in place of another: of the same kind, where it can be converted. -/
def replacement (previous? : Option Value) (value : Value) :
    Except Convert.Fault (Value × List Notice) :=
  match previous? with
  | none => .ok (value, [])
  | some previous =>
      if previous.isNull || Convert.fits previous.kind value then .ok (value, [])
      else
        match Convert.ofKind previous.kind value with
        | .error f => .error f
        | .ok (some converted) => .ok (converted, [])
        | .ok none => .ok (value, [.keptAsGiven])

/-- Stores a value under a sequence of keys. Missing sections are made; a key that holds a value
where a section is needed stops the change: the result is then `none`. -/
def store (entries : Entries) (value : Value) :
    (keys : List String) → Except Convert.Fault (Option (Entries × List Notice))
  | [] => .ok (some (entries, []))
  | [leaf] =>
      match replacement (entries.get? leaf) value with
      | .error f => .error f
      | .ok (v, notices) => .ok (some (entries.put (.key leaf) v, notices))
  | key :: keys =>
      match entries.get? key with
      | some (.object inner) =>
          (store inner value keys).map fun r =>
            r.map fun (es, notices) => (entries.put (.key key) (.object es), notices)
      | none =>
          (store [] value keys).map fun r =>
            r.map fun (es, notices) => (entries.put (.key key) (.object es), notices)
      | some _ => .ok none

/-- Changes the setting that a key path names. The settings are taken as a tree: a section that was
stored under a second key would change there as well. -/
def set (settings : Value) (path : Text) (value : Value) : Change :=
  let keys := KeyPath.resolve settings path
  match settings with
  | .object entries =>
      match store entries value keys with
      | .error f => ⟨settings, .error (.conversion f), []⟩
      | .ok none => ⟨settings, .ok false, [.notASection]⟩
      | .ok (some (es, notices)) => ⟨.object es, .ok true, notices⟩
  | other =>
      ⟨settings, .error (.notAnObject other.kind (if keys.length = 1 then .lookUp else .enter)), []⟩

/-! ## Files -/

/-- The value that the bytes of a file hold, if they are UTF-8: `none` if they are not the text of a
value. -/
def read (bytes : List UInt8) : Except Fault (Option Value) :=
  match Utf8.decode bytes with
  | .error f => .error (.encoding f)
  | .ok text =>
      match Json.parse text with
      | .error .invalid => .ok none
      | .error (.numeral f) => .error (.numeral f)
      | .error (.nesting c) => .error (.nesting c)
      | .ok v => .ok (some v)

/-- Lays entries over settings. If a value cannot be copied, the entries before it have been laid over
the settings already. -/
def overlay (settings : Value) (entries : Entries) : Change :=
  match settings, entries with
  | .object base, _ =>
      match Entries.copied 0 base entries with
      | (_, true) => ⟨.object (Entries.merge base entries), .ok true, []⟩
      | (front, false) => ⟨.object (Entries.merge base front), .error .copy, []⟩
  | other, [] => ⟨other, .ok true, []⟩
  | other, (_, .object _) :: _ => ⟨other, .error (.notAnObject other.kind .lookUp), []⟩
  | other, _ => ⟨other, .error (.notAnObject other.kind .assign), []⟩

/-- Merges a file over settings; `none` is a file that cannot be read. -/
def load (settings : Value) (file : Option (List UInt8)) : Change :=
  match file with
  | none => ⟨settings, .ok false, [.unreadable]⟩
  | some bytes =>
      match read bytes with
      | .error f => ⟨settings, .error f, []⟩
      | .ok none => ⟨settings, .ok false, [.unreadable]⟩
      | .ok (some (.object entries)) => overlay settings entries
      | .ok (some _) => ⟨settings, .ok false, [.notAnObject]⟩

/-- Takes up the settings that a file holds. Without a file, and from a file that does not hold a
value, there are no settings. -/
def reset (settings : Value) (file : Option (List UInt8)) : Change :=
  match file with
  | none => ⟨.object [], .ok true, [.noFile]⟩
  | some bytes =>
      match read bytes with
      | .error f => ⟨settings, .error f, []⟩
      | .ok none => ⟨.object [], .ok true, [.unreadable]⟩
      | .ok (some v) => ⟨v, .ok true, []⟩

/-! ## The rules' switches -/

/-- The switches of one rule: a block that cannot be read gives the defaults, and a notice. -/
def ruleConfig (id : Scalar) (block : Value) : RuleConfig × List Notice :=
  match RuleConfig.ofValue (if block.isTruthy then block else .object []) with
  | .ok config => (config, [])
  | .error _ => ({}, [.invalidRule id])

/-- The switches of all rules that settings name, in their order, and the notices about them. -/
def ruleConfigs (settings : Value) : Except Fault (List (Scalar × RuleConfig) × List Notice) :=
  match settings with
  | .object entries =>
      let rules := (Entries.get? entries "rules").getD .null
      match if rules.isTruthy then rules else .object [] with
      | .object blocks =>
          let read := blocks.map fun (id, block) => (id, ruleConfig id block)
          .ok (read.map fun (id, config, _) => (id, config), read.flatMap fun (_, _, ns) => ns)
      | other => .error (.notAnObject other.kind .list)
  | other => .error (.notAnObject other.kind .lookUp)

end MarkupAudit.Settings
