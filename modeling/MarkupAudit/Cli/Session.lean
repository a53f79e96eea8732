import MarkupAudit.Cli.Options
import MarkupAudit.Cli.Screen
import MarkupAudit.FileTree.Collection
import MarkupAudit.Log.Level
import MarkupAudit.Report.Auditor
import MarkupAudit.Report.Export
import MarkupAudit.Settings.Store

/-!
# Running the command

A session holds what one run of the command leaves to the next: the files, the settings and the level
of the log. A run prints something and ends with a status: zero if nothing was found, one if
something was, and two if the command was not used as it should be. A run that fails ends with one as
well.
-/

namespace MarkupAudit.Cli

/-- What lasts from one run to the next. -/
structure Session where
  tree : FileTree
  settings : Value
  level : Log.Level := Log.Level.warning

/-- Why the number of workers cannot be used. -/
inductive WorkersFault where
  | notComparable (kind : Value.Kind)
  | notWhole (kind : Value.Kind)
  deriving DecidableEq, Repr

/-- The fault in words. -/
def WorkersFault.message : WorkersFault → String
  | .notComparable kind => "'>' not supported between instances of '" ++ kind.label ++ "' and 'int'"
  | .notWhole kind => "'" ++ kind.label ++ "' object cannot be interpreted as an integer"

/-- What makes a run fail. -/
inductive Failure where
  | settingsFile (place : Location) (fault : FileFault)
  | settings (fault : Settings.Fault)
  | level (fault : Log.LevelFault)
  | extensions (fault : ExtensionFault)
  | path (fault : CollectFault)
  | workers (fault : WorkersFault)
  | audit (error : AuditError)
  | saving (fault : ExportFault)

/-- The failure in words. -/
def Failure.message : Failure → String
  | .settingsFile place f => f.message place
  | .settings f => f.message
  | .level f => f.message
  | .extensions f => f.message
  | .path f => f.message
  | .workers f => f.message
  | .audit e => e.message
  | .saving f => f.message

/-- How a run ends: the session afterwards, the output, and the status or the failure. -/
structure Reply where
  session : Session
  output : List Output
  status : Except Failure Nat

/-- The status that the process exits with. A failure is not caught and makes it exit with one. -/
def Reply.exitStatus (reply : Reply) : Nat :=
  match reply.status with
  | .ok status => status
  | .error _ => 1

/-- A run that fails before the audit is done prints nothing. -/
def fail (s : Session) (f : Failure) : Reply :=
  ⟨s, [], .error f⟩

/-- Checks the number of workers for a number of files. More than one worker is only used for more
than one file. -/
def checkWorkers (files : Nat) : Value → Option WorkersFault
  | .scalar (.int _) => none
  | .scalar (.bool _) => none
  | .scalar (.float x) =>
      if 1.0 < x && decide (1 < files) then some (.notWhole .float) else none
  | other => some (.notComparable other.kind)

/-- Merges a settings file over the settings of a session. -/
def loadSettings (s : Session) (name : Text) : Except Failure Settings.Change :=
  let place := Location.ofText name
  match s.tree.read place with
  | .error .nullCharacter => .error (.settingsFile place .nullCharacter)
  | read =>
      let file := match read with
        | .ok content => some content.toBytes
        | .error _ => none
      .ok (Settings.load s.settings file)

/-- The identifiers in a list of rules: the parts between commas, without blanks around them and
without empty ones. -/
def ruleIds (list : Text) : List String :=
  (((Text.splitOn ',' list).map Text.trim).filter fun id => !id.isEmpty).map String.ofList

/-- The rules' switches that settings give, by rule. -/
def ruleConfigs (settings : Value) : Except Settings.Fault (List (String × RuleConfig)) :=
  match Settings.ruleConfigs settings with
  | .error f => .error f
  | .ok (configs, _) =>
      .ok (configs.filterMap fun (id, config) =>
        id.text?.map fun name => (String.ofList name, config))

/-- Tells about the end of saving a report. A text that a workbook cannot hold makes the run fail. -/
def savedLines : Except ExportFault (Option Location) → Except Failure (List Output)
  | .error (.cell text) => .error (.saving (.cell text))
  | .error f => .ok [say ("❌ Error exporting: " ++ f.message)]
  | .ok none => .ok []
  | .ok (some place) => .ok [say ("✅ Report exported to: " ++ String.ofList place.toText)]

/-- Saves a report and tells about it. -/
def saveReport (s : Session) (r : Report) (name : Text) : Session × Except Failure (List Output) :=
  let (tree, saved) := s.tree.saveReport r name
  ({ s with tree := tree }, savedLines saved)

/-- The lines that tell the findings of a report, one for each row. -/
def findingLines (r : Report) : List Output :=
  r.rows.map fun row => say (findingLine row)

/-- What is printed of a report. -/
def reportLines (r : Report) : List Output :=
  findingLines r ++ r.skipped.map (fun e => say (skippedLine e)) ++ summary r

/-- A value that counts as given: not empty. -/
def given? (value? : Option Text) : Option Text :=
  value?.filter fun v => !v.isEmpty

/-- Audits files and reports on them. -/
def audit (s : Session) (o : Options) (only : List String) (files : List Location) : Reply :=
  match ruleConfigs s.settings with
  | .error f => fail s (.settings f)
  | .ok configs =>
      let workers :=
        match o.workers.filter (· ≠ 0) with
        | some n => .int n
        | none => Settings.get s.settings "audit.workers".toList (.int 1)
      match checkWorkers files.length workers with
      | some f => fail s (.workers f)
      | none =>
          let auditor : Auditor := { configs := configs, only := only }
          let paths := files.map fun l => String.ofList l.toText
          match auditor.run o.autocorrect View.undisturbed s.tree paths with
          | (tree, _, .error e) => fail { s with tree := tree } (.audit e)
          | (tree, _, .ok r) =>
              let (s, saved) :=
                match given? o.exportTo with
                | some name => saveReport { s with tree := tree } r name
                | none => ({ s with tree := tree }, .ok [])
              match saved with
              | .error f => ⟨s, reportLines r, .error f⟩
              | .ok lines =>
                  ⟨s, reportLines r ++ lines, .ok (if r.totalFindings = 0 then 0 else 1)⟩

/-- Collects the files to audit and audits them. -/
def collectAndAudit (s : Session) (o : Options) (only : List String) : Reply :=
  let listed := Settings.get s.settings "audit.extensions".toList (.list [.str ".html"])
  match Collection.extensions listed with
  | .error f => fail s (.extensions f)
  | .ok extensions =>
      match s.tree.collect o.paths extensions with
      | .error f => fail s (.path f)
      | .ok found =>
          match found.files with
          | [] => ⟨s, [say "No template files found."], .ok 0⟩
          | files => audit s o only files

/-- Sets the level of the log and selects the rules. -/
def prepare (s : Session) (o : Options) : Reply :=
  let level :=
    match given? o.logLevel with
    | some name => Value.str (String.ofList name)
    | none => Settings.get s.settings "debug.level".toList (.str "WARNING")
  match Log.Level.ofValue Log.Level.info level with
  | .error f => fail s (.level f)
  | .ok level =>
      let s := { s with level := level }
      let only := ((given? o.rules).map ruleIds).getD []
      match only.filter fun id => !Registry.shipped.ids.contains id with
      | [] => collectAndAudit s o only
      | unknown => ⟨s, [say ("❌ Unknown rule(s): " ++ ", ".intercalate unknown)], .ok 2⟩

/-- Runs the command with options. -/
def runOptions (s : Session) (o : Options) : Reply :=
  if o.listRules then
    ⟨s, Registry.shipped.entries.map fun e => say (ruleLine e), .ok 0⟩
  else if o.paths.isEmpty then ⟨s, usage.map say, .ok 2⟩
  else
    match given? o.config with
    | none => prepare s o
    | some name =>
        match loadSettings s name with
        | .error f => fail s f
        | .ok change =>
            let s := { s with settings := change.settings }
            match change.outcome with
            | .error f => fail s (.settings f)
            | .ok true => prepare s o
            | .ok false =>
                ⟨s, [say ("❌ Could not load settings from " ++ String.ofList name)], .ok 2⟩

/-- Runs the command. -/
def run (s : Session) (arguments : List Text) : Reply :=
  match Options.parse arguments with
  | .error .help => ⟨s, help.map say, .ok 0⟩
  | .error .misuse => ⟨s, [], .ok 2⟩
  | .ok o => runOptions s o

end MarkupAudit.Cli
