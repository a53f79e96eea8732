import MarkupAudit.Audit.Amend
import MarkupAudit.Audit.Engine
import MarkupAudit.Rule.Registry

/-!
# Auditing one file

A file is read and analysed; if it is to be corrected, it is read again, and written if it has not
changed in between. A file that cannot be read or tokenized is skipped with a reason, but one that
cannot be written stops the run. What happens between the two readings is up to others: a view says what
each reading gives.
-/

namespace MarkupAudit

/-- What holds for all files of a run. -/
structure AuditSetup where
  configs : List (String × RuleConfig) := []
  only : List String := []
  autocorrect : Bool := false

/-- A finding as a line of the report. -/
structure ReportRow where
  path : String
  place : Place
  rule : String
  message : String
  deriving DecidableEq, Repr

/-- What the audit of a file gave. -/
structure FileReport where
  path : String
  findings : List Finding
  rows : List ReportRow
  corrected : Bool
  conflict : Option Conflict

/-- Why a file is skipped. -/
inductive SkipReason where
  | unreadable (place : Location) (fault : ReadFault)
  | malformed (fault : Malformed)
  deriving DecidableEq, Repr

/-- The reason in words. -/
def SkipReason.message : SkipReason → String
  | .unreadable place f => f.message place
  | .malformed m => m.message

/-- A file is skipped or audited. -/
inductive FileOutcome where
  | skipped (path : String) (reason : SkipReason)
  | audited (report : FileReport)

/-- What stops a run altogether. -/
inductive AuditError where
  | registry (error : RegistryError)
  | rule (error : RuleError)
  | file (place : Location) (fault : ReadFault)
  | write (place : Location) (fault : FileFault)
  deriving DecidableEq, Repr

/-- The error in words. -/
def AuditError.message : AuditError → String
  | .registry e => e.message
  | .rule e => e.message
  | .file place f => f.message place
  | .write place f => f.message place

namespace Worker

/-- A file that has been analysed. -/
structure Analysis where
  document : Document
  result : AuditResult

/-- How the work on a file ends. -/
abbrev End := Except AuditError FileOutcome

/-- The report on an analysed file. -/
def Analysis.report (a : Analysis) (path : String) : FileReport :=
  { path := path
    findings := a.result.findings
    rows := a.result.findings.map fun f =>
      ⟨path, a.document.source.place f.span.start, f.rule, f.message⟩
    corrected := false
    conflict := none }

/-- Whether a file that cannot be read is skipped. A name that no file can have stops the run. -/
def isSkipped : ReadFault → Bool
  | .file .nullCharacter => false
  | _ => true

/-- Analyses a file by what was read. -/
def analyse (setup : AuditSetup) (path : String) (text : Except ReadFault Text) :
    Except End Analysis :=
  match text with
  | .error f =>
      let place := Location.ofText path.toList
      .error (if isSkipped f then .ok (.skipped path (.unreadable place f))
        else .error (.file place f))
  | .ok source =>
      match Document.parse source (some path) with
      | .error m => .error (.ok (.skipped path (.malformed m)))
      | .ok d =>
          match Registry.shipped.build setup.configs setup.only with
          | .error e => .error (.error (.registry e))
          | .ok rules =>
              match Engine.run rules d with
              | .error e => .error (.error (.rule e))
              | .ok result => .ok ⟨d, result⟩

/-- Decides on the correction of an analysed file by what was read again. Gives the text to be
written, or the end of the work. -/
def correct (path : String) (a : Analysis) (text : Except ReadFault Text) : Except End Text :=
  let report := a.report path
  match a.document.corrected? text a.result.corrections with
  | .error (.read f) => .error (.error (.file (Location.ofText path.toList) f))
  | .error (.conflict c) => .error (.ok (.audited { report with conflict := some c }))
  | .ok none => .error (.ok (.audited report))
  | .ok (some corrected) => .ok corrected

/-- The end of the work on an analysed file to which a corrected text was to be written. -/
def written (path : String) (a : Analysis) (fault? : Option FileFault) : End :=
  match fault? with
  | none => .ok (.audited { a.report path with corrected := true })
  | some f => .error (.write (Location.ofText path.toList) f)

/-- Whether an analysed file is read again to be corrected. -/
def wantsCorrection (setup : AuditSetup) (a : Analysis) : Bool :=
  setup.autocorrect && !a.result.corrections.isEmpty

end Worker

/-- What a reading gives: it depends on the locations that have been read before, on the location that
is read, and on what the file there holds. -/
abbrev View := (seen : List Location) → Location → Except ReadFault Text → Except ReadFault Text

namespace View

/-- Nobody else touches the files. -/
def undisturbed : View := fun _ _ held => held

/-- Somebody adds text at each location that has been read. -/
def appending (addition : Text) : View := fun seen place held =>
  if seen.contains place then held.map (· ++ addition) else held

end View

/-- The state between two files of a run: the files, and the locations read so far. -/
structure Progress where
  tree : FileTree
  seen : List Location := []

namespace Worker

/-- Audits one file. -/
def run (setup : AuditSetup) (view : View) (p : Progress) (path : String) : Progress × End :=
  let place := Location.ofText path.toList
  let once : Progress := { p with seen := place :: p.seen }
  match analyse setup path (view p.seen place (p.tree.readText place)) with
  | .error done => (once, done)
  | .ok a =>
      if wantsCorrection setup a then
        let twice : Progress := { p with seen := place :: place :: p.seen }
        match correct path a (view once.seen place (p.tree.readText place)) with
        | .error done => (twice, done)
        | .ok text =>
            let (tree, fault?) := p.tree.writeText place text
            ({ twice with tree := tree }, written path a fault?)
      else (once, .ok (.audited (a.report path)))

/-- Audits files in turn, up to the first that stops the run. -/
def runAll (setup : AuditSetup) (view : View) (p : Progress) :
    List String → Progress × Except AuditError (List FileOutcome)
  | [] => (p, .ok [])
  | path :: rest =>
      match run setup view p path with
      | (p, .error e) => (p, .error e)
      | (p, .ok o) =>
          match runAll setup view p rest with
          | (p, .error e) => (p, .error e)
          | (p, .ok os) => (p, .ok (o :: os))

end Worker

end MarkupAudit
