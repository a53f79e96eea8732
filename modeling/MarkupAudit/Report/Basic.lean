import MarkupAudit.Audit.Worker

/-!
# The report of a run

The outcomes of all files, put together: the findings by file, the rows in file order, the skipped
files with their reasons, and how many findings each rule has.
-/

namespace MarkupAudit

/-- The report of a run. -/
structure Report where
  totalFiles : Nat := 0
  filesWithFindings : Nat := 0
  correctedFiles : Nat := 0
  findings : List (String × List Finding) := []
  rows : List ReportRow := []
  skipped : List (String × String) := []
  counts : List (String × Nat) := []

namespace Report

/-- Binds a name to a value: in the place of an entry with this name, else at the end. -/
def bind {α : Type} (name : String) (value : α) : List (String × α) → List (String × α)
  | [] => [(name, value)]
  | e :: es => if e.1 = name then (name, value) :: es else e :: bind name value es

/-- Counts one more of a name. -/
def countUp (name : String) : List (String × Nat) → List (String × Nat)
  | [] => [(name, 1)]
  | e :: es => if e.1 = name then (name, e.2 + 1) :: es else e :: countUp name es

/-- Counts findings by their rules. -/
def tally (counts : List (String × Nat)) (findings : List Finding) : List (String × Nat) :=
  findings.foldl (fun counts f => countUp f.rule counts) counts

/-- A report with one more file. -/
def add (r : Report) : FileOutcome → Report
  | .skipped path reason =>
      { r with
        totalFiles := r.totalFiles + 1
        skipped := bind path reason.message r.skipped }
  | .audited f =>
      let r : Report :=
        { r with
          totalFiles := r.totalFiles + 1
          correctedFiles := if f.corrected then r.correctedFiles + 1 else r.correctedFiles
          skipped :=
            match f.conflict with
            | some c => bind f.path c.message r.skipped
            | none => r.skipped }
      if f.findings.isEmpty then r
      else
        { r with
          filesWithFindings := r.filesWithFindings + 1
          findings := bind f.path f.findings r.findings
          rows := r.rows ++ f.rows
          counts := tally r.counts f.findings }

/-- The report on some files. -/
def ofOutcomes (outcomes : List FileOutcome) : Report :=
  outcomes.foldl add {}

/-- The number of findings. -/
def totalFindings (r : Report) : Nat :=
  r.counts.foldr (fun c total => c.2 + total) 0

/-- The counts, the greatest first; equal counts keep their order. -/
def ranking (r : Report) : List (String × Nat) :=
  r.counts.mergeSort fun a b => decide (b.2 ≤ a.2)

end Report

/-- Audits files as they are. Gives the tree afterwards as well. -/
def FileTree.audit (t : FileTree) (setup : AuditSetup) (view : View) (paths : List String) :
    FileTree × Except AuditError Report :=
  let (p, outcomes) := Worker.runAll setup view ⟨t, []⟩ paths
  (p.tree, outcomes.map Report.ofOutcomes)

end MarkupAudit
