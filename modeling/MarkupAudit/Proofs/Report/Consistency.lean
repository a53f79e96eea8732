import MarkupAudit.Cli.Session
import MarkupAudit.Proofs.Audit.Merging
import MarkupAudit.Proofs.Audit.Readings
import MarkupAudit.Report.Auditor

/-!
# Reports are consistent

A report tells the findings of a run in four ways: by file, as rows, by rule, and as totals. They agree
with each other and with what was read of each file (`Report.Consistent`), whatever was reported
before, and whether files were audited in turn or side by side (`run_consistent`). So the command exits
with one if and only if it printed a finding, even if it fails when it saves the report, for only a
report with findings is saved (`Cli.ends_run`).
-/

namespace MarkupAudit

/-! ### Counts -/

namespace Report

/-- Counts by name: each name once, and none without a count. -/
structure IsTally (counts : List (String × Nat)) : Prop where
  names : (counts.map (·.1)).Nodup
  positive : ∀ c ∈ counts, 0 < c.2

theorem map_fst_countUp (name : String) (counts : List (String × Nat)) :
    (countUp name counts).map (·.1) =
      if name ∈ counts.map (·.1) then counts.map (·.1) else counts.map (·.1) ++ [name] := by
  induction counts with
  | nil => rfl
  | cons c counts ih =>
      rw [countUp]
      by_cases h : c.1 = name
      · rw [if_pos h, if_pos (by simp [h])]
        simp [h]
      · have hne : name ≠ c.1 := Ne.symm h
        rw [if_neg h, List.map_cons, ih]
        split <;> simp_all

theorem IsTally.countUp {counts : List (String × Nat)} (h : IsTally counts) (name : String) :
    IsTally (countUp name counts) := by
  constructor
  · rw [map_fst_countUp]
    split
    · exact h.names
    case isFalse hnew =>
      rw [List.nodup_append]
      refine ⟨h.names, List.nodup_singleton name, fun a ha b hb heq => ?_⟩
      rw [List.mem_singleton.1 hb] at heq
      exact hnew (heq ▸ ha)
  · have hpositive := h.positive
    clear h
    induction counts with
    | nil => simp [Report.countUp]
    | cons c counts ih =>
        obtain ⟨hc, hcounts⟩ := List.forall_mem_cons.1 hpositive
        rw [Report.countUp]
        split
        · exact List.forall_mem_cons.2 ⟨Nat.succ_pos _, hcounts⟩
        · exact List.forall_mem_cons.2 ⟨hc, ih hcounts⟩

theorem IsTally.tally {counts : List (String × Nat)} (h : IsTally counts) (fs : List Finding) :
    IsTally (tally counts fs) := by
  induction fs generalizing counts with
  | nil => exact h
  | cons f fs ih => exact ih (h.countUp f.rule)

theorem IsTally.mem_iff {counts : List (String × Nat)} (h : IsTally counts) {name : String}
    {n : Nat} : (name, n) ∈ counts ↔ 0 < n ∧ n = countOf counts name := by
  obtain ⟨hnames, hpositive⟩ := h
  induction counts with
  | nil =>
      refine ⟨fun hmem => (nomatch hmem), fun ⟨hn, heq⟩ => ?_⟩
      subst heq
      cases hn
  | cons c counts ih =>
      rw [List.map_cons, List.nodup_cons] at hnames
      obtain ⟨hc, hcounts⟩ := List.forall_mem_cons.1 hpositive
      rw [List.mem_cons, countOf_cons]
      constructor
      · rintro (rfl | hmem)
        · rw [if_pos rfl]
          exact ⟨hc, rfl⟩
        · have hne : c.1 ≠ name := by
            rintro rfl
            exact hnames.1 (List.mem_map.2 ⟨_, hmem, rfl⟩)
          rw [if_neg hne]
          exact (ih hnames.2 hcounts).1 hmem
      · rintro ⟨hn, heq⟩
        split at heq
        case isTrue hname =>
          subst hname heq
          exact .inl rfl
        case isFalse => exact .inr ((ih hnames.2 hcounts).2 ⟨hn, heq⟩)

theorem isTally_add {r : Report} (h : IsTally r.counts) (o : FileOutcome) :
    IsTally (r.add o).counts := by
  cases o with
  | skipped path reason => exact h
  | audited f =>
      simp only [add]
      split
      · exact h
      · exact h.tally f.findings

theorem isTally_ofOutcomes (os : List FileOutcome) : IsTally (ofOutcomes os).counts := by
  induction os using List.reverseRecOn with
  | nil => exact ⟨List.nodup_nil, List.forall_mem_nil _⟩
  | append_singleton os o ih =>
      rw [ofOutcomes, List.foldl_append]
      exact isTally_add ih o

/-- The outcome of a file with a row for each finding. -/
def HasRows : FileOutcome → Prop
  | .skipped _ _ => True
  | .audited f => f.rows.length = f.findings.length

theorem totalFindings_add {r : Report} {o : FileOutcome} (h : r.totalFindings = r.rows.length)
    (ho : HasRows o) : (r.add o).totalFindings = (r.add o).rows.length := by
  cases o with
  | skipped path reason => exact h
  | audited f =>
      have hrows : f.rows.length = f.findings.length := ho
      simp only [add]
      split
      · exact h
      · rw [List.length_append, hrows, ← h]
        exact total_tally r.counts f.findings

/-- There are as many rows as findings are counted, even if a path was given twice. -/
theorem totalFindings_ofOutcomes {os : List FileOutcome} (h : ∀ o ∈ os, HasRows o) :
    (ofOutcomes os).totalFindings = (ofOutcomes os).rows.length := by
  induction os using List.reverseRecOn with
  | nil => rfl
  | append_singleton os o ih =>
      rw [ofOutcomes, List.foldl_append]
      refine totalFindings_add (ih fun o ho => h o (List.mem_append_left _ ho)) (h o ?_)
      exact List.mem_append_right _ (List.mem_singleton_self o)

end Report

/-! ### Files -/

namespace Worker

/-- What is found in a file by what was read of it. Nothing is found in a file that is skipped. -/
def foundIn (setup : AuditSetup) (path : String) (text : Except ReadFault Text) : List Finding :=
  match analyse setup path text with
  | .ok a => a.result.findings
  | .error _ => []

/-- The rows for findings in a text that was read: where each of them begins. -/
def rowsFor (path : String) (text : Except ReadFault Text) (fs : List Finding) : List ReportRow :=
  match text with
  | .ok s => fs.map fun f => ⟨path, s.place f.span.start, f.rule, f.message⟩
  | .error _ => []

end Worker

/-- Why a file is no template, in words: it cannot be read, or its text cannot be parsed. -/
inductive Unfit (path : String) (text : Except ReadFault Text) : String → Prop where
  | unreadable {f : ReadFault} : text = .error f →
      Unfit path text (f.message (Location.ofText path.toList))
  | malformed {s : Text} {m : Malformed} : text = .ok s → Document.parse s (some path) = .error m →
      Unfit path text m.message

/-- A report that agrees with itself and with what was read of the files. -/
structure Report.Consistent (setup : AuditSetup) (files : List (String × Except ReadFault Text))
    (r : Report) : Prop where
  totalFiles : r.totalFiles = files.length
  /-- One row for each finding, file by file and in the order in which they begin. -/
  rows : r.rows = files.flatMap fun file =>
    Worker.rowsFor file.1 file.2 (Worker.foundIn setup file.1 file.2)
  order : ∀ file ∈ files, Finding.InOrder (Worker.foundIn setup file.1 file.2)
  findings : r.findings = files.flatMap fun file =>
    if (Worker.foundIn setup file.1 file.2).isEmpty then []
    else [(file.1, Worker.foundIn setup file.1 file.2)]
  counts : ∀ rule n, (rule, n) ∈ r.counts ↔ 0 < n ∧ n = r.rows.countP fun row => row.rule = rule
  names : (r.counts.map (·.1)).Nodup
  total : r.totalFindings = r.rows.length
  byFile : r.rows.length = (r.findings.map (·.2.length)).sum
  filesWithFindings : r.filesWithFindings = r.findings.length
  unfit : ∀ file ∈ files, ∀ message, Unfit file.1 file.2 message →
    (file.1, message) ∈ r.skipped ∧ file.1 ∉ r.findings.map (·.1)

section Files

variable {setup : AuditSetup} {path : String} {text : Except ReadFault Text} {o : FileOutcome}

theorem Worker.inOrder_foundIn (setup : AuditSetup) (path : String) (text : Except ReadFault Text) :
    Finding.InOrder (foundIn setup path text) := by
  unfold foundIn
  split
  case h_1 a hanalyse =>
    obtain ⟨-, rules, -, -, -, hrun⟩ := analyse_eq_ok_iff_exists.1 hanalyse
    exact (Engine.isMerged_of_run hrun).order
  case h_2 => exact List.Pairwise.nil

/-- What the report on one file says, by what was found in the file. -/
structure Report.SaysOf (setup : AuditSetup) (path : String) (text : Except ReadFault Text)
    (part : Report) : Prop where
  totalFiles : part.totalFiles = 1
  rows : part.rows = Worker.rowsFor path text (Worker.foundIn setup path text)
  findings : part.findings = if (Worker.foundIn setup path text).isEmpty then []
    else [(path, Worker.foundIn setup path text)]
  counts : ∀ rule, countOf part.counts rule = part.rows.countP fun row => row.rule = rule
  byFile : part.rows.length = (part.findings.map (·.2.length)).sum
  filesWithFindings : part.filesWithFindings = part.findings.length
  unfit : ∀ message, Unfit path text message →
    (path, message) ∈ part.skipped ∧ Worker.foundIn setup path text = []

theorem Gives.path_eq (h : Gives setup path text o) : o.path = path := by
  cases h with
  | unreadable => rfl
  | malformed => rfl
  | audited _ hpath => exact hpath

theorem Worker.foundIn_of_analyse {a : Worker.Analysis} (h : analyse setup path text = .ok a) :
    foundIn setup path text = a.result.findings := by
  rw [foundIn, h]

theorem Worker.rowsFor_of_analyse {a : Worker.Analysis} (h : analyse setup path text = .ok a) :
    rowsFor path text a.result.findings = (a.report path).rows := by
  obtain ⟨s, rules, rfl, hparse, -, -⟩ := analyse_eq_ok_iff_exists.1 h
  rw [rowsFor, ← (Document.fingerprint_of_parse hparse).1]
  rfl

theorem Worker.analyse_ne_ok_of_unfit {message : String} (h : Unfit path text message)
    (a : Worker.Analysis) : analyse setup path text ≠ .ok a := by
  cases h with
  | unreadable htext => simp [analyse, htext]
  | malformed htext hparse => simp [analyse, htext, hparse]

theorem Worker.foundIn_of_unfit {message : String} (h : Unfit path text message) :
    foundIn setup path text = [] := by
  unfold foundIn
  split
  case h_1 a hanalyse => exact absurd hanalyse (analyse_ne_ok_of_unfit h a)
  case h_2 => rfl

/-- A file that is skipped is in no other part of the report. -/
theorem Report.saysOf_skipped {reason : SkipReason} (h : Unfit path text reason.message)
    (only : ∀ message, Unfit path text message → message = reason.message) :
    (ofOutcomes [.skipped path reason]).SaysOf setup path text := by
  have hfound : Worker.foundIn setup path text = [] := Worker.foundIn_of_unfit h
  constructor
  case rows =>
    rw [hfound]
    cases text <;> rfl
  case findings =>
    rw [hfound]
    rfl
  case unfit =>
    intro message hmessage
    rw [only message hmessage]
    exact ⟨List.mem_singleton_self _, hfound⟩
  all_goals intros; rfl

theorem Gives.saysOf (h : Gives setup path text o) :
    (Report.ofOutcomes [o]).SaysOf setup path text := by
  cases h with
  | @unreadable f htext =>
      refine Report.saysOf_skipped (.unreadable htext) fun message hmessage => ?_
      cases hmessage with
      | unreadable htext' =>
          cases htext.symm.trans htext'
          rfl
      | malformed htext' => cases htext.symm.trans htext'
  | @malformed s m htext hparse =>
      refine Report.saysOf_skipped (.malformed htext hparse) fun message hmessage => ?_
      cases hmessage with
      | unreadable htext' => cases htext.symm.trans htext'
      | malformed htext' hparse' =>
          cases htext.symm.trans htext'
          cases hparse.symm.trans hparse'
          rfl
  | @audited a f hanalyse hpath hfindings hrows =>
      have hfound := Worker.foundIn_of_analyse hanalyse
      have hrowsFor := Worker.rowsFor_of_analyse hanalyse
      rw [Report.ofOutcomes, List.foldl_cons, List.foldl_nil,
        Report.add_audited List.not_mem_nil List.not_mem_nil, hfindings, hrows, hpath]
      have hall : (if a.result.findings.isEmpty then [] else (a.report path).rows) =
          (a.report path).rows := by
        split
        case isTrue hempty => simp [Worker.Analysis.report, List.isEmpty_iff.1 hempty]
        case isFalse => rfl
      have hlength : (a.report path).rows.length = a.result.findings.length := List.length_map _
      simp only [hall, List.nil_append]
      constructor
      case totalFiles => rfl
      case rows =>
        rw [hfound, hrowsFor]
      case findings =>
        rw [hfound]
      case counts =>
        intro rule
        rw [Report.countOf_tally, Worker.Analysis.report, List.countP_map]
        exact Nat.zero_add _
      case byFile =>
        split
        case isTrue hempty => simp [hlength, List.isEmpty_iff.1 hempty]
        case isFalse => simp [hlength]
      case filesWithFindings =>
        split <;> rfl
      case unfit =>
        intro message hmessage
        exact absurd hanalyse (Worker.analyse_ne_ok_of_unfit hmessage a)

theorem Gives.hasRows (h : Gives setup path text o) : Report.HasRows o := by
  cases h with
  | unreadable => trivial
  | malformed => trivial
  | audited _ _ hfindings hrows =>
      rw [Report.HasRows, hfindings, hrows]
      exact List.length_map _

end Files

theorem map_eq_of_forall₂ {α β γ : Type} {R : α → β → Prop} {f : α → γ} {g : β → γ} {as : List α}
    {bs : List β} (h : List.Forall₂ R as bs) (heq : ∀ a b, R a b → g b = f a) :
    bs.map g = as.map f := by
  induction h with
  | nil => rfl
  | @cons a b as bs hab _ ih => rw [List.map_cons, List.map_cons, heq a b hab, ih]

/-- The report on files with different paths is consistent. -/
theorem Report.consistent_ofOutcomes {setup : AuditSetup}
    {files : List (String × Except ReadFault Text)} {os : List FileOutcome}
    (distinct : (files.map (·.1)).Nodup)
    (h : List.Forall₂ (fun file o => Gives setup file.1 file.2 o) files os) :
    (ofOutcomes os).Consistent setup files := by
  have hpaths : os.map FileOutcome.path = files.map (·.1) :=
    map_eq_of_forall₂ h fun file o => Gives.path_eq
  have sum := isSum_ofOutcomes (hpaths ▸ distinct)
  have told : List.Forall₂ (fun file part => SaysOf setup file.1 file.2 part) files
      (os.map fun o => ofOutcomes [o]) := by
    rw [List.forall₂_map_right_iff]
    exact h.imp fun file o => Gives.saysOf
  generalize os.map (fun o => ofOutcomes [o]) = parts at *
  have each : ∀ part ∈ parts, ∃ file ∈ files, SaysOf setup file.1 file.2 part :=
    exists_mem_of_forall₂ told.flip
  have hfindings : (ofOutcomes os).findings = files.flatMap fun file =>
      if (Worker.foundIn setup file.1 file.2).isEmpty then []
      else [(file.1, Worker.foundIn setup file.1 file.2)] := by
    rw [sum.findings, List.flatMap_def, List.flatMap_def,
      map_eq_of_forall₂ told fun file part => SaysOf.findings]
  constructor
  case totalFiles =>
    rw [sum.totalFiles, map_eq_of_forall₂ told fun file part => SaysOf.totalFiles,
      List.map_const', List.sum_replicate_nat, Nat.mul_one]
  case rows =>
    rw [sum.rows, List.flatMap_def, List.flatMap_def,
      map_eq_of_forall₂ told fun file part => SaysOf.rows]
  case order =>
    intro file _
    exact Worker.inOrder_foundIn setup file.1 file.2
  case findings => exact hfindings
  case counts =>
    intro rule n
    have hcounts : countOf (ofOutcomes os).counts rule =
        (ofOutcomes os).rows.countP fun row => row.rule = rule := by
      rw [sum.counts, sum.rows, List.countP_flatMap]
      refine congrArg List.sum (List.map_congr_left fun part hpart => ?_)
      obtain ⟨file, -, hfile⟩ := each part hpart
      exact hfile.counts rule
    rw [(isTally_ofOutcomes os).mem_iff, hcounts]
  case names => exact (isTally_ofOutcomes os).names
  case total =>
    refine totalFindings_ofOutcomes fun o ho => ?_
    obtain ⟨file, -, hgives⟩ := exists_mem_of_forall₂ h.flip o ho
    exact hgives.hasRows
  case byFile =>
    rw [sum.rows, sum.findings, List.length_flatMap, List.map_flatMap, List.flatMap_def,
      List.sum_flatten, List.map_map]
    refine congrArg List.sum (List.map_congr_left fun part hpart => ?_)
    obtain ⟨file, -, hfile⟩ := each part hpart
    exact hfile.byFile
  case filesWithFindings =>
    rw [sum.filesWithFindings, sum.findings, List.length_flatMap]
    refine congrArg List.sum (List.map_congr_left fun part hpart => ?_)
    obtain ⟨file, -, hfile⟩ := each part hpart
    exact hfile.filesWithFindings
  case unfit =>
    intro file hfile message hmessage
    obtain ⟨part, hpart, hsays⟩ := exists_mem_of_forall₂ told file hfile
    obtain ⟨hskipped, hfound⟩ := hsays.unfit message hmessage
    refine ⟨?_, fun hmem => ?_⟩
    · rw [sum.skipped]
      exact List.mem_flatMap.2 ⟨part, hpart, hskipped⟩
    · -- no other file has this path
      rw [hfindings] at hmem
      obtain ⟨entry, hentry, hpath⟩ := List.mem_map.1 hmem
      obtain ⟨other, hother, hentry⟩ := List.mem_flatMap.1 hentry
      split at hentry
      case isTrue => cases hentry
      case isFalse hne =>
        cases List.mem_singleton.1 hentry
        have hsame := List.inj_on_of_nodup_map distinct hother hfile hpath
        rw [hsame, hfound] at hne
        exact hne rfl

/-! ### Auditors -/

namespace Auditor

variable {a a' : Auditor} {r : Report}

/-- An auditor that comes to a report keeps this report and no other. -/
theorem conclude_eq_ok_iff {outcomes : Except AuditError (List FileOutcome)} :
    a.conclude outcomes = (a', .ok r) ↔
      ∃ os, outcomes = .ok os ∧ r = Report.ofOutcomes os ∧ a' = { a with report := r } := by
  cases outcomes with
  | error e => simp [conclude]
  | ok os =>
      simp only [conclude, Prod.mk.injEq, Except.ok.injEq]
      constructor
      · rintro ⟨rfl, rfl⟩
        exact ⟨os, rfl, rfl, rfl⟩
      · rintro ⟨_, rfl, rfl, rfl⟩
        exact ⟨rfl, rfl⟩

theorem run_eq {autocorrect : Bool} {view : View} {t : FileTree} {paths : List String} :
    a.run autocorrect view t paths =
      ((Worker.runAll (a.setup autocorrect) view ⟨t, []⟩ paths).1.tree,
        a.conclude (Worker.runAll (a.setup autocorrect) view ⟨t, []⟩ paths).2) :=
  rfl

theorem totalFindings_of_run {autocorrect : Bool} {view : View} {t t' : FileTree}
    {paths : List String} (h : a.run autocorrect view t paths = (t', a', .ok r)) :
    r.totalFindings = r.rows.length := by
  rw [run_eq, Prod.mk.injEq] at h
  obtain ⟨os, hos, rfl, -⟩ := conclude_eq_ok_iff.1 h.2
  refine Report.totalFindings_ofOutcomes fun o ho => ?_
  obtain ⟨file, -, hgives⟩ := exists_mem_of_forall₂ (Worker.gives_of_runAll hos).flip o ho
  exact hgives.hasRows

end Auditor

/-! ### The status of the command -/

namespace Cli

/-- What the command prints of a report and how it ends. The lines of the findings come first, and the
process exits with one if there is such a line, and with zero otherwise. Behind the report the command
only fails if a workbook is to be saved and cannot hold one of the texts. -/
structure Announces (r : Report) (reply : Reply) : Prop where
  output : ∃ saved, reply.output = findingLines r ++
    (r.skipped.map (fun entry => say (skippedLine entry)) ++ summary r ++ saved)
  exits : reply.exitStatus = 1 ↔ findingLines r ≠ []
  clean : findingLines r = [] → reply.exitStatus = 0
  fails : ∀ f, reply.status = .error f →
    ∃ text, (Workbook.fill r.table).2 = some text ∧ f = .saving (.cell text)

/-- What the command prints if it does not come to a report. -/
inductive IsNotice : List Output → Prop where
  | silent : IsNotice []
  | help : IsNotice (help.map say)
  | usage : IsNotice (usage.map say)
  | rules : IsNotice (Registry.shipped.entries.map fun e => say (ruleLine e))
  | noFiles : IsNotice [say "No template files found."]
  | unknownRules (ids : List String) :
      IsNotice [say ("❌ Unknown rule(s): " ++ ", ".intercalate ids)]
  | noSettings (name : Text) :
      IsNotice [say ("❌ Could not load settings from " ++ String.ofList name)]

/-- A failure before there is a report. -/
def Failure.IsEarly : Failure → Prop
  | .saving _ => False
  | _ => True

/-- How the command ends: with the report of an audit of its files that returned, or before there is a
report. Then it prints no finding, and exits with one only if it fails. -/
def Ends (t : FileTree) (reply : Reply) : Prop :=
  (∃ (a a' : Auditor) (autocorrect : Bool) (t' : FileTree) (paths : List String) (r : Report),
      a.run autocorrect View.undisturbed t paths = (t', a', .ok r) ∧ Announces r reply) ∨
    IsNotice reply.output ∧
      (reply.exitStatus = 1 ↔ ∃ f : Failure, f.IsEarly ∧ reply.status = .error f)

theorem ends_fail (t : FileTree) (s : Session) {f : Failure} (early : f.IsEarly) :
    Ends t (fail s f) :=
  .inr ⟨.silent, fun _ => ⟨f, early, rfl⟩, fun _ => rfl⟩

/-- A notice with a status other than one. -/
theorem ends_notice {t : FileTree} {reply : Reply} {status : Nat} (notice : IsNotice reply.output)
    (hstatus : reply.status = .ok status) (hne : status ≠ 1) : Ends t reply := by
  have hexit : reply.exitStatus = status := by rw [Reply.exitStatus, hstatus]
  refine .inr ⟨notice, fun h => absurd (hexit.symm.trans h) hne, ?_⟩
  rintro ⟨f, -, hfails⟩
  cases hstatus.symm.trans hfails

theorem unsavable_of_content {r : Report} {place : Location} {content : FileContent} {text : Text}
    (h : r.content place = .ok (content, some text)) : (Workbook.fill r.table).2 = some text := by
  unfold Report.content at h
  split at h
  · exact (Prod.mk.inj (Except.ok.inj h)).2
  · split at h <;> cases h

theorem unsavable_of_saveAt {t : FileTree} {r : Report} {place : Location} {text : Text}
    (h : (t.saveAt r place).2 = .error (.cell text)) : (Workbook.fill r.table).2 = some text := by
  unfold FileTree.saveAt at h
  split at h
  case h_1 f hcontent =>
    unfold Report.content at hcontent
    split at hcontent
    · cases hcontent
    · split at hcontent <;> cases hcontent
      cases h
  case h_2 content fault? hcontent =>
    split at h
    · cases h
    · split at h
      · cases h
        exact unsavable_of_content hcontent
      · cases h

theorem unsavable_of_saveReport {t : FileTree} {r : Report} {name text : Text}
    (h : (t.saveReport r name).2 = .error (.cell text)) :
    r.rows ≠ [] ∧ (Workbook.fill r.table).2 = some text := by
  unfold FileTree.saveReport at h
  simp only at h
  split at h
  · cases h
  case isFalse hrows =>
    refine ⟨fun hnil => hrows (by rw [hnil]; rfl), ?_⟩
    split at h
    · cases h
    · cases h
    · cases hsaved : (t.saveAt r (Location.ofText name)).2 with
      | error f =>
          simp only [hsaved] at h
          cases h
          exact unsavable_of_saveAt hsaved
      | ok place =>
          simp only [hsaved] at h
          cases h

/-- Only a text that a workbook cannot hold makes the command fail when it saves a report. -/
theorem saving_of_error {s : Session} {r : Report} {name : Text} {f : Failure}
    (h : (saveReport s r name).2 = .error f) :
    r.rows ≠ [] ∧ ∃ text, (Workbook.fill r.table).2 = some text ∧ f = .saving (.cell text) := by
  simp only [saveReport, savedLines] at h
  split at h
  case h_1 text hsaved =>
    cases h
    obtain ⟨hrows, htext⟩ := unsavable_of_saveReport hsaved
    exact ⟨hrows, text, htext, rfl⟩
  all_goals cases h

theorem findingLines_eq_nil_iff {r : Report} : findingLines r = [] ↔ r.rows = [] :=
  List.map_eq_nil_iff

section Announces

variable {r : Report} {s : Session}

/-- The status that counts findings says whether a line tells one. -/
theorem announces_of_total (lines : List Output) (h : r.totalFindings = r.rows.length) :
    Announces r ⟨s, reportLines r ++ lines, .ok (if r.totalFindings = 0 then 0 else 1)⟩ := by
  have hnone : r.totalFindings = 0 ↔ findingLines r = [] := by
    rw [h, List.length_eq_zero_iff, findingLines_eq_nil_iff]
  refine ⟨⟨lines, by simp [reportLines]⟩, ?_, fun hnil => ?_, fun f hf => (nomatch hf)⟩
  · rw [Reply.exitStatus, ne_eq, ← hnone]
    by_cases hzero : r.totalFindings = 0 <;> simp [hzero]
  · rw [Reply.exitStatus, if_pos (hnone.2 hnil)]

/-- A report that cannot be saved has findings, and its lines were printed before. -/
theorem announces_of_unsavable {text : Text} (hrows : r.rows ≠ [])
    (htext : (Workbook.fill r.table).2 = some text) :
    Announces r ⟨s, reportLines r, .error (.saving (.cell text))⟩ := by
  have hlines : findingLines r ≠ [] := mt findingLines_eq_nil_iff.1 hrows
  refine ⟨⟨[], by simp [reportLines]⟩, ?_, fun hnil => absurd hnil hlines, fun f hf => ?_⟩
  · exact iff_of_true rfl hlines
  · cases hf
    exact ⟨text, htext, rfl⟩

end Announces

theorem isEarly_of_loadSettings {s : Session} {name : Text} {f : Failure}
    (h : loadSettings s name = .error f) : f.IsEarly := by
  unfold loadSettings at h
  simp only at h
  split at h
  · cases h
    trivial
  · cases h

theorem ends_audit (s : Session) (o : Options) (only : List String) (files : List Location) :
    Ends s.tree (audit s o only files) := by
  unfold audit
  split
  · exact ends_fail _ _ trivial
  case h_2 configs _ =>
    simp only
    split
    · exact ends_fail _ _ trivial
    · obtain ⟨t', a', e | r, hrun⟩ : ∃ t' a' result,
          ({ configs := configs, only := only } : Auditor).run o.autocorrect View.undisturbed s.tree
            (files.map fun l => String.ofList l.toText) = (t', a', result) := ⟨_, _, _, rfl⟩
      · rw [hrun]
        exact ends_fail _ _ trivial
      · rw [hrun]
        have htotal := Auditor.totalFindings_of_run hrun
        refine .inl ⟨_, _, _, _, _, r, hrun, ?_⟩
        cases given? o.exportTo with
        | none => exact announces_of_total [] htotal
        | some name =>
            cases hsaved : (saveReport { s with tree := t' } r name).2 with
            | error f =>
                obtain ⟨hrows, text, htext, rfl⟩ := saving_of_error hsaved
                simp only [hsaved]
                exact announces_of_unsavable hrows htext
            | ok lines =>
                simp only [hsaved]
                exact announces_of_total lines htotal

theorem ends_collectAndAudit (s : Session) (o : Options) (only : List String) :
    Ends s.tree (collectAndAudit s o only) := by
  simp only [collectAndAudit]
  split
  · exact ends_fail _ _ trivial
  · split
    · exact ends_fail _ _ trivial
    · split
      · exact ends_notice .noFiles rfl (by decide)
      · exact ends_audit _ _ _ _

theorem ends_prepare (s : Session) (o : Options) : Ends s.tree (prepare s o) := by
  simp only [prepare]
  split
  · exact ends_fail _ _ trivial
  case h_2 level _ =>
    split
    · exact ends_collectAndAudit { s with level := level } o _
    · exact ends_notice (.unknownRules _) rfl (by decide)

theorem ends_runOptions (s : Session) (o : Options) : Ends s.tree (runOptions s o) := by
  unfold runOptions
  split
  · exact ends_notice .rules rfl (by decide)
  · split
    · exact ends_notice .usage rfl (by decide)
    · split
      · exact ends_prepare _ _
      · split
        case h_1 f hload => exact ends_fail _ _ (isEarly_of_loadSettings hload)
        case h_2 change _ =>
          simp only
          split
          · exact ends_fail _ _ trivial
          · exact ends_prepare { s with settings := change.settings } o
          · exact ends_notice (.noSettings _) rfl (by decide)

theorem ends_run (s : Session) (arguments : List Text) : Ends s.tree (run s arguments) := by
  unfold run
  split
  · exact ends_notice .help rfl (by decide)
  · exact ends_notice .silent rfl (by decide)
  · exact ends_runOptions _ _

end Cli

/-- The report of a run is consistent, whether its files are audited in turn or side by side, and nothing
of an earlier report remains. Once an audit has returned, the command exits with one if and only if it
printed the line of a finding. -/
theorem run_consistent (a : Auditor) (autocorrect : Bool) (view : View) (t : FileTree)
    {paths : List String} (distinct : paths.Nodup) :
    (∀ earlier, ({ a with report := earlier } : Auditor).run autocorrect view t paths =
      a.run autocorrect view t paths) ∧
    (∀ t' a' r, a.run autocorrect view t paths = (t', a', .ok r) →
      a'.report = r ∧ r.Consistent (a.setup autocorrect)
        (Worker.filesRead (a.setup autocorrect) view ⟨t, []⟩ paths)) ∧
    (∀ schedule outcomes a' r,
      Pool.outcomes? ((Pool.start t paths).run (a.setup autocorrect) view schedule).jobs =
        some outcomes → a.conclude outcomes = (a', .ok r) →
          a'.report = r ∧ r.Consistent (a.setup autocorrect)
            (Pool.filesRead (a.setup autocorrect) view t paths schedule)) ∧
    ∀ s arguments, Cli.Ends s.tree (Cli.run s arguments) := by
  refine ⟨fun earlier => rfl, ?_, ?_, Cli.ends_run⟩
  · intro t' a' r h
    rw [Auditor.run_eq, Prod.mk.injEq] at h
    obtain ⟨os, hos, rfl, rfl⟩ := Auditor.conclude_eq_ok_iff.1 h.2
    refine ⟨rfl, Report.consistent_ofOutcomes ?_ (Worker.gives_of_runAll hos)⟩
    rw [Worker.map_fst_filesRead]
    exact distinct
  · intro schedule outcomes a' r houtcomes h
    obtain ⟨os, rfl, rfl, rfl⟩ := Auditor.conclude_eq_ok_iff.1 h
    refine ⟨rfl, Report.consistent_ofOutcomes ?_ (Pool.gives_of_outcomes houtcomes)⟩
    rw [Pool.map_fst_filesRead]
    exact distinct

/-- An auditor that has reported on a file before. -/
def usedAuditor : Auditor :=
  { report :=
      { totalFiles := 1
        skipped := [("d.html", "Unclosed tag")] } }

/-- A session with a frame in a file whose name a workbook cannot hold. -/
def bellSession : Cli.Session :=
  { tree := { files := [(["\x07.html".toList], .bytes (Text.toUtf8 "<iframe></iframe>".toList))] }
    settings := .object [] }

/-- The command that saves the report on this session as a workbook. -/
def bellReply : Cli.Reply :=
  Cli.run bellSession [".".toList, "--export".toList, "o.xlsx".toList]

/-- A file that is no text and a frame are reported after an earlier report. The command prints the
frame and exits with one, although it fails when it saves it under that name. -/
theorem run_consistent_usedAuditor :
    (∃ t' a' r, usedAuditor.run false View.undisturbed threeFiles ["c.html", "b.html"] =
        (t', a', .ok r) ∧ r.skipped.map (·.1) = ["c.html"] ∧
      r.rows.map (fun row => (row.path, row.place)) = [("b.html", ⟨1, 0⟩)] ∧ a'.report = r ∧
      r.Consistent (usedAuditor.setup false) (Worker.filesRead (usedAuditor.setup false)
        View.undisturbed ⟨threeFiles, []⟩ ["c.html", "b.html"])) ∧
    Cli.Ends bellSession.tree bellReply ∧
      bellReply.output.head? =
        some (Cli.say (Cli.findingLine ⟨"\x07.html", ⟨1, 0⟩, FrameTitle.id, FrameTitle.message⟩)) ∧
      (∀ n, bellReply.status ≠ .ok n) ∧ bellReply.exitStatus = 1 := by
  have found : (usedAuditor.run false View.undisturbed threeFiles
      ["c.html", "b.html"]).2.2.toOption.map (fun r =>
        (r.skipped.map (·.1), r.rows.map fun row => (row.path, row.place))) =
      some (["c.html"], [("b.html", ⟨1, 0⟩)]) := by
    decide +kernel
  obtain ⟨r, hr, hvalues⟩ := Option.map_eq_some_iff.1 found
  obtain ⟨hskipped, hrows⟩ := Prod.mk.inj hvalues
  obtain ⟨t', a', result, hrun⟩ : ∃ t' a' result,
      usedAuditor.run false View.undisturbed threeFiles ["c.html", "b.html"] = (t', a', result) :=
    ⟨_, _, _, rfl⟩
  rw [hrun] at hr
  cases eq_ok_of_toOption hr
  have hdistinct : ["c.html", "b.html"].Nodup := by decide
  obtain ⟨-, hreports, -, hends⟩ :=
    run_consistent usedAuditor false View.undisturbed threeFiles hdistinct
  obtain ⟨hreport, consistent⟩ := hreports t' a' r hrun
  have hfails : bellReply.status.toOption.isNone = true := by decide +kernel
  refine ⟨⟨t', a', r, hrun, hskipped, hrows, hreport, consistent⟩, hends _ _, by decide +kernel,
    fun n hstatus => ?_, by decide +kernel⟩
  rw [hstatus] at hfails
  cases hfails

end MarkupAudit
