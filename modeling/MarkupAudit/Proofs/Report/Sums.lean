import Mathlib.Algebra.BigOperators.Group.List.Basic
import Mathlib.Algebra.Ring.Nat
import Mathlib.Data.List.Induction
import MarkupAudit.Report.Basic

/-!
# Reports as sums

A report on several files says of each file what the report on this file alone says: it is the sum of
these reports (`Report.isSum_ofOutcomes`), if the files have different paths. A path that is given
twice would be bound only once.
-/

namespace MarkupAudit

/-- The path of the file that an outcome is about. -/
def FileOutcome.path : FileOutcome → String
  | .skipped path _ => path
  | .audited report => report.path

namespace Report

/-! ### Bindings and counts -/

theorem bind_of_not_mem {α : Type} {name : String} (value : α) {es : List (String × α)}
    (h : name ∉ es.map (·.1)) : bind name value es = es ++ [(name, value)] := by
  induction es with
  | nil => rfl
  | cons e es ih =>
      rw [List.map_cons, List.mem_cons, not_or] at h
      rw [bind, if_neg (Ne.symm h.1), ih h.2, List.cons_append]

/-- How often a name is counted. -/
def countOf (counts : List (String × Nat)) (name : String) : Nat :=
  ((counts.find? fun c => c.1 == name).map (·.2)).getD 0

theorem countOf_cons (c : String × Nat) (counts : List (String × Nat)) (name : String) :
    countOf (c :: counts) name = if c.1 = name then c.2 else countOf counts name := by
  unfold countOf
  by_cases h : c.1 = name <;> simp [h]

theorem countOf_countUp (counts : List (String × Nat)) (name other : String) :
    countOf (countUp name counts) other =
      countOf counts other + if name = other then 1 else 0 := by
  induction counts with
  | nil => rw [countUp, countOf_cons, Nat.add_comm]; rfl
  | cons c counts ih =>
      rw [countUp]
      split
      case isTrue hname =>
        subst hname
        rw [countOf_cons, countOf_cons]
        split <;> simp
      case isFalse hname =>
        rw [countOf_cons, countOf_cons, ih]
        by_cases hother : c.1 = other
        · rw [if_pos hother, if_pos hother, if_neg (hother ▸ Ne.symm hname), Nat.add_zero]
        · rw [if_neg hother, if_neg hother]

theorem countOf_tally (counts : List (String × Nat)) (fs : List Finding) (rule : String) :
    countOf (tally counts fs) rule = countOf counts rule + fs.countP fun f => f.rule = rule := by
  induction fs generalizing counts with
  | nil => rfl
  | cons f fs ih =>
      rw [tally, List.foldl_cons, ← tally, ih, countOf_countUp, List.countP_cons]
      simp only [decide_eq_true_eq]
      omega

theorem total_countUp (name : String) (counts : List (String × Nat)) :
    (countUp name counts).foldr (fun c total => c.2 + total) 0 =
      counts.foldr (fun c total => c.2 + total) 0 + 1 := by
  induction counts with
  | nil => rfl
  | cons c counts ih =>
      rw [countUp]
      split
      · simp only [List.foldr_cons]
        omega
      · simp only [List.foldr_cons, ih]
        omega

theorem total_tally (counts : List (String × Nat)) (fs : List Finding) :
    (tally counts fs).foldr (fun c total => c.2 + total) 0 =
      counts.foldr (fun c total => c.2 + total) 0 + fs.length := by
  induction fs generalizing counts with
  | nil => rfl
  | cons f fs ih =>
      rw [tally, List.foldl_cons, ← tally, ih, total_countUp, List.length_cons]
      omega

/-! ### Sums -/

/-- A report that says what some other reports say, one after another. -/
structure IsSum (r : Report) (parts : List Report) : Prop where
  totalFiles : r.totalFiles = (parts.map (·.totalFiles)).sum
  filesWithFindings : r.filesWithFindings = (parts.map (·.filesWithFindings)).sum
  correctedFiles : r.correctedFiles = (parts.map (·.correctedFiles)).sum
  totalFindings : r.totalFindings = (parts.map (·.totalFindings)).sum
  findings : r.findings = parts.flatMap (·.findings)
  rows : r.rows = parts.flatMap (·.rows)
  skipped : r.skipped = parts.flatMap (·.skipped)
  counts : ∀ rule, countOf r.counts rule = (parts.map fun part => countOf part.counts rule).sum

theorem add_skipped (r : Report) (path : String) (reason : SkipReason) :
    r.add (.skipped path reason) =
      { r with
        totalFiles := r.totalFiles + 1
        skipped := bind path reason.message r.skipped } :=
  rfl

/-- The entry of a file that was audited but not corrected because of a conflict. -/
def conflictEntry (f : FileReport) : List (String × String) :=
  (f.conflict.map fun c => (f.path, c.message)).toList

theorem add_audited {r : Report} {f : FileReport} (new : f.path ∉ r.findings.map (·.1))
    (new' : f.path ∉ r.skipped.map (·.1)) :
    r.add (.audited f) =
      { totalFiles := r.totalFiles + 1
        filesWithFindings := r.filesWithFindings + if f.findings.isEmpty then 0 else 1
        correctedFiles := r.correctedFiles + if f.corrected then 1 else 0
        findings := r.findings ++ if f.findings.isEmpty then [] else [(f.path, f.findings)]
        rows := r.rows ++ if f.findings.isEmpty then [] else f.rows
        skipped := r.skipped ++ conflictEntry f
        counts := tally r.counts f.findings } := by
  obtain ⟨path, findings, rows, corrected, conflict⟩ := f
  cases findings <;> cases corrected <;> cases conflict <;>
    simp [add, conflictEntry, tally, bind_of_not_mem _ new, bind_of_not_mem _ new']

/-- A report with one more file is the sum of the report and the report on the file. -/
theorem isSum_add (r : Report) {o : FileOutcome} (new : o.path ∉ r.findings.map (·.1))
    (new' : o.path ∉ r.skipped.map (·.1)) : (r.add o).IsSum [r, ofOutcomes [o]] := by
  cases o with
  | skipped path reason =>
      have hbind : bind path reason.message r.skipped = _ := bind_of_not_mem _ new'
      rw [ofOutcomes, List.foldl_cons, List.foldl_nil, add_skipped, add_skipped, hbind]
      constructor <;> simp [bind, totalFindings, countOf]
  | audited f =>
      rw [ofOutcomes, List.foldl_cons, List.foldl_nil, add_audited new new',
        add_audited List.not_mem_nil List.not_mem_nil]
      constructor
      case totalFindings => simp [totalFindings, total_tally]
      case counts =>
        intro rule
        simp only [List.map_cons, List.map_nil, List.sum_cons, List.sum_nil, Nat.add_zero,
          countOf_tally]
        exact congrArg _ (Nat.zero_add _).symm
      all_goals simp

theorem IsSum.append_singleton {r whole part : Report} {parts : List Report} (h : r.IsSum parts)
    (h' : whole.IsSum [r, part]) : whole.IsSum (parts ++ [part]) := by
  constructor
  case totalFiles => simp [h'.totalFiles, h.totalFiles]
  case filesWithFindings => simp [h'.filesWithFindings, h.filesWithFindings]
  case correctedFiles => simp [h'.correctedFiles, h.correctedFiles]
  case totalFindings => simp [h'.totalFindings, h.totalFindings]
  case findings => simp [h'.findings, h.findings]
  case rows => simp [h'.rows, h.rows]
  case skipped => simp [h'.skipped, h.skipped]
  case counts =>
    intro rule
    simp [h'.counts, h.counts]

/-- A report on one file names no other file. -/
theorem path_of_mem_single {o : FileOutcome} :
    (∀ f ∈ (ofOutcomes [o]).findings, f.1 = o.path) ∧
      ∀ e ∈ (ofOutcomes [o]).skipped, e.1 = o.path := by
  cases o with
  | skipped path reason => simp [ofOutcomes, add, bind, FileOutcome.path]
  | audited f =>
      rw [ofOutcomes, List.foldl_cons, List.foldl_nil,
        add_audited List.not_mem_nil List.not_mem_nil]
      simp only [List.nil_append, conflictEntry, FileOutcome.path]
      refine ⟨?_, ?_⟩
      · split <;> simp
      · simp

theorem path_not_mem {α : Type} {entries : Report → List (String × α)} {os : List FileOutcome}
    {path : String} (own : ∀ o, ∀ e ∈ entries (ofOutcomes [o]), e.1 = o.path)
    (away : ∀ o ∈ os, o.path ≠ path) :
    path ∉ ((os.map fun o => ofOutcomes [o]).flatMap entries).map (·.1) := by
  intro hmem
  obtain ⟨e, he, hpath⟩ := List.mem_map.1 hmem
  obtain ⟨part, hpart, he⟩ := List.mem_flatMap.1 he
  obtain ⟨o, ho, rfl⟩ := List.mem_map.1 hpart
  exact away o ho ((own o e he).symm.trans hpath)

/-- The report on files with different paths is the sum of the reports on each of them. -/
theorem isSum_ofOutcomes {os : List FileOutcome} (distinct : (os.map FileOutcome.path).Nodup) :
    (ofOutcomes os).IsSum (os.map fun o => ofOutcomes [o]) := by
  induction os using List.reverseRecOn with
  | nil => constructor <;> simp [ofOutcomes, totalFindings, countOf]
  | append_singleton os o ih =>
      rw [List.map_append, List.nodup_append] at distinct
      obtain ⟨hos, -, hapart⟩ := distinct
      have sum := ih hos
      have away : ∀ o' ∈ os, o'.path ≠ o.path := fun o' ho' =>
        hapart _ (List.mem_map_of_mem ho') _ (List.mem_singleton_self _)
      have hadd : ofOutcomes (os ++ [o]) = (ofOutcomes os).add o := by
        rw [ofOutcomes, List.foldl_append]
        rfl
      rw [hadd, List.map_append]
      refine sum.append_singleton (isSum_add _ ?_ ?_)
      · rw [sum.findings]
        exact path_not_mem (fun o => path_of_mem_single.1) away
      · rw [sum.skipped]
        exact path_not_mem (fun o => path_of_mem_single.2) away

end Report

end MarkupAudit
