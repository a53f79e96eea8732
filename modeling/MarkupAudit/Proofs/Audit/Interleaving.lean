import Mathlib.Data.List.Forall2
import MarkupAudit.Proofs.Audit.Isolation

/-!
# The order of the work does not matter

Files may be audited one after another or side by side. Where nobody else touches the files and each job
comes to an outcome, both give the same: the same outcome for each file, the same report, and the same
files (`pool_agrees_with_turns`). Jobs on different files do in a pool what they do alone, so that two
pools can only differ in how far their jobs have come (`Pool.Follows.outcomes_eq`,
`Pool.Follows.content?_eq`).
-/

namespace MarkupAudit

theorem View.undisturbed_eq_edited : View.undisturbed = View.edited fun _ held => held := by
  funext seen place held
  rw [undisturbed, edited, ite_self]

namespace Pool

section Follows

variable {setup : AuditSetup} {view : View} {t : FileTree} {paths : List String}
  {schedule schedule' : List Nat} {pool pool' : Pool} {os os' : List FileOutcome}

/-- Where the jobs of one pool have outcomes, those of another have no others. -/
theorem Follows.outcomes_eq (h : Follows setup view t paths schedule pool)
    (h' : Follows setup view t paths schedule' pool') (hos : outcomes? pool.jobs = some (.ok os))
    {result : Except AuditError (List FileOutcome)} (hresult : outcomes? pool'.jobs = some result) :
    result = .ok os := by
  have alone := outcomes_of_ok h.endsAsAlone hos
  cases result with
  | error e =>
      obtain ⟨front, path, back, rfl, -, hfails⟩ := outcomes_of_error h'.endsAsAlone hresult
      obtain ⟨o, -, ho, -⟩ := exists_mem_of_forall₂ alone path (by simp)
      cases hfails.symm.trans ho
  | ok os' =>
      have alone' := outcomes_of_ok h'.endsAsAlone hresult
      have unique : Relator.RightUnique fun (path : String) (o : FileOutcome) =>
          (Worker.run setup view ⟨t, []⟩ path).2 = .ok o := by
        intro path o o' ho ho'
        exact Except.ok.inj (ho.symm.trans ho')
      have heq : os' = os :=
        List.right_unique_forall₂' unique (alone'.imp fun _ _ ho => ho.1)
          (alone.imp fun _ _ ho => ho.1)
      rw [heq]

/-- Files on which the jobs of two pools are done hold the same in both, as do the files without a
job. -/
theorem Follows.content?_eq (h : Follows setup view t paths schedule pool)
    (h' : Follows setup view t paths schedule' pool') (hos : outcomes? pool.jobs = some (.ok os))
    (hos' : outcomes? pool'.jobs = some (.ok os')) (name : List Text) :
    pool'.progress.tree.content? name = pool.progress.tree.content? name := by
  by_cases hname : ∃ path ∈ paths, t.locate (Location.ofText path.toList) = .ok name
  · obtain ⟨path, hpath, hlocate⟩ := hname
    obtain ⟨o, -, -, hagree⟩ := exists_mem_of_forall₂ (outcomes_of_ok h.endsAsAlone hos) path hpath
    obtain ⟨o', -, -, hagree'⟩ :=
      exists_mem_of_forall₂ (outcomes_of_ok h'.endsAsAlone hos') path hpath
    have hown : (Worker.run setup view ⟨t, []⟩ path).1.tree.locate (Location.ofText path.toList) =
        .ok name := by
      rw [← hagree.names.locate_eq, h.names.locate_eq]
      exact hlocate
    rw [hagree.held name hown, hagree'.held name hown]
  · have without : ∀ path ∈ paths, t.locate (Location.ofText path.toList) ≠ .ok name :=
      fun path hpath hlocate => hname ⟨path, hpath, hlocate⟩
    rw [h.others name without, h'.others name without]

theorem Follows.map_path (h : Follows setup view t paths schedule pool) :
    pool.jobs.map (·.path) = paths := by
  refine List.ext_getElem (by rw [List.length_map, h.length]) fun i hi hpath => ?_
  obtain ⟨hjob, -⟩ := h.jobs i paths[i] (List.getElem?_eq_getElem hpath)
  obtain ⟨hlt, hget⟩ := List.getElem?_eq_some_iff.1 hjob
  rw [List.getElem_map, hget, path_alone]

end Follows

/-- Jobs that are all done without an error are their files with their outcomes. -/
theorem exists_outcomes_of_ok {js : List Job} (h : ∀ j ∈ js, ∃ o, j.phase = .done (.ok o)) :
    ∃ os, outcomes? js = some (.ok os) ∧
      js = List.zipWith (fun path o => ⟨path, .done (.ok o)⟩) (js.map (·.path)) os := by
  induction js with
  | nil => exact ⟨[], rfl, rfl⟩
  | cons j js ih =>
      obtain ⟨⟨o, ho⟩, hrest⟩ := List.forall_mem_cons.1 h
      obtain ⟨os, hos, hjs⟩ := ih hrest
      obtain ⟨path, phase⟩ := j
      cases ho
      refine ⟨o :: os, by rw [outcomes?, hos]; rfl, ?_⟩
      rw [List.map_cons, List.zipWith_cons_cons, ← hjs]

/-- A pool that has come to the same as the audit of the files in turn: the outcome of each job is that
of its file, the report is the same, and so are all files. -/
structure AgreesWithTurns (setup : AuditSetup) (t : FileTree) (paths : List String) (pool : Pool) :
    Prop where
  outcomes : ∃ os, (Worker.runAll setup .undisturbed ⟨t, []⟩ paths).2 = .ok os ∧
    pool.jobs = List.zipWith (fun path o => ⟨path, .done (.ok o)⟩) paths os
  report : ∃ r, (t.audit setup .undisturbed paths).2 = .ok r ∧ pool.report? = some (.ok r)
  names : (t.audit setup .undisturbed paths).1.SameNames pool.progress.tree
  contents : ∀ name, pool.progress.tree.content? name =
    (t.audit setup .undisturbed paths).1.content? name

end Pool

/-- Files that are audited side by side, with the steps of their jobs in any order, are audited as if
they were taken in turn. -/
theorem pool_agrees_with_turns (setup : AuditSetup) {t : FileTree} {paths : List String}
    (apart : paths.Pairwise (LeadApart t)) (schedule : List Nat)
    (finished : ∀ j ∈ ((Pool.start t paths).run setup .undisturbed schedule).jobs,
      ∃ o, j.phase = .done (.ok o)) :
    ((Pool.start t paths).run setup .undisturbed schedule).AgreesWithTurns setup t paths := by
  rw [View.undisturbed_eq_edited] at finished
  have follows := Pool.run_follows setup (fun _ held => held) apart
  -- Taking the files in turn is another order of the steps.
  obtain ⟨turns, js, hturns, hresult⟩ :=
    Pool.exists_schedule_of_runAll setup (.edited fun _ held => held) ⟨t, []⟩ [] paths
  have inTurn := follows turns
  rw [Pool.start, ← List.nil_append (paths.map _), hturns] at inTurn
  obtain ⟨os, hos, hjobs⟩ := Pool.exists_outcomes_of_ok finished
  have same := (follows schedule).outcomes_eq inTurn hos hresult
  rw [(follows schedule).map_path] at hjobs
  constructor <;> rw [View.undisturbed_eq_edited]
  · exact ⟨os, same, hjobs⟩
  · refine ⟨Report.ofOutcomes os, congrArg (Except.map Report.ofOutcomes) same, ?_⟩
    rw [Pool.report?, hos]
    rfl
  · exact inTurn.names.symm.trans (follows schedule).names
  · rw [same] at hresult
    exact inTurn.content?_eq (follows schedule) hresult hos

/-- A link that is to be counted, a tag without an end, and the link again. -/
def linksAndBroken : FileTree :=
  { files :=
      [(["a.html".toList], .bytes (Text.toUtf8 "<a>More</a>".toList)),
       (["b.html".toList], .bytes (Text.toUtf8 "<a".toList)),
       (["c.html".toList], .bytes (Text.toUtf8 "<a>More</a>\r\n".toList))] }

/-- The files are read before any of them is written, and written in another order than read. -/
def linksSideBySide : Pool :=
  (Pool.start linksAndBroken ["a.html", "b.html", "c.html"]).run { autocorrect := true } .undisturbed
    [0, 2, 1, 0, 2, 2, 0]

theorem Job.exists_of_corrected? {j : Job} (h : j.corrected? ≠ none) :
    ∃ o, j.phase = .done (.ok o) := by
  unfold corrected? at h
  split at h
  · exact ⟨_, by assumption⟩
  · exact ⟨_, by assumption⟩
  · exact absurd rfl h

theorem pool_agrees_with_turns_links :
    linksSideBySide.jobs.map Job.corrected? = [some true, some false, some true] ∧
      linksSideBySide.AgreesWithTurns { autocorrect := true } linksAndBroken
        ["a.html", "b.html", "c.html"] := by
  have written : linksSideBySide.jobs.map Job.corrected? = [some true, some false, some true] := by
    decide +kernel
  have apart : ["a.html", "b.html", "c.html"].Pairwise (LeadApart linksAndBroken) := by
    refine List.Pairwise.imp leadApart_of_locate_ne ?_
    decide +kernel
  refine ⟨written, pool_agrees_with_turns { autocorrect := true } apart _ fun j hj => ?_⟩
  have hmem : j.corrected? ∈ linksSideBySide.jobs.map Job.corrected? := List.mem_map_of_mem hj
  rw [written] at hmem
  refine Job.exists_of_corrected? fun hnone => ?_
  rw [hnone] at hmem
  simp at hmem

end MarkupAudit
