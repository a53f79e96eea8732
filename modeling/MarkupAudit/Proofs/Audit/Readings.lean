import MarkupAudit.Proofs.Audit.Isolation

/-!
# What was read of a file

What a run says of a file rests on the first reading of the file (`Gives`): a later reading only
decides on the correction. A step of a job keeps to what was read first (`Phase.IsFrom.advance`). So do
all files of a run, whether they are audited in turn (`Worker.gives_of_runAll`) or side by side
(`Pool.gives_of_outcomes`), even if two paths lead to one file.
-/

namespace MarkupAudit

/-- What a file comes to by what was read of it: it cannot be read, it is no template, or it is audited,
corrected or not. -/
inductive Gives (setup : AuditSetup) (path : String) (text : Except ReadFault Text) :
    FileOutcome → Prop where
  | unreadable {f : ReadFault} : text = .error f →
      Gives setup path text (.skipped path (.unreadable (Location.ofText path.toList) f))
  | malformed {s : Text} {m : Malformed} : text = .ok s → Document.parse s (some path) = .error m →
      Gives setup path text (.skipped path (.malformed m))
  | audited {a : Worker.Analysis} {f : FileReport} : Worker.analyse setup path text = .ok a →
      f.path = path → f.findings = a.result.findings → f.rows = (a.report path).rows →
        Gives setup path text (.audited f)

/-- A phase of the work on a file that was read: what is known of the file is what was read first. -/
def Phase.IsFrom (setup : AuditSetup) (path : String) (text : Except ReadFault Text) : Phase → Prop
  | .waiting => False
  | .analysed a => Worker.analyse setup path text = .ok a
  | .decided a _ => Worker.analyse setup path text = .ok a
  | .done (.ok o) => Gives setup path text o
  | .done (.error _) => True

section Steps

variable {setup : AuditSetup} {path : String} {text : Except ReadFault Text}

theorem gives_of_not_analysed {o : FileOutcome}
    (h : Worker.analyse setup path text = .error (.ok o)) : Gives setup path text o := by
  unfold Worker.analyse at h
  split at h
  · split at h
    · cases h
      exact .unreadable rfl
    · cases h
  · split at h
    case h_1 hparse =>
      cases h
      exact .malformed rfl hparse
    · split at h
      · cases h
      · split at h <;> cases h

theorem gives_of_not_corrected {a : Worker.Analysis} {later : Except ReadFault Text}
    {o : FileOutcome} (ha : Worker.analyse setup path text = .ok a)
    (h : Worker.correct path a later = .error (.ok o)) : Gives setup path text o := by
  unfold Worker.correct at h
  split at h
  · cases h
  · cases h
    exact .audited ha rfl rfl rfl
  · cases h
    exact .audited ha rfl rfl rfl
  · cases h

namespace Job

variable {view : View} {p : Progress}

/-- The first step of a job. -/
theorem isFrom_advance_waiting :
    (advance setup view (p, ⟨path, .waiting⟩)).2.phase.IsFrom setup path
      (reading view p ⟨path, .waiting⟩) := by
  simp only [advance, phaseAfter]
  split
  case h_1 result hanalyse =>
    cases result with
    | error e => trivial
    | ok o => exact gives_of_not_analysed hanalyse
  case h_2 a hanalyse =>
    split
    · exact hanalyse
    · exact .audited hanalyse rfl rfl rfl

/-- The next steps of a job. -/
theorem isFrom_advance {j : Job} (hpath : j.path = path) (h : j.phase.IsFrom setup path text) :
    (advance setup view (p, j)).2.phase.IsFrom setup path text := by
  obtain ⟨path, phase⟩ := j
  cases hpath
  cases phase with
  | waiting => exact h.elim
  | analysed a =>
      simp only [advance, phaseAfter]
      split
      case h_1 result hcorrect =>
        cases result with
        | error e => trivial
        | ok o => exact gives_of_not_corrected h hcorrect
      case h_2 => exact h
  | decided a corrected =>
      simp only [advance, phaseAfter, Worker.written]
      split
      · exact .audited h rfl rfl rfl
      · trivial
  | done result => exact h

/-- A job that has taken a step keeps to what it read then. -/
theorem isFrom_iterate (setup : AuditSetup) (view : View) (p : Progress) (path : String) (n : Nat) :
    ((advance setup view)^[n + 1] (p, ⟨path, .waiting⟩)).2.path = path ∧
      ((advance setup view)^[n + 1] (p, ⟨path, .waiting⟩)).2.phase.IsFrom setup path
        (reading view p ⟨path, .waiting⟩) := by
  induction n with
  | zero => exact ⟨rfl, isFrom_advance_waiting⟩
  | succ n ih =>
      obtain ⟨hpath, hfrom⟩ := ih
      rw [Function.iterate_succ_apply']
      exact ⟨hpath, isFrom_advance hpath hfrom⟩

end Job

end Steps

/-! ### Files in turn -/

namespace Worker

variable {setup : AuditSetup} {view : View}

/-- What is read of a file first when it is its turn. -/
def textOf (view : View) (p : Progress) (path : String) : Except ReadFault Text :=
  Job.reading view p ⟨path, .waiting⟩

/-- The files that are audited in turn, each with what is read of it first. -/
def filesRead (setup : AuditSetup) (view : View) (p : Progress) :
    List String → List (String × Except ReadFault Text)
  | [] => []
  | path :: rest =>
      (path, textOf view p path) :: filesRead setup view (run setup view p path).1 rest

theorem map_fst_filesRead (p : Progress) (paths : List String) :
    (filesRead setup view p paths).map (·.1) = paths := by
  induction paths generalizing p with
  | nil => rfl
  | cons path paths ih => rw [filesRead, List.map_cons, ih]

/-- The audit of a file keeps to what was read of it first. -/
theorem gives_of_run {p : Progress} {path : String} {o : FileOutcome}
    (h : (run setup view p path).2 = .ok o) : Gives setup path (textOf view p path) o := by
  obtain ⟨-, hfrom⟩ := Job.isFrom_iterate setup view p path 2
  rw [Job.iterate_advance_three, h] at hfrom
  exact hfrom

theorem gives_of_runAll {p : Progress} {paths : List String} {os : List FileOutcome}
    (h : (runAll setup view p paths).2 = .ok os) :
    List.Forall₂ (fun file o => Gives setup file.1 file.2 o) (filesRead setup view p paths) os := by
  induction paths generalizing p os with
  | nil =>
      cases h
      exact .nil
  | cons path paths ih =>
      cases hrun : run setup view p path with
      | mk q result =>
          cases result with
          | error e =>
              rw [Pool.runAll_of_error hrun] at h
              cases h
          | ok o =>
              rw [Pool.runAll_of_ok hrun] at h
              obtain ⟨rest, hrest, rfl⟩ := map_eq_ok_iff.1 h
              have hgives := gives_of_run (congrArg Prod.snd hrun)
              rw [filesRead, hrun]
              exact .cons hgives (ih hrest)

end Worker

/-! ### Files side by side -/

namespace Pool

variable {setup : AuditSetup} {view : View} {t : FileTree} {paths : List String}

/-- What is read of a file first when the jobs take steps in the order of a schedule: the schedule has
come to the first step of the job. -/
def textOf (setup : AuditSetup) (view : View) (pool : Pool) (schedule : List Nat) (i : Nat)
    (path : String) : Except ReadFault Text :=
  Worker.textOf view (pool.run setup view (schedule.takeWhile (· ≠ i))).progress path

/-- The files of a pool, each with what is read of it first. -/
def filesRead (setup : AuditSetup) (view : View) (t : FileTree) (paths : List String)
    (schedule : List Nat) : List (String × Except ReadFault Text) :=
  paths.mapIdx fun i path => (path, textOf setup view (start t paths) schedule i path)

theorem takeWhile_append_cons {front : List Nat} {i : Nat} (h : i ∉ front) (back : List Nat) :
    (front ++ i :: back).takeWhile (· ≠ i) = front := by
  have hall : ∀ k ∈ front, decide (k ≠ i) = true := by
    intro k hk
    simpa using fun heq : k = i => h (heq ▸ hk)
  rw [List.takeWhile_append_of_pos hall]
  simp

theorem textOf_append_of_mem {pool : Pool} {schedule : List Nat} {i : Nat} (h : i ∈ schedule)
    (k : Nat) (path : String) :
    textOf setup view pool (schedule ++ [k]) i path = textOf setup view pool schedule i path := by
  obtain ⟨front, back, rfl, hfront⟩ := List.eq_append_cons_of_mem h
  rw [textOf, textOf, List.append_assoc, List.cons_append, takeWhile_append_cons hfront,
    takeWhile_append_cons hfront]

theorem textOf_append_of_not_mem {pool : Pool} {schedule : List Nat} {i : Nat} (h : i ∉ schedule)
    (path : String) :
    textOf setup view pool (schedule ++ [i]) i path =
      Worker.textOf view (pool.run setup view schedule).progress path := by
  rw [textOf, takeWhile_append_cons h]

/-- What holds of a job in the middle of a schedule: it waits for its first step, or keeps to what it
read then. -/
def Keeps (setup : AuditSetup) (view : View) (pool : Pool) (schedule : List Nat) (i : Nat)
    (path : String) (j : Job) : Prop :=
  j.path = path ∧ (i ∉ schedule ∧ j.phase = .waiting ∨
    i ∈ schedule ∧ j.phase.IsFrom setup path (textOf setup view pool schedule i path))

section Keeps

variable {pool : Pool} {schedule : List Nat} {i k : Nat} {path : String} {j : Job}

/-- A step of the job itself. -/
theorem Keeps.own (h : Keeps setup view pool schedule i path j) :
    Keeps setup view pool (schedule ++ [i]) i path
      (Job.advance setup view ((pool.run setup view schedule).progress, j)).2 := by
  have hmem : i ∈ schedule ++ [i] := by simp
  obtain ⟨hpath, ⟨hnot, hwaiting⟩ | ⟨hstarted, hfrom⟩⟩ := h
  · obtain ⟨path, phase⟩ := j
    cases hpath
    cases hwaiting
    refine ⟨rfl, .inr ⟨hmem, ?_⟩⟩
    rw [textOf_append_of_not_mem hnot]
    exact Job.isFrom_advance_waiting
  · refine ⟨hpath, .inr ⟨hmem, ?_⟩⟩
    rw [textOf_append_of_mem hstarted]
    exact Job.isFrom_advance hpath hfrom

/-- A step of another job. -/
theorem Keeps.other (h : Keeps setup view pool schedule i path j) (hne : i ≠ k) :
    Keeps setup view pool (schedule ++ [k]) i path j := by
  obtain ⟨hpath, ⟨hnot, hwaiting⟩ | ⟨hstarted, hfrom⟩⟩ := h
  · exact ⟨hpath, .inl ⟨by simp [hnot, hne], hwaiting⟩⟩
  · refine ⟨hpath, .inr ⟨List.mem_append_left _ hstarted, ?_⟩⟩
    rw [textOf_append_of_mem hstarted]
    exact hfrom

end Keeps

/-- All jobs of a pool keep to what they read first. -/
theorem run_keeps (setup : AuditSetup) (view : View) (t : FileTree) (paths : List String)
    (schedule : List Nat) :
    ((start t paths).run setup view schedule).jobs.length = paths.length ∧
      ∀ i path, paths[i]? = some path →
        ∃ j, ((start t paths).run setup view schedule).jobs[i]? = some j ∧
          Keeps setup view (start t paths) schedule i path j := by
  induction schedule using List.reverseRecOn with
  | nil =>
      refine ⟨List.length_map _, fun i path hi => ⟨⟨path, .waiting⟩, ?_, rfl, .inl ⟨by simp, rfl⟩⟩⟩
      simp [run, start, hi]
  | append_singleton schedule k ih =>
      obtain ⟨hlength, hjobs⟩ := ih
      have hrun : (start t paths).run setup view (schedule ++ [k]) =
          ((start t paths).run setup view schedule).step setup view k := by
        rw [run, List.foldl_append]
        rfl
      rw [hrun, step]
      cases hk : ((start t paths).run setup view schedule).jobs[k]? with
      | none =>
          refine ⟨hlength, fun i path hi => ?_⟩
          obtain ⟨j, hj, hkeeps⟩ := hjobs i path hi
          have hne : i ≠ k := by
            rintro rfl
            cases hk.symm.trans hj
          exact ⟨j, hj, hkeeps.other hne⟩
      | some own =>
          refine ⟨by simpa using hlength, fun i path hi => ?_⟩
          obtain ⟨j, hj, hkeeps⟩ := hjobs i path hi
          by_cases heq : i = k
          · subst heq
            cases hk.symm.trans hj
            exact ⟨_, List.getElem?_set_self (List.getElem?_eq_some_iff.1 hj).1, hkeeps.own⟩
          · exact ⟨j, (List.getElem?_set_ne (Ne.symm heq)).trans hj, hkeeps.other heq⟩

theorem map_fst_filesRead (setup : AuditSetup) (view : View) (t : FileTree) (paths : List String)
    (schedule : List Nat) : (filesRead setup view t paths schedule).map (·.1) = paths := by
  refine List.ext_getElem? fun i => ?_
  rw [filesRead, List.getElem?_map, List.getElem?_mapIdx, Option.map_map]
  exact Option.map_id_apply

theorem gives_of_outcomes {schedule : List Nat} {os : List FileOutcome}
    (h : outcomes? ((start t paths).run setup view schedule).jobs = some (.ok os)) :
    List.Forall₂ (fun file o => Gives setup file.1 file.2 o)
      (filesRead setup view t paths schedule) os := by
  obtain ⟨hlength, hjobs⟩ := run_keeps setup view t paths schedule
  obtain ⟨hlength', hdone⟩ := List.forall₂_iff_get.1 (forall₂_of_outcomes h)
  refine List.forall₂_iff_get.2 ⟨?_, fun i hi ho => ?_⟩
  · simp only [filesRead, List.length_mapIdx]
    omega
  · have hlt : i < paths.length := by simpa [filesRead] using hi
    obtain ⟨j, hj, -, hkeeps⟩ := hjobs i (paths.get ⟨i, hlt⟩) (List.getElem?_eq_getElem hlt)
    obtain ⟨hi', rfl⟩ := List.getElem?_eq_some_iff.1 hj
    have hphase := hdone i hi' ho
    rw [List.get_eq_getElem] at hphase
    rw [hphase] at hkeeps
    rcases hkeeps with ⟨-, hwaiting⟩ | ⟨-, hfrom⟩
    · cases hwaiting
    · simp only [filesRead, List.get_eq_getElem, List.getElem_mapIdx]
      exact hfrom

end Pool

end MarkupAudit
