import Mathlib.Data.List.Forall2
import Mathlib.Data.List.Induction
import Mathlib.Logic.Function.Iterate
import MarkupAudit.Audit.Worker
import MarkupAudit.Proofs.FileTree.Writing
import MarkupAudit.Proofs.Rule.Findings

/-!
# Files audited side by side

Several files may be audited at a time. The work on a file is a job of at most three steps: reading
the file, reading it again, and writing it (`Job.iterate_advance_three`). In a pool, jobs take their
steps in any order. If no two jobs work on the same file, each of them does in the pool what it does
alone, step for step, and its file is what it is alone (`Pool.run_follows`). Auditing files in turn is
one of the orders (`Pool.exists_schedule_of_runAll`).
-/

namespace MarkupAudit

/-- Somebody may edit a file once it has been read. -/
def View.edited (edit : Location → Except ReadFault Text → Except ReadFault Text) : View :=
  fun seen place held => if seen.contains place then edit place held else held

/-! ### Jobs -/

/-- How far the work on a file has come. -/
inductive Phase where
  | waiting
  | analysed (a : Worker.Analysis)
  | decided (a : Worker.Analysis) (text : Text)
  | done (result : Worker.End)

/-- The work on a file. -/
structure Job where
  path : String
  phase : Phase := .waiting

namespace Job

/-- The location of the file. -/
def place (j : Job) : Location :=
  Location.ofText j.path.toList

/-- What the file gives when it is read. -/
def reading (view : View) (p : Progress) (j : Job) : Except ReadFault Text :=
  view p.seen j.place (p.tree.readText j.place)

/-- The phase after one step, by what the file gives when it is read, and by what stands in the way when
it is written. -/
def phaseAfter (setup : AuditSetup) (view : View) (p : Progress) (j : Job) : Phase :=
  match j.phase with
  | .waiting =>
      match Worker.analyse setup j.path (j.reading view p) with
      | .error result => .done result
      | .ok a =>
          if Worker.wantsCorrection setup a then .analysed a
          else .done (.ok (.audited (a.report j.path)))
  | .analysed a =>
      match Worker.correct j.path a (j.reading view p) with
      | .error result => .done result
      | .ok corrected => .decided a corrected
  | .decided a text => .done (Worker.written j.path a (p.tree.writeText j.place text).2)
  | .done result => .done result

/-- What one step does to the files. -/
def effect (p : Progress) (j : Job) : Progress :=
  match j.phase with
  | .waiting | .analysed _ => { p with seen := j.place :: p.seen }
  | .decided _ text => { p with tree := (p.tree.writeText j.place text).1 }
  | .done _ => p

/-- One step of a job. -/
def advance (setup : AuditSetup) (view : View) (s : Progress × Job) : Progress × Job :=
  (s.2.effect s.1, { s.2 with phase := s.2.phaseAfter setup view s.1 })

/-- Whether the report of a job that is done says that the file was corrected. -/
def corrected? (j : Job) : Option Bool :=
  match j.phase with
  | .done (.ok (.audited f)) => some f.corrected
  | .done (.ok (.skipped _ _)) => some false
  | _ => none

@[simp]
theorem advance_done (setup : AuditSetup) (view : View) (p : Progress) (path : String)
    (result : Worker.End) :
    advance setup view (p, ⟨path, .done result⟩) = (p, ⟨path, .done result⟩) :=
  rfl

/-- Three steps are the audit of a file. -/
theorem iterate_advance_three (setup : AuditSetup) (view : View) (p : Progress) (path : String) :
    (advance setup view)^[3] (p, ⟨path, .waiting⟩) =
      ((Worker.run setup view p path).1, ⟨path, .done (Worker.run setup view p path).2⟩) := by
  simp only [Function.iterate_succ, Function.iterate_zero, Function.comp_apply, id_eq]
  unfold Worker.run
  cases hanalyse : Worker.analyse setup path (view p.seen (Location.ofText path.toList)
      (p.tree.readText (Location.ofText path.toList))) with
  | error result => simp [advance, effect, phaseAfter, reading, place, hanalyse]
  | ok a =>
      by_cases hwants : Worker.wantsCorrection setup a = true
      · cases hcorrect : Worker.correct path a
            (view (Location.ofText path.toList :: p.seen) (Location.ofText path.toList)
              (p.tree.readText (Location.ofText path.toList))) with
        | error result =>
            simp [advance, effect, phaseAfter, reading, place, hanalyse, hwants, hcorrect]
        | ok text =>
            simp [advance, effect, phaseAfter, reading, place, hanalyse, hwants, hcorrect]
      · simp [advance, effect, phaseAfter, reading, place, hanalyse, hwants]

/-- What a job needs for its next step: a file that waits has not been read yet, and a file that is to
be corrected is there. -/
def Ready (p : Progress) (j : Job) : Prop :=
  match j.phase with
  | .waiting => j.place ∉ p.seen
  | .analysed _ | .decided _ _ => ∃ s, p.tree.readText j.place = .ok s
  | .done _ => True

theorem phase_advance_ne_waiting (setup : AuditSetup) (view : View) (s : Progress × Job) :
    (advance setup view s).2.phase ≠ .waiting := by
  unfold advance phaseAfter
  grind

theorem ready_of_readText {p : Progress} {j : Job} {s : Text} (started : j.phase ≠ .waiting)
    (h : p.tree.readText j.place = .ok s) : j.Ready p := by
  unfold Ready
  split
  · contradiction
  · exact ⟨s, h⟩
  · exact ⟨s, h⟩
  · trivial

section Steps

variable {setup : AuditSetup} {edit : Location → Except ReadFault Text → Except ReadFault Text}

theorem reading_of_not_mem {p : Progress} {j : Job} (h : j.place ∉ p.seen) :
    j.reading (.edited edit) p = p.tree.readText j.place := by
  rw [reading, View.edited, if_neg (by simpa using h)]

theorem ready_advance {s : Progress × Job} (h : s.2.Ready s.1) :
    (advance setup (.edited edit) s).2.Ready (advance setup (.edited edit) s).1 := by
  obtain ⟨p, path, phase⟩ := s
  cases phase with
  | waiting =>
      cases hread : p.tree.readText (Location.ofText path.toList) with
      | ok text => exact ready_of_readText (phase_advance_ne_waiting _ _ _) hread
      | error f =>
          have hfault : reading (.edited edit) p ⟨path, .waiting⟩ = .error f :=
            (reading_of_not_mem h).trans hread
          simp only [advance, phaseAfter, hfault]
          trivial
  | analysed a =>
      obtain ⟨text, hread⟩ := h
      exact ready_of_readText (phase_advance_ne_waiting _ _ _) hread
  | decided a text => trivial
  | done result => trivial

end Steps

end Job

/-! ### Where two states agree -/

/-- Two states in which a file is the same: it holds the same, and it has been read in both or in
none. -/
structure Progress.Agree (place : Location) (p q : Progress) : Prop where
  names : p.tree.SameNames q.tree
  held : ∀ name, p.tree.locate place = .ok name → q.tree.content? name = p.tree.content? name
  seen : place ∈ q.seen ↔ place ∈ p.seen

namespace Progress.Agree

variable {place : Location} {p q : Progress}

theorem refl (place : Location) (p : Progress) : Agree place p p :=
  ⟨.refl p.tree, fun _ _ => rfl, Iff.rfl⟩

theorem read_eq (h : Agree place p q) : q.tree.read place = p.tree.read place :=
  h.names.read_eq h.held

theorem readText_eq (h : Agree place p q) : q.tree.readText place = p.tree.readText place := by
  rw [FileTree.readText, FileTree.readText, h.read_eq]

end Progress.Agree

namespace Job

variable {p q : Progress} {j : Job}

theorem Ready.agree (ready : j.Ready p) (h : p.Agree j.place q) : j.Ready q := by
  unfold Ready at ready ⊢
  rw [h.readText_eq, h.seen]
  exact ready

theorem reading_eq (edit : Location → Except ReadFault Text → Except ReadFault Text)
    (h : p.Agree j.place q) :
    j.reading (.edited edit) q = j.reading (.edited edit) p := by
  have hseen : q.seen.contains j.place = p.seen.contains j.place := by
    rw [Bool.eq_iff_iff, List.contains_iff_mem, List.contains_iff_mem, h.seen]
  rw [reading, reading, View.edited, hseen, h.readText_eq]
  rfl

/-- A step writes to no other file than its own. -/
theorem effect_tree (ready : j.Ready p) :
    p.tree.SameNames (j.effect p).tree ∧
      ∀ name, p.tree.locate j.place ≠ .ok name →
        (j.effect p).tree.content? name = p.tree.content? name := by
  obtain ⟨path, phase⟩ := j
  cases phase with
  | waiting => exact ⟨.refl p.tree, fun _ _ => rfl⟩
  | analysed a => exact ⟨.refl p.tree, fun _ _ => rfl⟩
  | decided a text =>
      obtain ⟨s, hread⟩ := ready
      obtain ⟨own, hlocate, there⟩ := FileTree.exists_of_readText hread
      refine ⟨FileTree.sameNames_writeText hlocate there text, fun name hname => ?_⟩
      have hne : own ≠ name := by
        rintro rfl
        exact hname hlocate
      exact FileTree.content?_writeText hlocate hne text
  | done result => exact ⟨.refl p.tree, fun _ _ => rfl⟩

theorem mem_seen_effect {place : Location} (hne : j.place ≠ place) :
    place ∈ (j.effect p).seen ↔ place ∈ p.seen := by
  unfold effect
  split <;> simp [hne.symm]

/-- A step leaves the other files as they are. -/
theorem agree_effect {place : Location} (h : p.Agree place q) (ready : j.Ready q)
    (hne : j.place ≠ place)
    (apart : ∀ name, p.tree.locate place = .ok name → q.tree.locate j.place ≠ .ok name) :
    p.Agree place (j.effect q) := by
  obtain ⟨names, others⟩ := effect_tree ready
  refine ⟨h.names.trans names, fun name hname => ?_, (mem_seen_effect hne).trans h.seen⟩
  rw [others name (apart name hname), h.held name hname]

/-- A job does the same in two states in which its file is the same. -/
theorem agree_advance (setup : AuditSetup)
    (edit : Location → Except ReadFault Text → Except ReadFault Text) (h : p.Agree j.place q)
    (ready : j.Ready p) :
    (advance setup (.edited edit) (q, j)).2 = (advance setup (.edited edit) (p, j)).2 ∧
      (advance setup (.edited edit) (p, j)).1.Agree j.place
        (advance setup (.edited edit) (q, j)).1 := by
  constructor
  · unfold advance phaseAfter
    rw [reading_eq edit h]
    simp only [FileTree.snd_writeText_congr (h.names.writable_eq j.place)]
  · have own := (effect_tree ready).1
    have names := own.symm.trans (h.names.trans (effect_tree (ready.agree h)).1)
    obtain ⟨path, phase⟩ := j
    cases phase with
    | waiting => exact ⟨names, h.held, by simp [advance, effect, h.seen]⟩
    | analysed a => exact ⟨names, h.held, by simp [advance, effect, h.seen]⟩
    | decided a text =>
        refine ⟨names, fun name hname => ?_, h.seen⟩
        have hlocate := (own.locate_eq _).symm.trans hname
        exact FileTree.content?_writeText_congr h.names hlocate (h.held name hlocate) text
    | done result => exact h

end Job

/-! ### Pools -/

/-- Jobs over the same files. -/
structure Pool where
  progress : Progress
  jobs : List Job

namespace Pool

/-- One of the jobs takes a step. -/
def step (setup : AuditSetup) (view : View) (pool : Pool) (i : Nat) : Pool :=
  match pool.jobs[i]? with
  | none => pool
  | some j =>
      let next := Job.advance setup view (pool.progress, j)
      ⟨next.1, pool.jobs.set i next.2⟩

/-- The jobs take steps in the order of a schedule. -/
def run (setup : AuditSetup) (view : View) (pool : Pool) (schedule : List Nat) : Pool :=
  schedule.foldl (step setup view) pool

/-- A pool for the audit of some files. -/
def start (t : FileTree) (paths : List String) : Pool :=
  ⟨⟨t, []⟩, paths.map fun path => ⟨path, .waiting⟩⟩

/-- The outcomes of jobs in order up to the first that stops the run; `none` if one of them is not
done. -/
def outcomes? : List Job → Option (Except AuditError (List FileOutcome))
  | [] => some (.ok [])
  | j :: js =>
      match j.phase with
      | .done (.error e) => some (.error e)
      | .done (.ok o) => (outcomes? js).map fun os => os.map (o :: ·)
      | _ => none

end Pool

/-- Whether two paths are different and do not lead to the same file. -/
def LeadApart (t : FileTree) (path other : String) : Prop :=
  Location.ofText path.toList ≠ Location.ofText other.toList ∧
    ∀ name, t.locate (Location.ofText path.toList) = .ok name →
      t.locate (Location.ofText other.toList) ≠ .ok name

theorem LeadApart.symm {t : FileTree} {path other : String} (h : LeadApart t path other) :
    LeadApart t other path :=
  ⟨h.1.symm, fun name hother hpath => h.2 name hpath hother⟩

theorem leadApart_of_locate_ne {t : FileTree} {path other : String}
    (h : (t.locate (Location.ofText path.toList)).toOption ≠
      (t.locate (Location.ofText other.toList)).toOption) : LeadApart t path other := by
  refine ⟨fun heq => h (by rw [heq]), fun name hpath hother => h ?_⟩
  rw [hpath, hother]

theorem leadApart_of_getElem? {t : FileTree} {paths : List String}
    (apart : paths.Pairwise (LeadApart t))
    {i k : Nat} {path other : String} (hi : paths[i]? = some path) (hk : paths[k]? = some other)
    (hne : i ≠ k) : LeadApart t path other := by
  obtain ⟨hi', rfl⟩ := List.getElem?_eq_some_iff.1 hi
  obtain ⟨hk', rfl⟩ := List.getElem?_eq_some_iff.1 hk
  rw [List.pairwise_iff_getElem] at apart
  rcases Nat.lt_or_gt_of_ne hne with hlt | hlt
  · exact apart i k hi' hk' hlt
  · exact (apart k i hk' hi' hlt).symm

namespace Pool

variable {setup : AuditSetup} {edit : Location → Except ReadFault Text → Except ReadFault Text}
  {t : FileTree} {paths : List String}

/-- The work on a file alone after some steps. -/
def alone (setup : AuditSetup) (view : View) (t : FileTree) (path : String) (steps : Nat) :
    Progress × Job :=
  (Job.advance setup view)^[steps] (⟨t, []⟩, ⟨path, .waiting⟩)

theorem alone_succ (setup : AuditSetup) (view : View) (t : FileTree) (path : String) (n : Nat) :
    alone setup view t path (n + 1) = Job.advance setup view (alone setup view t path n) :=
  Function.iterate_succ_apply' ..

theorem path_alone (setup : AuditSetup) (view : View) (t : FileTree) (path : String) (n : Nat) :
    (alone setup view t path n).2.path = path := by
  induction n with
  | zero => rfl
  | succ n ih => rw [alone_succ, Job.advance, ih]

theorem ready_alone (setup : AuditSetup)
    (edit : Location → Except ReadFault Text → Except ReadFault Text) (t : FileTree) (path : String)
    (n : Nat) :
    (alone setup (.edited edit) t path n).2.Ready (alone setup (.edited edit) t path n).1 := by
  induction n with
  | zero => exact List.not_mem_nil
  | succ n ih =>
      rw [alone_succ]
      exact Job.ready_advance ih

/-- What holds of a pool in the middle of a schedule: each job is where it is alone after as many
steps, its file is as it is alone, and the files without a job are as they were. -/
structure Follows (setup : AuditSetup) (view : View) (t : FileTree) (paths : List String)
    (schedule : List Nat) (pool : Pool) : Prop where
  names : t.SameNames pool.progress.tree
  length : pool.jobs.length = paths.length
  jobs : ∀ (i : Nat) (path : String), paths[i]? = some path →
    pool.jobs[i]? = some (alone setup view t path (schedule.count i)).2 ∧
      (alone setup view t path (schedule.count i)).1.Agree (Location.ofText path.toList) pool.progress
  others : ∀ name, (∀ path ∈ paths, t.locate (Location.ofText path.toList) ≠ .ok name) →
    pool.progress.tree.content? name = t.content? name

theorem follows_start (setup : AuditSetup) (view : View) (t : FileTree) (paths : List String) :
    Follows setup view t paths [] (start t paths) := by
  refine ⟨.refl t, List.length_map _, fun i path hi => ⟨?_, .refl _ _⟩, fun _ _ => rfl⟩
  rw [start, List.getElem?_map, hi]
  rfl

/-- One step of a pool. -/
theorem Follows.step {schedule : List Nat} {pool : Pool}
    (h : Follows setup (.edited edit) t paths schedule pool) (apart : paths.Pairwise (LeadApart t))
    (k : Nat) :
    Follows setup (.edited edit) t paths (schedule ++ [k]) (pool.step setup (.edited edit) k) := by
  have count_ne : ∀ i, i ≠ k → (schedule ++ [k]).count i = schedule.count i := by
    intro i hne
    rw [List.count_append, List.count_singleton, if_neg (by simpa using hne.symm), Nat.add_zero]
  cases hk : paths[k]? with
  | none =>
      have hnone : pool.jobs[k]? = none := by
        rw [List.getElem?_eq_none_iff] at hk ⊢
        rw [h.length]
        exact hk
      have hstep : pool.step setup (.edited edit) k = pool := by rw [Pool.step, hnone]
      rw [hstep]
      refine ⟨h.names, h.length, fun i path hi => ?_, h.others⟩
      have hne : i ≠ k := by
        rintro rfl
        rw [hk] at hi
        cases hi
      rw [count_ne i hne]
      exact h.jobs i path hi
  | some other =>
      obtain ⟨hjob, hagree⟩ := h.jobs k other hk
      have hpath := path_alone setup (.edited edit) t other (schedule.count k)
      have halone := ready_alone setup edit t other (schedule.count k)
      have hsucc := alone_succ setup (.edited edit) t other (schedule.count k)
      generalize alone setup (.edited edit) t other (schedule.count k) = own at *
      obtain ⟨p, j⟩ := own
      simp only at hjob hpath halone hagree
      subst hpath
      have ready := halone.agree hagree
      obtain ⟨names, outside⟩ := Job.effect_tree ready
      rw [Pool.step, hjob]
      refine ⟨h.names.trans names, by simp [h.length], fun i path hi => ?_, fun name hname => ?_⟩
      · -- The job that takes the step does what it does alone; to the others the step is a frame.
        by_cases heq : i = k
        · subst heq
          cases hk.symm.trans hi
          obtain ⟨hsame, hagree'⟩ := Job.agree_advance setup edit hagree halone
          rw [List.count_append, List.count_singleton_self, hsucc]
          refine ⟨?_, hagree'⟩
          rw [List.getElem?_set_self (List.getElem?_eq_some_iff.1 hjob).1, hsame]
        · have away := leadApart_of_getElem? apart hi hk heq
          obtain ⟨hothers, hagree'⟩ := h.jobs i path hi
          rw [count_ne i heq, List.getElem?_set_ne (Ne.symm heq)]
          refine ⟨hothers, Job.agree_effect hagree' ready away.1.symm fun name hname => ?_⟩
          rw [(h.names.trans hagree'.names.symm).locate_eq] at hname
          rw [h.names.locate_eq]
          exact away.2 name hname
      · rw [← h.others name hname]
        refine outside name ?_
        rw [h.names.locate_eq]
        exact hname _ (List.mem_of_getElem? hk)

/-- A job does in a pool what it does alone, step for step. -/
theorem run_follows (setup : AuditSetup)
    (edit : Location → Except ReadFault Text → Except ReadFault Text)
    (apart : paths.Pairwise (LeadApart t)) (schedule : List Nat) :
    Follows setup (.edited edit) t paths schedule
      ((start t paths).run setup (.edited edit) schedule) := by
  induction schedule using List.reverseRecOn with
  | nil => exact follows_start setup _ t paths
  | append_singleton schedule k ih =>
      rw [run, List.foldl_append]
      exact ih.step apart k

/-! ### Jobs that are done -/

theorem alone_add_of_done {view : View} {path : String} {n : Nat} {result : Worker.End}
    (h : (alone setup view t path n).2.phase = .done result) (m : Nat) :
    alone setup view t path (n + m) = alone setup view t path n := by
  induction m with
  | zero => rfl
  | succ m ih =>
      rw [← Nat.add_assoc, alone_succ, ih]
      generalize alone setup view t path n = s at h
      obtain ⟨p, path, phase⟩ := s
      cases h
      rfl

theorem alone_three (setup : AuditSetup) (view : View) (t : FileTree) (path : String) :
    alone setup view t path 3 = ((Worker.run setup view ⟨t, []⟩ path).1,
      ⟨path, .done (Worker.run setup view ⟨t, []⟩ path).2⟩) :=
  Job.iterate_advance_three ..

theorem phase_alone_three (setup : AuditSetup) (view : View) (t : FileTree) (path : String) :
    (alone setup view t path 3).2.phase = .done (Worker.run setup view ⟨t, []⟩ path).2 := by
  rw [alone_three]

/-- A job that is done alone has audited its file. -/
theorem alone_of_done {view : View} {path : String} {n : Nat} {result : Worker.End}
    (h : (alone setup view t path n).2.phase = .done result) :
    result = (Worker.run setup view ⟨t, []⟩ path).2 ∧
      (alone setup view t path n).1 = (Worker.run setup view ⟨t, []⟩ path).1 := by
  have hthree : alone setup view t path n = alone setup view t path 3 := by
    rcases Nat.le_total n 3 with hle | hle
    · rw [← alone_add_of_done h (3 - n), Nat.add_sub_cancel' hle]
    · rw [← alone_add_of_done (phase_alone_three setup view t path) (n - 3),
        Nat.add_sub_cancel' hle]
  rw [hthree, alone_three] at h
  rw [hthree, alone_three]
  cases h
  exact ⟨rfl, rfl⟩

/-- A job that is not done has not written its file. -/
theorem done_or_tree_alone (setup : AuditSetup) (view : View) (t : FileTree) (path : String)
    (n : Nat) :
    (∃ result, (alone setup view t path n).2.phase = .done result) ∨
      (alone setup view t path n).1.tree = t := by
  induction n with
  | zero => exact .inr rfl
  | succ n ih =>
      rw [alone_succ]
      generalize alone setup view t path n = s at ih
      obtain ⟨p, path, phase⟩ := s
      cases phase with
      | waiting => exact ih.imp (fun h => nomatch h) id
      | analysed a => exact ih.imp (fun h => nomatch h) id
      | decided a text => exact .inl ⟨_, rfl⟩
      | done result => exact .inl ⟨_, rfl⟩

/-- A job of a pool that is done ends as it ends alone, and its file is as it is then. -/
def EndsAsAlone (setup : AuditSetup) (view : View) (t : FileTree) (p : Progress) (path : String)
    (j : Job) : Prop :=
  ∀ result, j.phase = .done result → result = (Worker.run setup view ⟨t, []⟩ path).2 ∧
    (Worker.run setup view ⟨t, []⟩ path).1.Agree (Location.ofText path.toList) p

theorem Follows.endsAsAlone {view : View} {schedule : List Nat} {pool : Pool}
    (h : Follows setup view t paths schedule pool) :
    List.Forall₂ (EndsAsAlone setup view t pool.progress) paths pool.jobs := by
  refine List.forall₂_iff_get.2 ⟨h.length.symm, fun i hi hj result hresult => ?_⟩
  obtain ⟨hjob, hagree⟩ := h.jobs i (paths.get ⟨i, hi⟩) (List.getElem?_eq_getElem hi)
  rw [List.getElem?_eq_getElem hj] at hjob
  rw [List.get_eq_getElem, Option.some.inj hjob] at hresult
  obtain ⟨hend, hstate⟩ := alone_of_done hresult
  rw [hstate] at hagree
  exact ⟨hend, hagree⟩

/-- A file is never left with something else than it held before or holds after its audit. -/
theorem Follows.read_eq_or {view : View} {schedule : List Nat} {pool : Pool}
    (h : Follows setup view t paths schedule pool) {path : String} (hpath : path ∈ paths) :
    pool.progress.tree.read (Location.ofText path.toList) = t.read (Location.ofText path.toList) ∨
      pool.progress.tree.read (Location.ofText path.toList) =
        (Worker.run setup view ⟨t, []⟩ path).1.tree.read (Location.ofText path.toList) := by
  obtain ⟨i, hi⟩ := List.mem_iff_getElem?.1 hpath
  have hread := (h.jobs i path hi).2.read_eq
  rcases done_or_tree_alone setup view t path (schedule.count i) with ⟨result, hdone⟩ | htree
  · rw [(alone_of_done hdone).2] at hread
    exact .inr hread
  · rw [htree] at hread
    exact .inl hread

/-- Three steps of each job are enough. -/
theorem Follows.done_of_three_le {view : View} {schedule : List Nat} {pool : Pool}
    (h : Follows setup view t paths schedule pool)
    (long : ∀ i < paths.length, 3 ≤ schedule.count i) :
    ∀ j ∈ pool.jobs, ∃ result, j.phase = .done result := by
  intro j hj
  obtain ⟨i, hi⟩ := List.mem_iff_getElem?.1 hj
  have hlt : i < paths.length := h.length ▸ (List.getElem?_eq_some_iff.1 hi).1
  obtain ⟨hjob, -⟩ := h.jobs i paths[i] (List.getElem?_eq_getElem hlt)
  obtain ⟨m, hm⟩ := Nat.exists_eq_add_of_le (long i hlt)
  have hdone := phase_alone_three setup view t paths[i]
  rw [hi, hm, alone_add_of_done hdone] at hjob
  exact ⟨_, by rw [Option.some.inj hjob, hdone]⟩

theorem exists_outcomes?_of_done {js : List Job}
    (h : ∀ j ∈ js, ∃ result, j.phase = .done result) : ∃ result, outcomes? js = some result := by
  induction js with
  | nil => exact ⟨_, rfl⟩
  | cons j js ih =>
      obtain ⟨⟨result, hresult⟩, hrest⟩ := List.forall_mem_cons.1 h
      obtain ⟨rest, hrest⟩ := ih hrest
      unfold outcomes?
      rw [hresult, hrest]
      cases result with
      | error e => exact ⟨_, rfl⟩
      | ok o => exact ⟨_, rfl⟩

/-- Outcomes of a pool are what its jobs have come to, one by one. -/
theorem forall₂_of_outcomes {js : List Job} {os : List FileOutcome}
    (h : outcomes? js = some (.ok os)) :
    List.Forall₂ (fun j o => j.phase = .done (.ok o)) js os := by
  induction js generalizing os with
  | nil =>
      cases h
      exact .nil
  | cons j js ih =>
      unfold outcomes? at h
      split at h
      · cases h
      case h_2 o hphase =>
        obtain ⟨rest, hrest, heq⟩ := Option.map_eq_some_iff.1 h
        obtain ⟨os, rfl, rfl⟩ := map_eq_ok_iff.1 heq
        exact .cons hphase (ih hrest)
      · cases h

/-- The outcomes of a pool are those of the files alone. -/
theorem outcomes_of_ok {view : View} {p : Progress} {js : List Job} {os : List FileOutcome}
    (h : List.Forall₂ (EndsAsAlone setup view t p) paths js) (hos : outcomes? js = some (.ok os)) :
    List.Forall₂ (fun path o => (Worker.run setup view ⟨t, []⟩ path).2 = .ok o ∧
      (Worker.run setup view ⟨t, []⟩ path).1.Agree (Location.ofText path.toList) p) paths os := by
  have hdone := forall₂_of_outcomes hos
  clear hos
  induction h generalizing os with
  | nil =>
      cases hdone
      exact .nil
  | cons hj _ ih =>
      obtain ⟨o, rest, hphase, hrest, rfl⟩ := List.forall₂_cons_left_iff.1 hdone
      obtain ⟨hend, hagree⟩ := hj _ hphase
      exact .cons ⟨hend.symm, hagree⟩ (ih hrest)

/-- The error of a pool is that of the first file that ends with an error alone. -/
theorem outcomes_of_error {view : View} {p : Progress} {js : List Job} {e : AuditError}
    (h : List.Forall₂ (EndsAsAlone setup view t p) paths js)
    (he : outcomes? js = some (.error e)) :
    ∃ front path back, paths = front ++ path :: back ∧
      (∀ q ∈ front, ∃ o, (Worker.run setup view ⟨t, []⟩ q).2 = .ok o) ∧
        (Worker.run setup view ⟨t, []⟩ path).2 = .error e := by
  induction h with
  | nil => cases he
  | @cons path j paths js hj _ ih =>
      unfold outcomes? at he
      split at he
      case h_1 e' hphase =>
        cases he
        exact ⟨[], path, paths, rfl, List.forall_mem_nil _, (hj _ hphase).1.symm⟩
      case h_2 o hphase =>
        obtain ⟨rest, hrest, heq⟩ := Option.map_eq_some_iff.1 he
        cases rest with
        | ok os => cases heq
        | error e' =>
            cases heq
            obtain ⟨front, q, back, rfl, hfront, hq⟩ := ih hrest
            refine ⟨path :: front, q, back, rfl, List.forall_mem_cons.2 ⟨?_, hfront⟩, hq⟩
            exact ⟨o, (hj _ hphase).1.symm⟩
      · cases he

/-! ### Files in turn -/

theorem step_append (setup : AuditSetup) (view : View) (p : Progress) (front back : List Job)
    (j : Job) :
    step setup view ⟨p, front ++ j :: back⟩ front.length =
      ⟨(Job.advance setup view (p, j)).1, front ++ (Job.advance setup view (p, j)).2 :: back⟩ := by
  simp [step]

theorem run_three (setup : AuditSetup) (view : View) (p : Progress) (front back : List Job)
    (path : String) :
    run setup view ⟨p, front ++ ⟨path, .waiting⟩ :: back⟩ (List.replicate 3 front.length) =
      ⟨(Worker.run setup view p path).1,
        front ++ ⟨path, .done (Worker.run setup view p path).2⟩ :: back⟩ := by
  have hthree := Job.iterate_advance_three setup view p path
  simp only [Function.iterate_succ, Function.iterate_zero, Function.comp_apply, id_eq] at hthree
  simp only [run, List.replicate_succ, List.replicate_zero, List.foldl_cons, List.foldl_nil,
    step_append, hthree]

theorem runAll_of_error {view : View} {p q : Progress} {path : String} {e : AuditError}
    (h : Worker.run setup view p path = (q, .error e)) :
    Worker.runAll setup view p (path :: paths) = (q, .error e) := by
  rw [Worker.runAll, h]

theorem runAll_of_ok {view : View} {p q : Progress} {path : String} {o : FileOutcome}
    (h : Worker.run setup view p path = (q, .ok o)) :
    Worker.runAll setup view p (path :: paths) =
      ((Worker.runAll setup view q paths).1,
        (Worker.runAll setup view q paths).2.map (o :: ·)) := by
  rw [Worker.runAll, h]
  simp only
  obtain ⟨r, result⟩ := Worker.runAll setup view q paths
  cases result with
  | error e => rfl
  | ok os => rfl

/-- To audit files in turn is one of the schedules. -/
theorem exists_schedule_of_runAll (setup : AuditSetup) (view : View) (p : Progress)
    (front : List Job) (paths : List String) :
    ∃ schedule js,
      run setup view ⟨p, front ++ paths.map fun path => ⟨path, .waiting⟩⟩ schedule =
          ⟨(Worker.runAll setup view p paths).1, front ++ js⟩ ∧
        outcomes? js = some (Worker.runAll setup view p paths).2 := by
  -- The jobs in front are done; the next one takes three steps before the jobs behind it begin.
  induction paths generalizing p front with
  | nil => exact ⟨[], [], by simp [run, Worker.runAll], rfl⟩
  | cons path paths ih =>
      have hthree := run_three setup view p front (paths.map fun path => ⟨path, .waiting⟩) path
      cases hrun : Worker.run setup view p path with
      | mk q result =>
          rw [hrun] at hthree
          cases result with
          | error e =>
              rw [runAll_of_error hrun]
              exact ⟨_, _, hthree, rfl⟩
          | ok o =>
              obtain ⟨schedule, js, hrest, houtcomes⟩ := ih q (front ++ [⟨path, .done (.ok o)⟩])
              rw [List.append_assoc, List.append_assoc] at hrest
              rw [runAll_of_ok hrun]
              refine ⟨List.replicate 3 front.length ++ schedule, ⟨path, .done (.ok o)⟩ :: js, ?_, ?_⟩
              · unfold run at hthree hrest ⊢
                rw [List.foldl_append, List.map_cons, hthree]
                exact hrest
              · rw [outcomes?, houtcomes]
                rfl

end Pool

end MarkupAudit
