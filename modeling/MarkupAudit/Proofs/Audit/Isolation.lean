import MarkupAudit.Proofs.Audit.Pool
import MarkupAudit.Proofs.Audit.Rounds
import MarkupAudit.Proofs.Report.Sums

/-!
# Files in isolation

A run over several files says of each file what the audit of this file alone says, and leaves the file
as that audit leaves it, whatever the other files hold and in whatever order the work is done
(`audit_isolated`). A file that cannot be read or tokenized, or that changed before it could be
corrected, is listed as skipped. But a file on which a rule cannot be run, or which cannot be read again
or written, stops the run with all files in it.
-/

namespace MarkupAudit

/-! ### One file -/

section Alone

variable (setup : AuditSetup) (edit : Location → Except ReadFault Text → Except ReadFault Text)
  (t : FileTree) (path : String)

/-- A file that can be read and tokenized, and on which all rules can be run. -/
def Analysed (a : Worker.Analysis) : Prop :=
  ∃ s rules, t.readText (Location.ofText path.toList) = .ok s ∧
    Document.parse s (some path) = .ok a.document ∧
      Registry.shipped.build setup.configs setup.only = .ok rules ∧
        Engine.run rules a.document = .ok a.result

/-- Why a file stops a run: its name is none that a file can have, a rule cannot be run on it, or it is
to be corrected and cannot be read again, or it is as it was analysed and cannot be written. -/
inductive Stops : AuditError → Prop where
  | name : t.readText (Location.ofText path.toList) = .error (.file .nullCharacter) →
      Stops (.file (Location.ofText path.toList) (.file .nullCharacter))
  | rule {s : Text} {d : Document} {rules : List ConfiguredRule} {e : RuleError} :
      t.readText (Location.ofText path.toList) = .ok s → Document.parse s (some path) = .ok d →
        Registry.shipped.build setup.configs setup.only = .ok rules →
          Engine.run rules d = .error e → Stops (.rule e)
  | again {a : Worker.Analysis} {f : ReadFault} :
      Analysed setup t path a → Worker.wantsCorrection setup a = true →
        edit (Location.ofText path.toList) (t.readText (Location.ofText path.toList)) = .error f →
          Stops (.file (Location.ofText path.toList) f)
  | write {a : Worker.Analysis} {s : Text} {f : FileFault} :
      Analysed setup t path a → Worker.wantsCorrection setup a = true →
        edit (Location.ofText path.toList) (t.readText (Location.ofText path.toList)) = .ok s →
          fingerprint s = a.document.fingerprint →
            (Corrector.apply s a.result.corrections).text ≠ s →
              t.writable (Location.ofText path.toList) = .error f →
                Stops (.write (Location.ofText path.toList) f)

/-- Why a file is listed as skipped, in words: it cannot be read, it is no template, or it is to be
corrected and has changed. -/
inductive LeftOut : String → Prop where
  | unreadable {f : ReadFault} : t.readText (Location.ofText path.toList) = .error f →
      f ≠ .file .nullCharacter → LeftOut (f.message (Location.ofText path.toList))
  | malformed {s : Text} {m : Malformed} : t.readText (Location.ofText path.toList) = .ok s →
      Document.parse s (some path) = .error m → LeftOut m.message
  | changed {a : Worker.Analysis} {s : Text} :
      Analysed setup t path a → Worker.wantsCorrection setup a = true →
        edit (Location.ofText path.toList) (t.readText (Location.ofText path.toList)) = .ok s →
          fingerprint s ≠ a.document.fingerprint → LeftOut (Conflict.message ⟨a.document.name⟩)

end Alone

theorem Registry.exists_build (configs : List (String × RuleConfig)) {only : List String}
    (registered : ∀ id ∈ only, id ∈ Registry.shipped.ids) :
    ∃ rules, Registry.shipped.build configs only = .ok rules := by
  have all : ∃ es, Registry.shipped.getAll only = .ok es := by
    induction only with
    | nil => exact ⟨[], rfl⟩
    | cons id only ih =>
        obtain ⟨hid, hrest⟩ := List.forall_mem_cons.1 registered
        obtain ⟨es, hes⟩ := ih hrest
        obtain ⟨e, he, heq⟩ := List.mem_map.1 hid
        have found : (Registry.shipped.find? id).isSome = true :=
          List.find?_isSome.2 ⟨e, he, beq_iff_eq.2 heq⟩
        obtain ⟨e, he⟩ := Option.isSome_iff_exists.1 found
        exact ⟨e :: es, Registry.getAll_cons_eq_ok_iff.2 ⟨e, es, he, hes, rfl⟩⟩
  obtain ⟨es, hes⟩ := all
  unfold Registry.build
  split
  · exact ⟨_, rfl⟩
  · rw [hes]
    exact ⟨_, rfl⟩

section Alone

variable {setup : AuditSetup} {edit : Location → Except ReadFault Text → Except ReadFault Text}
  {t : FileTree} {path : String}

theorem Worker.analyse_eq_ok_iff_exists {text : Except ReadFault Text} {a : Worker.Analysis} :
    Worker.analyse setup path text = .ok a ↔ ∃ s rules, text = .ok s ∧
      Document.parse s (some path) = .ok a.document ∧
        Registry.shipped.build setup.configs setup.only = .ok rules ∧
          Engine.run rules a.document = .ok a.result := by
  unfold Worker.analyse
  constructor
  · intro h
    split at h
    · cases h
    · split at h
      · cases h
      · split at h
        · cases h
        · split at h
          · cases h
          · cases h
            exact ⟨_, _, rfl, by assumption, by assumption, by assumption⟩
  · rintro ⟨s, rules, rfl, hparse, hbuild, hrun⟩
    simp only [hparse, hbuild, hrun]

theorem analyse_eq_ok_iff {a : Worker.Analysis} :
    Worker.analyse setup path (t.readText (Location.ofText path.toList)) = .ok a ↔
      Analysed setup t path a :=
  Worker.analyse_eq_ok_iff_exists

/-- How the work on an analysed file ends. -/
theorem run_of_analysed {a : Worker.Analysis} (h : Analysed setup t path a) :
    (Worker.run setup (.edited edit) ⟨t, []⟩ path).2 =
      if Worker.wantsCorrection setup a then
        match edit (Location.ofText path.toList) (t.readText (Location.ofText path.toList)) with
        | .error f => .error (.file (Location.ofText path.toList) f)
        | .ok s =>
            if fingerprint s = a.document.fingerprint then
              if (Corrector.apply s a.result.corrections).text = s then
                .ok (.audited (a.report path))
              else
                Worker.written path a (t.writeText (Location.ofText path.toList)
                  (Corrector.apply s a.result.corrections).text).2
            else .ok (.audited { a.report path with conflict := some ⟨a.document.name⟩ })
      else .ok (.audited (a.report path)) := by
  have first : View.edited edit [] (Location.ofText path.toList)
      (t.readText (Location.ofText path.toList)) = t.readText (Location.ofText path.toList) := rfl
  have second : View.edited edit [Location.ofText path.toList] (Location.ofText path.toList)
      (t.readText (Location.ofText path.toList)) =
        edit (Location.ofText path.toList) (t.readText (Location.ofText path.toList)) := by
    simp [View.edited]
  unfold Worker.run
  simp only [first, second, analyse_eq_ok_iff.2 h]
  split
  · rw [Worker.correct]
    cases edit (Location.ofText path.toList) (t.readText (Location.ofText path.toList)) with
    | error f => rfl
    | ok s =>
        by_cases hprint : fingerprint s = a.document.fingerprint
        · by_cases hsame : (Corrector.apply s a.result.corrections).text = s
          · simp [Document.corrected?, Corrector.applyTo, hprint, hsame]
          · simp [Document.corrected?, Corrector.applyTo, hprint, hsame]
        · simp [Document.corrected?, Corrector.applyTo, hprint]
  · rfl

theorem run_of_not_analysed {result : Worker.End}
    (h : Worker.analyse setup path (t.readText (Location.ofText path.toList)) = .error result) :
    (Worker.run setup (.edited edit) ⟨t, []⟩ path).2 = result := by
  have first : View.edited edit [] (Location.ofText path.toList)
      (t.readText (Location.ofText path.toList)) = t.readText (Location.ofText path.toList) := rfl
  unfold Worker.run
  simp only [first, h]

theorem isSkipped_eq_false_iff {f : ReadFault} :
    Worker.isSkipped f = false ↔ f = .file .nullCharacter := by
  unfold Worker.isSkipped
  split <;> simp_all

/-- Why a file is not analysed. -/
theorem not_analysed_cases (registered : ∀ id ∈ setup.only, id ∈ Registry.shipped.ids)
    {result : Worker.End}
    (h : Worker.analyse setup path (t.readText (Location.ofText path.toList)) = .error result) :
    (∃ e, Stops setup edit t path e ∧ result = .error e) ∨
      ∃ reason, LeftOut setup edit t path (SkipReason.message reason) ∧
        result = .ok (.skipped path reason) := by
  unfold Worker.analyse at h
  cases hread : t.readText (Location.ofText path.toList) with
  | error f =>
      rw [hread] at h
      cases hskipped : Worker.isSkipped f with
      | false =>
          cases isSkipped_eq_false_iff.1 hskipped
          cases h
          exact .inl ⟨_, .name hread, rfl⟩
      | true =>
          simp only [hskipped, if_true] at h
          cases h
          refine .inr ⟨_, .unreadable hread ?_, rfl⟩
          rintro rfl
          cases hskipped
  | ok s =>
      obtain ⟨rules, hbuild⟩ := Registry.exists_build setup.configs registered
      rw [hread] at h
      cases hparse : Document.parse s (some path) with
      | error m =>
          simp only [hparse] at h
          cases h
          exact .inr ⟨_, .malformed hread hparse, rfl⟩
      | ok d =>
          cases hrun : Engine.run rules d with
          | error e =>
              simp only [hparse, hbuild, hrun] at h
              cases h
              exact .inl ⟨_, .rule hread hparse hbuild hrun, rfl⟩
          | ok analysis =>
              simp only [hparse, hbuild, hrun] at h
              cases h

theorem run_of_stops {e : AuditError} (h : Stops setup edit t path e) :
    (Worker.run setup (.edited edit) ⟨t, []⟩ path).2 = .error e := by
  cases h with
  | name hread =>
      refine run_of_not_analysed ?_
      rw [hread]
      rfl
  | rule hread hparse hbuild hrun =>
      refine run_of_not_analysed ?_
      simp only [Worker.analyse, hread, hparse, hbuild, hrun]
  | again analysed wanted gone => rw [run_of_analysed analysed, if_pos wanted, gone]
  | write analysed wanted held hprint hne hwritable =>
      rw [run_of_analysed analysed, if_pos wanted, held]
      simp only [if_pos hprint, if_neg hne]
      rw [FileTree.writeText_of_error hwritable]
      rfl

variable (edit) in
/-- An analysed file stops the run, or there is a report on it. A conflict in the report says that the
file has changed. -/
theorem analysed_cases {a : Worker.Analysis} (analysed : Analysed setup t path a) :
    (∃ e, Stops setup edit t path e ∧
        (Worker.run setup (.edited edit) ⟨t, []⟩ path).2 = .error e) ∨
      ∃ f : FileReport, (Worker.run setup (.edited edit) ⟨t, []⟩ path).2 = .ok (.audited f) ∧
        f.path = path ∧ ∀ c, f.conflict = some c → LeftOut setup edit t path c.message := by
  rw [run_of_analysed analysed]
  split
  case isFalse => exact .inr ⟨_, rfl, rfl, nofun⟩
  case isTrue wanted =>
    cases hedit : edit (Location.ofText path.toList)
        (t.readText (Location.ofText path.toList)) with
    | error f => exact .inl ⟨_, .again analysed wanted hedit, rfl⟩
    | ok s =>
        by_cases hprint : fingerprint s = a.document.fingerprint
        · by_cases hsame : (Corrector.apply s a.result.corrections).text = s
          · simp only [if_pos hprint, if_pos hsame]
            exact .inr ⟨_, rfl, rfl, nofun⟩
          · simp only [if_pos hprint, if_neg hsame]
            cases hfault : (t.writeText (Location.ofText path.toList)
                (Corrector.apply s a.result.corrections).text).2 with
            | none => exact .inr ⟨_, rfl, rfl, nofun⟩
            | some f =>
                have hwritable := FileTree.snd_writeText_eq_some_iff.1 hfault
                exact .inl ⟨_, .write analysed wanted hedit hprint hsame hwritable, rfl⟩
        · simp only [if_neg hprint]
          refine .inr ⟨_, rfl, rfl, fun c hc => ?_⟩
          cases hc
          exact .changed analysed wanted hedit hprint

theorem skipped_audited (f : FileReport) :
    (Report.ofOutcomes [.audited f]).skipped = Report.conflictEntry f := by
  rw [Report.ofOutcomes, List.foldl_cons, List.foldl_nil,
    Report.add_audited List.not_mem_nil List.not_mem_nil]
  rfl

variable (edit) in
/-- A file stops the run, or it comes to an outcome. If the outcome lists it as skipped, it is left
out. -/
theorem run_cases (registered : ∀ id ∈ setup.only, id ∈ Registry.shipped.ids) (t : FileTree)
    (path : String) :
    (∃ e, Stops setup edit t path e ∧
        (Worker.run setup (.edited edit) ⟨t, []⟩ path).2 = .error e) ∨
      ∃ o, (Worker.run setup (.edited edit) ⟨t, []⟩ path).2 = .ok o ∧ o.path = path ∧
        ∀ entry ∈ (Report.ofOutcomes [o]).skipped,
          entry.1 = path ∧ LeftOut setup edit t path entry.2 := by
  cases hanalyse : Worker.analyse setup path (t.readText (Location.ofText path.toList)) with
  | error result =>
      rw [run_of_not_analysed hanalyse]
      refine (not_analysed_cases registered hanalyse).imp_right ?_
      rintro ⟨reason, hleft, rfl⟩
      refine ⟨_, rfl, rfl, fun entry hentry => ?_⟩
      cases List.mem_singleton.1 hentry
      exact ⟨rfl, hleft⟩
  | ok a =>
      refine (analysed_cases edit (analyse_eq_ok_iff.1 hanalyse)).imp_right ?_
      rintro ⟨f, hrun, hpath, hconflict⟩
      refine ⟨_, hrun, hpath, fun entry hentry => ?_⟩
      rw [skipped_audited, Report.conflictEntry, Option.mem_toList] at hentry
      obtain ⟨c, hc, rfl⟩ := Option.map_eq_some_iff.1 hentry
      exact ⟨hpath, hconflict c hc⟩

/-- The files that stop a run are those that end with an error alone. -/
theorem run_eq_error_iff (registered : ∀ id ∈ setup.only, id ∈ Registry.shipped.ids)
    {e : AuditError} :
    (Worker.run setup (.edited edit) ⟨t, []⟩ path).2 = .error e ↔ Stops setup edit t path e := by
  refine ⟨fun h => ?_, run_of_stops⟩
  rcases run_cases edit registered t path with ⟨e', hstops, hrun⟩ | ⟨o, hrun, -⟩
  · cases hrun.symm.trans h
    exact hstops
  · cases hrun.symm.trans h

theorem path_of_run (registered : ∀ id ∈ setup.only, id ∈ Registry.shipped.ids) {o : FileOutcome}
    (h : (Worker.run setup (.edited edit) ⟨t, []⟩ path).2 = .ok o) : o.path = path := by
  rcases run_cases edit registered t path with ⟨e, -, hrun⟩ | ⟨o', hrun, hpath, -⟩
  · cases hrun.symm.trans h
  · cases hrun.symm.trans h
    exact hpath

theorem skipped_of_leftOut {message : String} (h : LeftOut setup edit t path message) :
    ∃ o, (Worker.run setup (.edited edit) ⟨t, []⟩ path).2 = .ok o ∧
      (Report.ofOutcomes [o]).skipped = [(path, message)] := by
  cases h with
  | @unreadable f hread hname =>
      refine ⟨.skipped path (.unreadable (Location.ofText path.toList) f), ?_, rfl⟩
      refine run_of_not_analysed ?_
      have hskipped : Worker.isSkipped f = true := by
        rw [← Bool.not_eq_false, isSkipped_eq_false_iff]
        exact hname
      simp only [Worker.analyse, hread, hskipped, if_true]
  | @malformed s m hread hparse =>
      refine ⟨.skipped path (.malformed m), ?_, rfl⟩
      refine run_of_not_analysed ?_
      simp only [Worker.analyse, hread, hparse]
  | changed analysed wanted held hprint =>
      rw [run_of_analysed analysed, if_pos wanted, held]
      simp only [if_neg hprint]
      exact ⟨_, rfl, by rw [skipped_audited]; rfl⟩

/-- A file is listed as skipped, with the reason, if and only if it is left out. -/
theorem mem_skipped_iff (registered : ∀ id ∈ setup.only, id ∈ Registry.shipped.ids)
    {o : FileOutcome} (h : (Worker.run setup (.edited edit) ⟨t, []⟩ path).2 = .ok o)
    {name message : String} :
    (name, message) ∈ (Report.ofOutcomes [o]).skipped ↔
      name = path ∧ LeftOut setup edit t path message := by
  constructor
  · intro hmem
    rcases run_cases edit registered t path with ⟨e, -, hrun⟩ | ⟨o', hrun, -, hskipped⟩
    · cases hrun.symm.trans h
    · cases hrun.symm.trans h
      exact hskipped _ hmem
  · rintro ⟨rfl, hleft⟩
    obtain ⟨o', ho', hskipped⟩ := skipped_of_leftOut hleft
    cases h.symm.trans ho'
    rw [hskipped]
    exact List.mem_singleton_self _

theorem audit_singleton (setup : AuditSetup) (view : View) (t : FileTree) (path : String) :
    t.audit setup view [path] = ((Worker.run setup view ⟨t, []⟩ path).1.tree,
      (Worker.run setup view ⟨t, []⟩ path).2.map fun o => Report.ofOutcomes [o]) := by
  rw [FileTree.audit]
  cases hrun : Worker.run setup view ⟨t, []⟩ path with
  | mk p result =>
      cases result with
      | error e => rw [Pool.runAll_of_error hrun]; rfl
      | ok o => rw [Pool.runAll_of_ok hrun]; rfl

end Alone

/-! ### All files -/

/-- What the audit of files comes to: it stops if and only if one of the files stops it, and then with
the error of the first such file. If it completes, its report is the sum of the reports on each file
alone, the files that are left out are listed, and each file is what it is when it is audited alone. In
any case no other file is changed, and no file is left with something else than it held before or holds
after it was audited alone. -/
structure Isolated (setup : AuditSetup)
    (edit : Location → Except ReadFault Text → Except ReadFault Text) (t : FileTree)
    (paths : List String) (after : FileTree) (result : Except AuditError Report) : Prop where
  completes : (∃ r, result = .ok r) ↔ ∀ path ∈ paths, ∀ e, ¬ Stops setup edit t path e
  stops : ∀ e, result = .error e → ∃ front path back, paths = front ++ path :: back ∧
    (∀ q ∈ front, ∀ e, ¬ Stops setup edit t q e) ∧ Stops setup edit t path e
  report : ∀ r, result = .ok r → ∃ parts, r.IsSum parts ∧
    List.Forall₂ (fun path part => (t.audit setup (.edited edit) [path]).2 = .ok part) paths parts
  skipped : ∀ r, result = .ok r → ∀ path message,
    (path, message) ∈ r.skipped ↔ path ∈ paths ∧ LeftOut setup edit t path message
  files : ∀ r, result = .ok r → ∀ path ∈ paths,
    after.read (Location.ofText path.toList) =
      (t.audit setup (.edited edit) [path]).1.read (Location.ofText path.toList)
  whole : ∀ path ∈ paths,
    after.read (Location.ofText path.toList) = t.read (Location.ofText path.toList) ∨
      after.read (Location.ofText path.toList) =
        (t.audit setup (.edited edit) [path]).1.read (Location.ofText path.toList)
  others : ∀ name, (∀ path ∈ paths, t.locate (Location.ofText path.toList) ≠ .ok name) →
    after.content? name = t.content? name

section Isolated

variable {setup : AuditSetup} {edit : Location → Except ReadFault Text → Except ReadFault Text}
  {t : FileTree} {paths : List String}

theorem nodup_of_leadApart (apart : paths.Pairwise (LeadApart t)) : paths.Nodup :=
  apart.imp fun h heq => h.1 (by rw [heq])

theorem exists_mem_of_forall₂ {α β : Type} {R : α → β → Prop} {as : List α} {bs : List β}
    (h : List.Forall₂ R as bs) : ∀ a ∈ as, ∃ b ∈ bs, R a b := by
  induction h with
  | nil => exact List.forall_mem_nil _
  | @cons a b as bs hab _ ih =>
      refine List.forall_mem_cons.2 ⟨⟨b, List.mem_cons_self, hab⟩, fun a ha => ?_⟩
      obtain ⟨b, hb, hab⟩ := ih a ha
      exact ⟨b, List.mem_cons_of_mem _ hb, hab⟩

variable {schedule : List Nat} {pool : Pool}

theorem isolated_of_error (registered : ∀ id ∈ setup.only, id ∈ Registry.shipped.ids)
    (h : pool.Follows setup (.edited edit) t paths schedule) {e : AuditError}
    (he : Pool.outcomes? pool.jobs = some (.error e)) :
    Isolated setup edit t paths pool.progress.tree (.error e) := by
  obtain ⟨front, path, back, hpaths, hfront, hpath⟩ := Pool.outcomes_of_error h.endsAsAlone he
  have hstops := (run_eq_error_iff registered).1 hpath
  have hmem : path ∈ paths := by simp [hpaths]
  refine ⟨⟨fun ⟨r, hr⟩ => (nomatch hr), fun none => (none path hmem e hstops).elim⟩, ?_,
    fun r hr => (nomatch hr), fun r hr => (nomatch hr), fun r hr => (nomatch hr), ?_, h.others⟩
  · intro e' heq
    cases heq
    refine ⟨front, path, back, hpaths, fun q hq e' hq' => ?_, hstops⟩
    obtain ⟨o, ho⟩ := hfront q hq
    cases ho.symm.trans (run_of_stops hq')
  · intro path hpath
    rw [audit_singleton]
    exact h.read_eq_or hpath

theorem isolated_of_ok (registered : ∀ id ∈ setup.only, id ∈ Registry.shipped.ids)
    (apart : paths.Pairwise (LeadApart t)) (h : pool.Follows setup (.edited edit) t paths schedule)
    {os : List FileOutcome} (hos : Pool.outcomes? pool.jobs = some (.ok os)) :
    Isolated setup edit t paths pool.progress.tree (.ok (Report.ofOutcomes os)) := by
  have outcomes := Pool.outcomes_of_ok h.endsAsAlone hos
  have hpaths : paths = os.map FileOutcome.path := by
    rw [← List.forall₂_eq_eq_eq, List.forall₂_map_right_iff]
    exact outcomes.imp fun path o ho => (path_of_run registered ho.1).symm
  -- Paths that are apart are different, so no entry of the report replaces another.
  have sum := Report.isSum_ofOutcomes (hpaths ▸ nodup_of_leadApart apart)
  have own := exists_mem_of_forall₂ outcomes
  refine ⟨⟨fun _ path hpath e hstops => ?_, fun _ => ⟨_, rfl⟩⟩, fun e he => (nomatch he), ?_, ?_, ?_,
    ?_, h.others⟩
  · obtain ⟨o, -, ho, -⟩ := own path hpath
    cases ho.symm.trans (run_of_stops hstops)
  · rintro r ⟨⟩
    refine ⟨_, sum, ?_⟩
    rw [List.forall₂_map_right_iff]
    refine outcomes.imp fun path o ho => ?_
    rw [audit_singleton, ho.1]
    rfl
  · rintro r ⟨⟩ path message
    rw [sum.skipped, List.flatMap_map, List.mem_flatMap]
    constructor
    · rintro ⟨o, ho, hmem⟩
      obtain ⟨q, hq, hrun, -⟩ := exists_mem_of_forall₂ outcomes.flip o ho
      obtain ⟨rfl, hleft⟩ := (mem_skipped_iff registered hrun).1 hmem
      exact ⟨hq, hleft⟩
    · rintro ⟨hpath, hleft⟩
      obtain ⟨o, ho, hrun, -⟩ := own path hpath
      exact ⟨o, ho, (mem_skipped_iff registered hrun).2 ⟨rfl, hleft⟩⟩
  · rintro r ⟨⟩ path hpath
    obtain ⟨o, -, -, hagree⟩ := own path hpath
    rw [audit_singleton]
    exact hagree.read_eq
  · intro path hpath
    rw [audit_singleton]
    exact h.read_eq_or hpath

/-- A pool in which enough is done gives what is right of each file. -/
theorem isolated_of_follows (registered : ∀ id ∈ setup.only, id ∈ Registry.shipped.ids)
    (apart : paths.Pairwise (LeadApart t)) (h : pool.Follows setup (.edited edit) t paths schedule)
    {result : Except AuditError (List FileOutcome)}
    (hresult : Pool.outcomes? pool.jobs = some result) :
    Isolated setup edit t paths pool.progress.tree (result.map Report.ofOutcomes) := by
  cases result with
  | error e => exact isolated_of_error registered h hresult
  | ok os => exact isolated_of_ok registered apart h hresult

end Isolated

/-- The report of a pool, if its jobs have come far enough. -/
def Pool.report? (pool : Pool) : Option (Except AuditError Report) :=
  (outcomes? pool.jobs).map fun result => result.map Report.ofOutcomes

/-- Files are audited in isolation, whether one after another or side by side, with the steps of their
jobs in any order. -/
theorem audit_isolated (setup : AuditSetup)
    (edit : Location → Except ReadFault Text → Except ReadFault Text) {t : FileTree}
    {paths : List String} (registered : ∀ id ∈ setup.only, id ∈ Registry.shipped.ids)
    (apart : paths.Pairwise (LeadApart t)) :
    Isolated setup edit t paths (t.audit setup (.edited edit) paths).1
        (t.audit setup (.edited edit) paths).2 ∧
      ∀ schedule,
        ((∀ i < paths.length, 3 ≤ schedule.count i) → ∃ result,
          ((Pool.start t paths).run setup (.edited edit) schedule).report? = some result) ∧
        ∀ result, ((Pool.start t paths).run setup (.edited edit) schedule).report? = some result →
          Isolated setup edit t paths
            ((Pool.start t paths).run setup (.edited edit) schedule).progress.tree result := by
  have follows := Pool.run_follows setup edit apart
  constructor
  · obtain ⟨schedule, js, hrun, houtcomes⟩ :=
      Pool.exists_schedule_of_runAll setup (.edited edit) ⟨t, []⟩ [] paths
    have hfollows := follows schedule
    rw [Pool.start, ← List.nil_append (paths.map _), hrun] at hfollows
    exact isolated_of_follows registered apart hfollows houtcomes
  · intro schedule
    refine ⟨fun enough => ?_, fun result hresult => ?_⟩
    · obtain ⟨result, hresult⟩ :=
        Pool.exists_outcomes?_of_done ((follows schedule).done_of_three_le enough)
      exact ⟨_, by rw [Pool.report?, hresult]; rfl⟩
    · obtain ⟨outcomes, houtcomes, rfl⟩ := Option.map_eq_some_iff.1 hresult
      exact isolated_of_follows registered apart (follows schedule) houtcomes

/-- A tag that holds what stands for a code block while tags are read, a frame without a title, and a
file that is no text. -/
def threeFiles : FileTree :=
  { files :=
      [(["a.html".toList],
          .bytes (Text.toUtf8 "<p title=\"__template_auditor_code_0__\">".toList)),
       (["b.html".toList], .bytes (Text.toUtf8 "<iframe></iframe>".toList)),
       (["c.html".toList], .bytes [255])] }

/-- Audits some of these files. -/
def auditThree (paths : List String) : FileTree × Except AuditError Report :=
  threeFiles.audit { } (.edited fun _ held => held) paths

theorem leadApart_threeFiles {path : String} (h : path = "a.html" ∨ path = "c.html") :
    [path, "b.html"].Pairwise (LeadApart threeFiles) := by
  refine List.pairwise_pair.2 (leadApart_of_locate_ne ?_)
  rcases h with rfl | rfl <;> decide +kernel

/-- The file that is no text is listed, and the frame is found. But the tag stops the run, so that
nothing is said of the frame. -/
theorem audit_isolated_threeFiles :
    ∃ r e, (auditThree ["c.html", "b.html"]).2 = .ok r ∧ r.skipped.map (·.1) = ["c.html"] ∧
      r.totalFindings = 1 ∧
      Isolated { } (fun _ held => held) threeFiles ["c.html", "b.html"]
        (auditThree ["c.html", "b.html"]).1 (.ok r) ∧
      (auditThree ["a.html", "b.html"]).2 = .error e ∧
      Isolated { } (fun _ held => held) threeFiles ["a.html", "b.html"]
        (auditThree ["a.html", "b.html"]).1 (.error e) := by
  have completes : (auditThree ["c.html", "b.html"]).2.toOption.map
      (fun r => (r.skipped.map (·.1), r.totalFindings)) = some (["c.html"], 1) := by
    decide +kernel
  have stopped : (auditThree ["a.html", "b.html"]).2.toOption.isNone = true := by
    decide +kernel
  obtain ⟨r, hr, hvalues⟩ := Option.map_eq_some_iff.1 completes
  obtain ⟨hskipped, htotal⟩ := Prod.mk.inj hvalues
  have hr := eq_ok_of_toOption hr
  obtain ⟨e, he⟩ : ∃ e, (auditThree ["a.html", "b.html"]).2 = .error e := by
    cases h : (auditThree ["a.html", "b.html"]).2 with
    | error e => exact ⟨e, rfl⟩
    | ok r =>
        rw [h] at stopped
        cases stopped
  refine ⟨r, e, hr, hskipped, htotal, ?_, he, ?_⟩
  · rw [← hr]
    exact (audit_isolated { } _ (List.forall_mem_nil _) (leadApart_threeFiles (.inr rfl))).1
  · rw [← he]
    exact (audit_isolated { } _ (List.forall_mem_nil _) (leadApart_threeFiles (.inl rfl))).1

/-- A link that is to be counted, in a file that is protected. -/
def protectedLink : FileTree :=
  { files := [(["a.html".toList], .bytes (Text.toUtf8 "<a>More</a>".toList))]
    readOnly := [["a.html".toList]] }

/-- A protected file is audited like any other, but it stops a run that is to correct it. -/
example :
    ((protectedLink.audit { } .undisturbed ["a.html"]).2.map Report.totalFindings) = .ok 1 ∧
      ((protectedLink.audit { autocorrect := true } .undisturbed ["a.html"]).2.map
        Report.totalFindings) = .error (.write ⟨[], ["a.html".toList]⟩ .notPermitted) := by
  decide +kernel

end MarkupAudit
