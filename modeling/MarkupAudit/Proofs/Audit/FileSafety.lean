import MarkupAudit.Proofs.Audit.Ambiguity
import MarkupAudit.Proofs.Audit.Isolation
import MarkupAudit.Proofs.Text.Encoding

/-!
# Files that others edit

A file is read, analysed, read again and written, and others may edit it between the two readings. It is
written only if it holds the bytes that were analysed. Then it holds them with the places of the
corrections replaced, and in any other case it is left as it was found (`audit_amid_edits`). That is so
too if it is protected, which only shows when it is to be written, and stops the run. Corrections are
places in a text, and a file holds bytes: what is replaced are the bytes that encode a place
(`spliced_interleave`), and the bytes that are not replaced are those that were read, because reading
loses nothing.
-/

namespace MarkupAudit

open Corrector

/-! ### Corrections of bytes -/

/-- A place in bytes, and what is to stand there. -/
structure ByteEdit where
  start : Nat
  stop : Nat
  replacement : List UInt8

/-- The offset at which a character begins in the encoding of a text. -/
def Text.byteOffset (s : Text) (p : Nat) : Nat :=
  (toUtf8 (s.take p)).length

/-- A correction of a text as one of its encoding. -/
def ByteEdit.ofCorrection (s : Text) (c : Correction) : ByteEdit :=
  ⟨s.byteOffset c.span.start.toNat, s.byteOffset c.span.stop.toNat, Text.toUtf8 c.replacement⟩

/-- Bytes from an offset on, and the same bytes with some places replaced. Between the places both have
the same bytes. -/
inductive Spliced : (pos : Nat) → List ByteEdit → (old new : List UInt8) → Prop where
  | nil (pos : Nat) (gap : List UInt8) : Spliced pos [] gap gap
  | cons {pos : Nat} {e : ByteEdit} {es : List ByteEdit} {gap place old new : List UInt8} :
      e.start = pos + gap.length → e.stop = e.start + place.length → Spliced e.stop es old new →
        Spliced pos (e :: es) (gap ++ (place ++ old)) (gap ++ (e.replacement ++ new))

/-- A text from one offset on, split at a later one. -/
theorem Text.drop_eq_take_append (s : Text) {p q : Nat} (h : p ≤ q) :
    s.drop p = (s.drop p).take (q - p) ++ s.drop q := by
  have hdrop : (s.drop p).drop (q - p) = s.drop q := by
    rw [List.drop_drop, Nat.add_sub_cancel' h]
  rw [← hdrop, List.take_append_drop]

theorem Text.byteOffset_eq_add (s : Text) {p q : Nat} (h : p ≤ q) :
    s.byteOffset q = s.byteOffset p + (toUtf8 ((s.drop p).take (q - p))).length := by
  rw [byteOffset, byteOffset, ← List.length_append, ← toUtf8_append, ← List.take_add,
    Nat.add_sub_cancel' h]

/-- Corrections of a text that are made in turn replace the bytes of their places, and no others. -/
theorem spliced_interleave {s : Text} {es : List Correction} (pos : Nat)
    (inBounds : ∀ c ∈ es, InBounds s c) (behind : ∀ c ∈ es, (pos : Int) ≤ c.span.start)
    (ascending : es.Pairwise fun c d => c.span.stop ≤ d.span.start) :
    Spliced (s.byteOffset pos) (es.map (ByteEdit.ofCorrection s)) (Text.toUtf8 (s.drop pos))
      (Text.toUtf8 (interleave pos (s.drop pos) es)) := by
  induction es generalizing pos with
  | nil => exact .nil _ _
  | cons c es ih =>
      obtain ⟨hstart, hle, hstop⟩ := inBounds c List.mem_cons_self
      have hpos := behind c List.mem_cons_self
      obtain ⟨next, ascending⟩ := List.pairwise_cons.1 ascending
      have later : ∀ d ∈ es, (c.span.stop.toNat : Int) ≤ d.span.start := by
        intro d hd
        have := next d hd
        omega
      have rest := ih c.span.stop.toNat (fun d hd => inBounds d (List.mem_cons_of_mem c hd)) later
        ascending
      have before : pos ≤ c.span.start.toNat := by omega
      have inside : c.span.start.toNat ≤ c.span.stop.toNat := by omega
      -- what stands before the place, at the place and behind it
      have old := congrArg Text.toUtf8 (s.drop_eq_take_append before)
      rw [s.drop_eq_take_append inside, Text.toUtf8_append, Text.toUtf8_append] at old
      have new : Text.toUtf8 (interleave pos (s.drop pos) (c :: es)) =
          Text.toUtf8 ((s.drop pos).take (c.span.start.toNat - pos)) ++
            (Text.toUtf8 c.replacement ++
              Text.toUtf8 (interleave c.span.stop.toNat (s.drop c.span.stop.toNat) es)) := by
        rw [interleave, List.drop_drop, Nat.add_sub_cancel' (Nat.le_trans before inside),
          Text.toUtf8_append, Text.toUtf8_append]
      rw [old, new, List.map_cons]
      exact .cons (s.byteOffset_eq_add before) (s.byteOffset_eq_add inside) rest

/-- The corrections that are made of some, from the first place to the last. -/
def Corrector.applied (cs : List Correction) : List Correction :=
  (kept [] (ordered cs)).reverse

theorem Corrector.applied_append_dropped_perm (s : Text) (cs : List Correction) :
    (applied cs ++ (apply s cs).dropped).Perm cs :=
  ((List.reverse_perm _).append_right _).trans (kept_append_dropped_perm.trans (ordered_perm cs))

/-- What is done to a text is done to its encoding. -/
theorem spliced_apply {s : Text} {cs : List Correction} (inBounds : ∀ c ∈ cs, InBounds s c) :
    Spliced 0 ((applied cs).map (ByteEdit.ofCorrection s)) (Text.toUtf8 s)
      (Text.toUtf8 (apply s cs).text) := by
  obtain ⟨ascending, htext⟩ := text_apply inBounds
  have bounds : ∀ c ∈ applied cs, InBounds s c := by
    intro c hc
    have hmem : c ∈ applied cs ++ (apply s cs).dropped := List.mem_append_left _ hc
    exact inBounds c ((applied_append_dropped_perm s cs).subset hmem)
  rw [htext]
  exact spliced_interleave 0 bounds (fun c hc => (bounds c hc).1) ascending

/-! ### Bytes of files -/

namespace FileTree

/-- The bytes of the file at a location. -/
def bytesAt (t : FileTree) (place : Location) : Except FileFault (List UInt8) :=
  (t.read place).map FileContent.toBytes

theorem bytesAt_of_readText {t : FileTree} {place : Location} {s : Text}
    (h : t.readText place = .ok s) : t.bytesAt place = .ok (Text.toUtf8 s) := by
  unfold readText at h
  split at h
  · cases h
  case h_2 content hread =>
    split at h
    · cases h
    case h_2 hdecode =>
      cases h
      rw [bytesAt, hread, Utf8.toUtf8_of_decode hdecode]
      rfl

end FileTree

/-! ### The work on a file that others edit -/

/-- The first reading gives what the files held before. -/
def View.earlier (before : FileTree) : View := fun seen place held =>
  if seen.isEmpty then before.readText place else held

namespace Job

/-- The work on a file after its second reading. The file is read first as it was `before`, and then as
it is `now`; if there is nothing to correct, it is not read again. -/
def reread (setup : AuditSetup) (before now : FileTree) (path : String) : Progress × Job :=
  let first := advance setup .undisturbed (⟨before, []⟩, ⟨path, .waiting⟩)
  advance setup .undisturbed ({ first.1 with tree := now }, first.2)

/-- The work on a file that others edit between its two readings. -/
def amid (setup : AuditSetup) (before now : FileTree) (path : String) : Progress × Job :=
  advance setup .undisturbed (reread setup before now path)

/-- The text that a job is about to write. -/
def pending? (j : Job) : Option Text :=
  match j.phase with
  | .decided _ text => some text
  | _ => none

theorem corrected?_written (path : String) (a : Worker.Analysis) (fault? : Option FileFault) :
    (⟨path, .done (Worker.written path a fault?)⟩ : Job).corrected? = some true ↔ fault? = none := by
  cases fault? with
  | none => exact ⟨fun _ => rfl, fun _ => rfl⟩
  | some f => exact ⟨nofun, nofun⟩

theorem seen_advance_ne_nil {setup : AuditSetup} {view : View} {s : Progress × Job}
    (h : s.1.seen ≠ []) : (advance setup view s).1.seen ≠ [] := by
  unfold advance effect
  split
  · exact List.cons_ne_nil _ _
  · exact List.cons_ne_nil _ _
  · exact h
  · exact h

theorem advance_earlier {setup : AuditSetup} {before : FileTree} {s : Progress × Job}
    (h : s.1.seen ≠ []) : advance setup (.earlier before) s = advance setup .undisturbed s := by
  have hreading : s.2.reading (.earlier before) s.1 = s.2.reading .undisturbed s.1 := by
    rw [reading, View.earlier, if_neg (by simpa using h)]
    rfl
  unfold advance phaseAfter
  rw [hreading]

/-- The work on a file that others edit is its audit, except that the first reading gives what the file
held before. -/
theorem amid_eq (setup : AuditSetup) (before now : FileTree) (path : String) :
    amid setup before now path = ((Worker.run setup (.earlier before) ⟨now, []⟩ path).1,
      ⟨path, .done (Worker.run setup (.earlier before) ⟨now, []⟩ path).2⟩) := by
  rw [← iterate_advance_three]
  simp only [Function.iterate_succ, Function.iterate_zero, Function.comp_apply, id_eq]
  have first : (advance setup (.earlier before) (⟨now, []⟩, ⟨path, .waiting⟩)).1.seen ≠ [] :=
    List.cons_ne_nil _ _
  rw [advance_earlier (s := advance setup (.earlier before) _) first,
    advance_earlier (seen_advance_ne_nil first)]
  rfl

end Job

section Amid

variable {setup : AuditSetup} {before now : FileTree} {path : String}

theorem correct_eq_ok_iff {a : Worker.Analysis} {current : Except ReadFault Text} {text : Text} :
    Worker.correct path a current = .ok text ↔
      ∃ s, current = .ok s ∧ fingerprint s = a.document.fingerprint ∧
        (apply s a.result.corrections).text ≠ s ∧ text = (apply s a.result.corrections).text := by
  cases current with
  | error f => simp [Worker.correct, Document.corrected?]
  | ok s =>
      by_cases hprint : fingerprint s = a.document.fingerprint
      · by_cases hsame : (apply s a.result.corrections).text = s
        · simp [Worker.correct, Document.corrected?, applyTo, hprint, hsame]
        · simp [Worker.correct, Document.corrected?, applyTo, hprint, hsame]
          exact eq_comm
      · simp [Worker.correct, Document.corrected?, applyTo, hprint]

theorem corrected?_of_analyse {text : Except ReadFault Text} {result : Worker.End}
    (h : Worker.analyse setup path text = .error result) :
    (⟨path, .done result⟩ : Job).corrected? ≠ some true := by
  unfold Worker.analyse at h
  grind [Job.corrected?]

theorem corrected?_of_correct {a : Worker.Analysis} {text : Except ReadFault Text}
    {result : Worker.End} (h : Worker.correct path a text = .error result) :
    (⟨path, .done result⟩ : Job).corrected? ≠ some true := by
  unfold Worker.correct at h
  grind [Job.corrected?, Worker.Analysis.report]

/-- The second reading in one piece. -/
theorem reread_eq (setup : AuditSetup) (before now : FileTree) (path : String) :
    Job.reread setup before now path =
      match Worker.analyse setup path (before.readText (Location.ofText path.toList)) with
      | .error result => (⟨now, [Location.ofText path.toList]⟩, ⟨path, .done result⟩)
      | .ok a =>
          if Worker.wantsCorrection setup a then
            (⟨now, [Location.ofText path.toList, Location.ofText path.toList]⟩, ⟨path,
              match Worker.correct path a (now.readText (Location.ofText path.toList)) with
              | .error result => .done result
              | .ok text => .decided a text⟩)
          else
            (⟨now, [Location.ofText path.toList]⟩, ⟨path, .done (.ok (.audited (a.report path)))⟩) := by
  cases hanalyse : Worker.analyse setup path (before.readText (Location.ofText path.toList)) with
  | error result =>
      simp [Job.reread, Job.advance, Job.effect, Job.phaseAfter, Job.reading, Job.place,
        View.undisturbed, hanalyse]
  | ok a =>
      by_cases hwants : Worker.wantsCorrection setup a = true
      · cases hcorrect : Worker.correct path a (now.readText (Location.ofText path.toList)) with
        | error result =>
            simp [Job.reread, Job.advance, Job.effect, Job.phaseAfter, Job.reading, Job.place,
              View.undisturbed, hanalyse, hwants, hcorrect]
        | ok text =>
            simp [Job.reread, Job.advance, Job.effect, Job.phaseAfter, Job.reading, Job.place,
              View.undisturbed, hanalyse, hwants, hcorrect]
      · simp [Job.reread, Job.advance, Job.effect, Job.phaseAfter, Job.reading, Job.place,
          View.undisturbed, hanalyse, hwants]

/-- After the second reading the work is done with nothing to write, or the corrected text is to be
written. The latter needs that the file was analysed and is to be corrected, and that it has the
fingerprint of what was analysed. -/
theorem reread_cases (setup : AuditSetup) (before now : FileTree) (path : String) :
    (Job.reread setup before now path).1.tree = now ∧
      ((∃ result, (Job.reread setup before now path).2 = ⟨path, .done result⟩ ∧
          (⟨path, .done result⟩ : Job).corrected? ≠ some true) ∨
        ∃ a s, Analysed setup before path a ∧ Worker.wantsCorrection setup a = true ∧
          now.readText (Location.ofText path.toList) = .ok s ∧
            fingerprint s = a.document.fingerprint ∧ (apply s a.result.corrections).text ≠ s ∧
              (Job.reread setup before now path).2 =
                ⟨path, .decided a (apply s a.result.corrections).text⟩) := by
  rw [reread_eq]
  split
  case h_1 result hanalyse => exact ⟨rfl, .inl ⟨result, rfl, corrected?_of_analyse hanalyse⟩⟩
  case h_2 a hanalyse =>
    split
    case isFalse => exact ⟨rfl, .inl ⟨_, rfl, by simp [Job.corrected?, Worker.Analysis.report]⟩⟩
    case isTrue hwants =>
      refine ⟨rfl, ?_⟩
      cases hcorrect : Worker.correct path a (now.readText (Location.ofText path.toList)) with
      | error result => exact .inl ⟨result, rfl, corrected?_of_correct hcorrect⟩
      | ok text =>
          obtain ⟨s, hread, hprint, hne, rfl⟩ := correct_eq_ok_iff.1 hcorrect
          exact .inr ⟨a, s, analyse_eq_ok_iff.1 hanalyse, hwants, hread, hprint, hne, rfl⟩

/-- A file that holds what was analysed is written if it is to be corrected and its text changes by
that. -/
theorem pending?_reread {a : Worker.Analysis} {s : Text} (analysed : Analysed setup before path a)
    (wanted : Worker.wantsCorrection setup a = true)
    (hbefore : before.readText (Location.ofText path.toList) = .ok s)
    (hnow : now.readText (Location.ofText path.toList) = .ok s)
    (hne : (apply s a.result.corrections).text ≠ s) :
    (Job.reread setup before now path).2.pending? = some (apply s a.result.corrections).text := by
  have hanalyse := analyse_eq_ok_iff.2 analysed
  obtain ⟨s', rules, hread, hparse, -⟩ := analysed
  cases hread.symm.trans hbefore
  have hprint := (Document.fingerprint_of_parse hparse).2
  have hcorrect : Worker.correct path a (now.readText (Location.ofText path.toList)) =
      .ok (apply s a.result.corrections).text :=
    correct_eq_ok_iff.2 ⟨s, hnow, hprint.symm, hne, rfl⟩
  rw [reread_eq, hanalyse]
  simp only [wanted, hcorrect, if_true]
  rfl

/-- The work ends as if the second reading had only been told what it reads, if the file may be written
as it might before. -/
theorem phase_amid (setup : AuditSetup) (before now : FileTree) (path : String)
    (allowed : (Job.reread setup before now path).2.pending? ≠ none →
      before.writable (Location.ofText path.toList) =
        now.writable (Location.ofText path.toList)) :
    (Job.amid setup before now path).2.phase = .done (Worker.run setup
      (.edited fun _ _ => now.readText (Location.ofText path.toList)) ⟨before, []⟩ path).2 := by
  rw [reread_eq] at allowed
  rw [Job.amid, reread_eq]
  cases hanalyse : Worker.analyse setup path (before.readText (Location.ofText path.toList)) with
  | error result => rw [run_of_not_analysed hanalyse]; rfl
  | ok a =>
      by_cases hwants : Worker.wantsCorrection setup a = true
      · cases hcorrect : Worker.correct path a (now.readText (Location.ofText path.toList)) with
        | error result =>
            simp [Worker.run, View.edited, Job.advance, Job.phaseAfter, hanalyse, hwants, hcorrect]
        | ok text =>
            simp only [hanalyse, hwants, hcorrect, if_true] at allowed
            have hfault := FileTree.snd_writeText_congr (allowed (Option.some_ne_none text)) text
            simp [Worker.run, View.edited, Job.advance, Job.phaseAfter, Job.place, hanalyse, hwants,
              hcorrect, hfault]
      · simp [Worker.run, View.edited, Job.advance, Job.phaseAfter, hanalyse, hwants]

/-- Where nobody edits the file, this is the audit of the file. -/
theorem amid_self (setup : AuditSetup) (now : FileTree) (path : String) :
    Job.amid setup now now path = ((Worker.run setup .undisturbed ⟨now, []⟩ path).1,
      ⟨path, .done (Worker.run setup .undisturbed ⟨now, []⟩ path).2⟩) :=
  Job.iterate_advance_three setup .undisturbed ⟨now, []⟩ path

/-- Work that is done after the second reading is done. -/
theorem amid_of_done {result : Worker.End}
    (h : (Job.reread setup before now path).2 = ⟨path, .done result⟩) :
    Job.amid setup before now path = Job.reread setup before now path := by
  rw [Job.amid]
  generalize Job.reread setup before now path = state at h
  obtain ⟨p, j⟩ := state
  cases h
  rfl

/-- A text that is to be written after the second reading is written, if it can be. -/
theorem amid_of_decided {a : Worker.Analysis} {text : Text}
    (h : (Job.reread setup before now path).2 = ⟨path, .decided a text⟩) :
    (Job.amid setup before now path).1.tree =
        ((Job.reread setup before now path).1.tree.writeText
          (Location.ofText path.toList) text).1 ∧
      (Job.amid setup before now path).2 = ⟨path, .done (Worker.written path a
        ((Job.reread setup before now path).1.tree.writeText
          (Location.ofText path.toList) text).2)⟩ := by
  rw [Job.amid]
  generalize Job.reread setup before now path = state at h
  obtain ⟨p, j⟩ := state
  cases h
  exact ⟨rfl, rfl⟩

/-! ### What becomes of the file -/

/-- A file was written after its second reading. It is to be corrected, and holds the bytes that were
analysed. Afterwards it holds these bytes with the places of the corrections that were not dropped
replaced, and the other files are as they were. -/
structure Written (setup : AuditSetup) (before now after : FileTree) (path : String)
    (a : Worker.Analysis) (s : Text) : Prop where
  autocorrect : setup.autocorrect = true
  analysed : Analysed setup before path a
  source : a.document.source = s
  corrections : a.result.corrections ≠ []
  read : before.bytesAt (Location.ofText path.toList) = .ok (Text.toUtf8 s)
  unchanged : now.bytesAt (Location.ofText path.toList) = .ok (Text.toUtf8 s)
  spliced : ∃ bytes, after.bytesAt (Location.ofText path.toList) = .ok bytes ∧
    bytes ≠ Text.toUtf8 s ∧
      Spliced 0 ((applied a.result.corrections).map (ByteEdit.ofCorrection s)) (Text.toUtf8 s) bytes
  dropped : (applied a.result.corrections ++ (apply s a.result.corrections).dropped).Perm
    a.result.corrections
  names : now.SameNames after
  others : ∀ name, now.locate (Location.ofText path.toList) ≠ .ok name →
    after.content? name = now.content? name

/-- What becomes of a file that others edit between its two readings. The work is the audit of the file
as it is now, except that the first reading gives what it held before. So it ends like the audit of a
file that is told what the second reading gives, and it is the audit if nobody edits the file. Nothing is
written, or the file is protected, which stops the run, or the file is written as above. It is to be
written if it holds what was analysed and gets another text by its corrections, and the report says that
it was corrected if and only if the bytes changed. -/
structure SafeAmidEdits (setup : AuditSetup) (before now : FileTree) (path : String) : Prop where
  audit : Job.amid setup before now path =
    ((Worker.run setup (.earlier before) ⟨now, []⟩ path).1,
      ⟨path, .done (Worker.run setup (.earlier before) ⟨now, []⟩ path).2⟩)
  ends : ((Job.reread setup before now path).2.pending? ≠ none →
      before.writable (Location.ofText path.toList) =
        now.writable (Location.ofText path.toList)) →
    (Job.amid setup before now path).2.phase = .done (Worker.run setup
      (.edited fun _ _ => now.readText (Location.ofText path.toList)) ⟨before, []⟩ path).2
  undisturbed : before = now →
    (Job.amid setup before now path).1 = (Worker.run setup .undisturbed ⟨now, []⟩ path).1
  kept : (Job.reread setup before now path).2.pending? = none →
    (Job.amid setup before now path).1.tree = now
  refused : (Job.reread setup before now path).2.pending? ≠ none →
    now.Protected (Location.ofText path.toList) →
      (Job.amid setup before now path).1.tree = now ∧
        (Job.amid setup before now path).2.phase =
          .done (.error (.write (Location.ofText path.toList) .notPermitted))
  written : (Job.reread setup before now path).2.pending? ≠ none →
    ¬ now.Protected (Location.ofText path.toList) →
      ∃ a s, Written setup before now (Job.amid setup before now path).1.tree path a s
  writes : ∀ a s, Analysed setup before path a → Worker.wantsCorrection setup a = true →
    before.readText (Location.ofText path.toList) = .ok s →
      now.readText (Location.ofText path.toList) = .ok s → (apply s a.result.corrections).text ≠ s →
        (Job.reread setup before now path).2.pending? = some (apply s a.result.corrections).text
  corrected : (Job.amid setup before now path).2.corrected? = some true ↔
    (Job.amid setup before now path).1.tree.bytesAt (Location.ofText path.toList) ≠
      now.bytesAt (Location.ofText path.toList)

end Amid

section Written

variable {setup : AuditSetup} {before now : FileTree} {path : String}

/-- Writing the corrected text of a file that still holds what was analysed. -/
theorem written_writeText {a : Worker.Analysis} {s : Text} (analysed : Analysed setup before path a)
    (wanted : Worker.wantsCorrection setup a = true)
    (hbefore : before.readText (Location.ofText path.toList) = .ok s)
    (hnow : now.readText (Location.ofText path.toList) = .ok s) {name : List Text}
    (hwritable : now.writable (Location.ofText path.toList) = .ok name)
    (hne : (apply s a.result.corrections).text ≠ s) :
    Written setup before now
      (now.writeText (Location.ofText path.toList) (apply s a.result.corrections).text).1 path a s := by
  obtain ⟨s', rules, hread, hparse, hbuild, hrun⟩ := analysed
  cases hread.symm.trans hbefore
  obtain ⟨own, hlocate, there⟩ := FileTree.exists_of_readText hnow
  cases hlocate.symm.trans (FileTree.writable_eq_ok_iff.1 hwritable).1
  have hsource := (Document.fingerprint_of_parse hparse).1
  have journal := (Registry.isJournal_of_run hbuild hrun).2
  rw [hsource] at journal
  rw [Worker.wantsCorrection, Bool.and_eq_true, Bool.not_eq_true', List.isEmpty_eq_false_iff] at wanted
  refine ⟨wanted.1, ⟨s, rules, hread, hparse, hbuild, hrun⟩, hsource, wanted.2,
    FileTree.bytesAt_of_readText hbefore, FileTree.bytesAt_of_readText hnow, ?_,
    applied_append_dropped_perm s _, FileTree.sameNames_writeText hlocate there _, ?_⟩
  · refine ⟨Text.toUtf8 (apply s a.result.corrections).text, ?_,
      fun h => hne (Text.toUtf8_injective h), spliced_apply journal.inBounds⟩
    rw [FileTree.bytesAt, FileTree.read_writeText hwritable there]
    rfl
  · intro other hother
    refine FileTree.content?_writeText hlocate ?_ _
    rintro rfl
    exact hother hlocate

end Written

/-- A file is written only if it is to be corrected and holds what was analysed, and then only the places
of the corrections are replaced in it. -/
theorem audit_amid_edits (setup : AuditSetup) {before now : FileTree} {path : String}
    (proper : now.Proper)
    (distinct : ∀ s₀ s₁, before.readText (Location.ofText path.toList) = .ok s₀ →
      now.readText (Location.ofText path.toList) = .ok s₁ → fingerprint s₁ = fingerprint s₀ →
        s₁ = s₀) :
    SafeAmidEdits setup before now path := by
  have audit := Job.amid_eq setup before now path
  have alone : before = now →
      (Job.amid setup before now path).1 = (Worker.run setup .undisturbed ⟨now, []⟩ path).1 := by
    rintro rfl
    rw [amid_self]
  obtain ⟨htree, ⟨result, hdone, hcorrected⟩ | ⟨a, s, analysed, wanted, hnow, hprint, hne, hjob⟩⟩ :=
    reread_cases setup before now path
  · have hamid := amid_of_done hdone
    have nothing : (Job.reread setup before now path).2.pending? = none := by rw [hdone]; rfl
    refine ⟨audit, phase_amid setup before now path, alone, fun _ => hamid ▸ htree,
      fun hpending => absurd nothing hpending, fun hpending => absurd nothing hpending,
      fun _ _ => pending?_reread, ?_⟩
    rw [hamid, hdone, htree]
    exact iff_of_false hcorrected fun h => h rfl
  · obtain ⟨s₀, hbefore, hdocument⟩ : ∃ s₀, before.readText (Location.ofText path.toList) = .ok s₀ ∧
        a.document.fingerprint = fingerprint s₀ := by
      obtain ⟨s₀, rules, hbefore, hparse, -⟩ := analysed
      exact ⟨s₀, hbefore, (Document.fingerprint_of_parse hparse).2⟩
    -- with the same fingerprint, the text is the one that was analysed
    cases distinct s₀ s hbefore hnow (hprint.trans hdocument)
    have pending : (Job.reread setup before now path).2.pending? ≠ none := by rw [hjob]; nofun
    obtain ⟨hafter, hend⟩ := amid_of_decided hjob
    rw [htree] at hafter hend
    refine ⟨audit, phase_amid setup before now path, alone, fun hnone => absurd hnone pending, ?_, ?_,
      fun _ _ => pending?_reread, ?_⟩ <;>
      rcases FileTree.writable_of_proper proper hnow with
        ⟨guarded, hwritable⟩ | ⟨unguarded, name, hwritable⟩
    · intro _ _
      rw [hafter, hend, FileTree.writeText_of_error hwritable]
      exact ⟨rfl, rfl⟩
    · exact fun _ guarded => absurd guarded unguarded
    · exact fun _ unguarded => absurd guarded unguarded
    · intro _ _
      rw [hafter]
      exact ⟨a, s, written_writeText analysed wanted hbefore hnow hwritable hne⟩
    · rw [hafter, hend, Job.corrected?_written, FileTree.writeText_of_error hwritable]
      exact iff_of_false nofun fun h => h rfl
    · have written := written_writeText analysed wanted hbefore hnow hwritable hne
      obtain ⟨bytes, hbytes, hchanged, -⟩ := written.spliced
      rw [hafter, hend, Job.corrected?_written, hbytes, written.unchanged,
        FileTree.writeText_of_writable hwritable]
      exact iff_of_true rfl fun h => hchanged (Except.ok.inj h)

/-- A comment with a letter of two bytes, a line break of two characters, and a directive. -/
def countedTemplate (count : Char) : Text :=
  "<!--\u00e9-->\r\n\x7b# template-auditor:counter".toList ++
    " Accessibility.AvoidGenericLinkTextCounter ".toList ++ count :: " #\x7d".toList

/-- A tree of one file. -/
def oneFile (s : Text) : FileTree :=
  { files := [(["a.html".toList], .bytes (Text.toUtf8 s))] }

theorem proper_oneFile (s : Text) : (oneFile s).Proper := by
  intro f hf
  cases List.mem_singleton.1 hf
  rfl

/-- The number in a directive is replaced where nobody edits the file, and a link that somebody edits is
left as it was found. -/
theorem audit_amid_edits_oneFile :
    (SafeAmidEdits { autocorrect := true } (oneFile (countedTemplate '5'))
        (oneFile (countedTemplate '5')) "a.html" ∧
      (Job.amid { autocorrect := true } (oneFile (countedTemplate '5'))
        (oneFile (countedTemplate '5')) "a.html").1.tree.bytesAt (Location.ofText "a.html".toList) =
          .ok (Text.toUtf8 (countedTemplate '0'))) ∧
    SafeAmidEdits { autocorrect := true } (oneFile genericLink) (oneFile (genericLink ++ ['!']))
        "a.html" ∧
      (Job.amid { autocorrect := true } (oneFile genericLink) (oneFile (genericLink ++ ['!']))
        "a.html").1.tree.bytesAt (Location.ofText "a.html".toList) =
          .ok (Text.toUtf8 (genericLink ++ ['!'])) := by
  refine ⟨⟨?_, ?_⟩, ?_⟩
  · refine audit_amid_edits _ (proper_oneFile _) fun s₀ s₁ hbefore hnow _ => ?_
    exact Except.ok.inj (hnow.symm.trans hbefore)
  · refine eq_ok_of_toOption ?_
    decide +kernel
  · have hbefore : (oneFile genericLink).readText (Location.ofText "a.html".toList) =
        .ok genericLink := eq_ok_of_toOption (by decide +kernel)
    have hnow : (oneFile (genericLink ++ ['!'])).readText (Location.ofText "a.html".toList) =
        .ok (genericLink ++ ['!']) := eq_ok_of_toOption (by decide +kernel)
    have hprint : fingerprint (genericLink ++ ['!']) ≠ fingerprint genericLink := by decide +kernel
    have uncorrected : (Job.amid { autocorrect := true } (oneFile genericLink)
        (oneFile (genericLink ++ ['!'])) "a.html").2.corrected? = some false := by decide +kernel
    have safe : SafeAmidEdits { autocorrect := true } (oneFile genericLink)
        (oneFile (genericLink ++ ['!'])) "a.html" := by
      refine audit_amid_edits _ (proper_oneFile _) fun s₀ s₁ hs₀ hs₁ hsame => ?_
      cases hbefore.symm.trans hs₀
      cases hnow.symm.trans hs₁
      exact absurd hsame hprint
    refine ⟨safe, ?_⟩
    rw [← FileTree.bytesAt_of_readText hnow]
    by_contra hchanged
    cases uncorrected.symm.trans (safe.corrected.2 hchanged)

end MarkupAudit
